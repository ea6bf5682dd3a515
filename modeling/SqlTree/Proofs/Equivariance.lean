import Mathlib.Data.List.InsertIdx
import SqlTree.Edit
import SqlTree.Proofs.Renaming
import SqlTree.Replace

/-! # Setters, edits and replacements under a renaming

A change made to a renamed node, with renamed nodes to put in, gives what a renaming makes of the
change. Replacing looks at identities, so there the renaming has to keep them apart. -/

namespace SqlTree

variable {δ ε : Type} (ρ : NodeId → NodeId)

/-! ## Setters -/

namespace SourceHeader

theorem rename_setAlias (h : SourceHeader) (a : Option String) :
    rename ρ (h.setAlias a) = (rename ρ h).setAlias a := by
  obtain ⟨i, a', hints, e⟩ := h
  simp [setAlias]

theorem rename_addHint (h : SourceHeader) (x : Hint) :
    rename ρ (h.addHint x) = (rename ρ h).addHint (rename ρ x) := by
  obtain ⟨i, a, hints, e⟩ := h
  simp [addHint]

theorem rename_setHints (h : SourceHeader) (xs : List Hint) :
    rename ρ (h.setHints xs) = (rename ρ h).setHints (rename ρ xs) := by
  obtain ⟨i, a, hints, e⟩ := h
  simp [setHints, Function.comp_def]

theorem rename_setFlashback (h : SourceHeader) (e : Option Expr) :
    rename ρ (h.setFlashback e) = (rename ρ h).setFlashback (rename ρ e) := by
  obtain ⟨i, a, hints, e'⟩ := h
  simp [setFlashback, swap, Function.comp_def]

end SourceHeader

theorem DataType.rename_addArgument (t : DataType) (e : Expr) :
    rename ρ (t.addArgument e) = (rename ρ t).addArgument (rename ρ e) := by
  obtain ⟨i, name, es⟩ := t
  simp [addArgument]

namespace TableRef

theorem rename_setExpr (t : TableRef) (e : Option Expr) :
    rename ρ (t.setExpr e) = (rename ρ t).setExpr (rename ρ e) := by
  rw [setExpr, setExpr, nodeId_rename]
  obtain ⟨h, e', es, o⟩ := t
  simp [swap, Function.comp_def]

theorem rename_addPartition (t : TableRef) (e : Expr) :
    rename ρ (t.addPartition e) = (rename ρ t).addPartition (rename ρ e) := by
  rw [addPartition, addPartition, nodeId_rename]
  obtain ⟨h, e', es, o⟩ := t
  simp

end TableRef

namespace Join

variable {σ : Type} [HasInfo σ] [HasFamily σ] [HasRename σ] [Renames σ] (j : Join σ)

theorem rename_setLeft (s : Option σ) :
    rename ρ (j.setLeft s) = (rename ρ j).setLeft (rename ρ s) := by
  rw [setLeft, setLeft, nodeId_rename]
  obtain ⟨h, l, k, r, c, us, n⟩ := j
  simp [swap, Function.comp_def]

theorem rename_setRight (s : Option σ) :
    rename ρ (j.setRight s) = (rename ρ j).setRight (rename ρ s) := by
  rw [setRight, setRight, nodeId_rename]
  obtain ⟨h, l, k, r, c, us, n⟩ := j
  simp [swap, Function.comp_def]

theorem rename_setCondition (e : Option Expr) :
    rename ρ (j.setCondition e) = (rename ρ j).setCondition (rename ρ e) := by
  rw [setCondition, setCondition, nodeId_rename]
  obtain ⟨h, l, k, r, c, us, n⟩ := j
  simp [swap, Function.comp_def]

theorem rename_addColumn (e : Expr) :
    rename ρ (j.addColumn e) = (rename ρ j).addColumn (rename ρ e) := by
  rw [addColumn, addColumn, nodeId_rename]
  obtain ⟨h, l, k, r, c, us, n⟩ := j
  simp

end Join

namespace Column

theorem rename_setName (c : Column) (e : Expr) :
    rename ρ (c.setName e) = (rename ρ c).setName (rename ρ e) := by
  obtain ⟨i, name, t, d, notNull, primaryKey⟩ := c
  simp [setName]

theorem rename_setDataType (c : Column) (t : Option DataType) :
    rename ρ (c.setDataType t) = (rename ρ c).setDataType (rename ρ t) := by
  obtain ⟨i, name, t', d, notNull, primaryKey⟩ := c
  simp [setDataType, swap, Function.comp_def]

theorem rename_setDefaultValue (c : Column) (e : Option Expr) :
    rename ρ (c.setDefaultValue e) = (rename ρ c).setDefaultValue (rename ρ e) := by
  obtain ⟨i, name, t, d, notNull, primaryKey⟩ := c
  simp [setDefaultValue, swap, Function.comp_def]

end Column

theorem UniqueKey.rename_addColumn (k : UniqueKey) (e : Expr) :
    rename ρ (k.addColumn e) = (rename ρ k).addColumn (rename ρ e) := by
  obtain ⟨i, name, es, primaryKey⟩ := k
  simp [addColumn]

theorem UniqueKey.rename_setName (k : UniqueKey) (e : Option Expr) :
    rename ρ (k.setName e) = (rename ρ k).setName (rename ρ e) := by
  obtain ⟨i, name, es, primaryKey⟩ := k
  simp [setName, swap, Function.comp_def]

theorem TableIndex.rename_addColumn (x : TableIndex) (e : Expr) :
    rename ρ (x.addColumn e) = (rename ρ x).addColumn (rename ρ e) := by
  obtain ⟨i, name, es, unique⟩ := x
  simp [addColumn]

theorem Check.rename_setName (c : Check) (e : Option Expr) :
    rename ρ (c.setName e) = (rename ρ c).setName (rename ρ e) := by
  obtain ⟨i, name, e'⟩ := c
  simp [setName, swap, Function.comp_def]

namespace CreateTable

variable (c : CreateTable ε)

theorem rename_setSource (t : Option TableRef) :
    rename ρ (c.setSource t) = (rename ρ c).setSource (rename ρ t) := by
  obtain ⟨i, db, b, k, source, es, inherits, select⟩ := c
  simp [setSource, swap, Function.comp_def]

theorem rename_setInherits (t : Option TableRef) :
    rename ρ (c.setInherits t) = (rename ρ c).setInherits (rename ρ t) := by
  obtain ⟨i, db, b, k, source, es, inherits, select⟩ := c
  simp [setInherits, swap, Function.comp_def]

theorem rename_setSelect (s : Option Select) :
    rename ρ (c.setSelect s) = (rename ρ c).setSelect (rename ρ s) := by
  obtain ⟨i, db, b, k, source, es, inherits, select⟩ := c
  simp [setSelect, swap, Function.comp_def]

theorem rename_addElement (e : TableElement ε) :
    rename ρ (c.addElement e) = (rename ρ c).addElement (rename ρ e) := by
  obtain ⟨i, db, b, k, source, es, inherits, select⟩ := c
  simp [addElement]

theorem rename_removeElement (i : Nat) :
    rename ρ (c.removeElement i) = (rename ρ c).removeElement i := by
  obtain ⟨i, db, b, k, source, es, inherits, select⟩ := c
  simp [removeElement, Function.comp_def, List.eraseIdx_map]

theorem rename_putElement (i : Nat) (e : TableElement ε) :
    rename ρ (c.putElement i e) = (rename ρ c).putElement i (rename ρ e) := by
  obtain ⟨i, db, b, k, source, es, inherits, select⟩ := c
  simp [putElement, List.map_set]

theorem rename_swapElements (i j : Nat) :
    rename ρ (c.swapElements i j) = (rename ρ c).swapElements i j := by
  have helement (i : Nat) : (rename ρ c).elements[i]? = c.elements[i]?.map (rename ρ) :=
    List.getElem?_map
  unfold swapElements
  rw [helement, helement]
  cases c.elements[i]? with
  | none => rfl
  | some a =>
    cases c.elements[j]? with
    | none => rfl
    | some b =>
      change rename ρ ((c.putElement i b).putElement j a) = _
      rw [rename_putElement, rename_putElement]
      rfl

theorem rename_addBodyComments (comments : List String) :
    rename ρ (c.addBodyComments comments) = (rename ρ c).addBodyComments comments := by
  have hattributes : (rename ρ c).info.attributes = c.info.attributes := attributes_rename ρ c
  unfold addBodyComments
  rw [hattributes]
  split
  · rfl
  · generalize Bag.modify c.info.attributes _ _ _ = r
    obtain ⟨b, _ | _⟩ := r
    · exact rename_setAttributes ρ _ c
    · exact rename_setAttributes ρ _ c

end CreateTable

namespace Parameter

variable (p : Parameter)

theorem rename_setName (e : Option Expr) :
    rename ρ (p.setName e) = (rename ρ p).setName (rename ρ e) := by
  obtain ⟨i, n, t, d, dir, nc, k, c, ps⟩ := p
  simp [setName, swap, Function.comp_def]

theorem rename_setDataType (t : Option DataType) :
    rename ρ (p.setDataType t) = (rename ρ p).setDataType (rename ρ t) := by
  obtain ⟨i, n, t', d, dir, nc, k, c, ps⟩ := p
  simp [setDataType, swap, Function.comp_def]

theorem rename_setDefaultValue (e : Option Expr) :
    rename ρ (p.setDefaultValue e) = (rename ρ p).setDefaultValue (rename ρ e) := by
  obtain ⟨i, n, t, d, dir, nc, k, c, ps⟩ := p
  simp [setDefaultValue, swap, Function.comp_def]

theorem rename_setCursor (e : Option Expr) :
    rename ρ (p.setCursor e) = (rename ρ p).setCursor (rename ρ e) := by
  obtain ⟨i, n, t, d, dir, nc, k, c, ps⟩ := p
  simp [setCursor, swap, Function.comp_def]

theorem rename_addParameter (q : Parameter) :
    rename ρ (p.addParameter q) = (rename ρ p).addParameter (rename ρ q) := by
  obtain ⟨i, n, t, d, dir, nc, k, c, ps⟩ := p
  simp [addParameter]

theorem rename_setParameters (qs : List Parameter) :
    rename ρ (p.setParameters qs) = (rename ρ p).setParameters (rename ρ qs) := by
  obtain ⟨i, n, t, d, dir, nc, k, c, ps⟩ := p
  simp [setParameters, Function.comp_def]

end Parameter

/-! ## Edits -/

instance : HasRename (Edit δ ε) where
  rename ρ
    | .addHint h => .addHint (rename ρ h)
    | .setHints hs => .setHints (rename ρ hs)
    | .setFlashback e => .setFlashback (rename ρ e)
    | .setExpr e => .setExpr (rename ρ e)
    | .addPartition e => .addPartition (rename ρ e)
    | .setLeft s => .setLeft (rename ρ s)
    | .setRight s => .setRight (rename ρ s)
    | .setCondition e => .setCondition (rename ρ e)
    | .addUsing e => .addUsing (rename ρ e)
    | .setName e => .setName (rename ρ e)
    | .setSource t => .setSource (rename ρ t)
    | .addElement e => .addElement (rename ρ e)
    | .setInherits t => .setInherits (rename ρ t)
    | .setSelect s => .setSelect (rename ρ s)
    | .setDataType t => .setDataType (rename ρ t)
    | .setDefaultValue e => .setDefaultValue (rename ρ e)
    | .addColumn e => .addColumn (rename ρ e)
    | .addArgument e => .addArgument (rename ρ e)
    | .setCursor e => .setCursor (rename ρ e)
    | .addParameter p => .addParameter (rename ρ p)
    | .setParameters ps => .setParameters (rename ρ ps)
    | e => e
  rename_rename ρ σ e := by cases e <;> simp

instance : HasRename (Handback δ ε) where
  rename ρ
    | .nothing => .nothing
    | .node n => .node (rename ρ n)
    | .nodes ns => .nodes (rename ρ ns)
    | .text s => .text s
  rename_rename ρ σ b := by cases b <;> simp

section

variable {ρ} {α β : Type} [HasRename α] [HasRename β] {wrap : β → Node δ ε}

theorem rename_editedSlot {r r' : α × Option β} (hr : rename ρ r = r')
    (hwrap : ∀ b, rename ρ (wrap b) = wrap (rename ρ b)) :
    rename ρ (editedSlot wrap r) = editedSlot wrap r' := by
  rw [← hr]
  obtain ⟨a, _ | b⟩ := r
  · rfl
  · exact congrArg (fun n => some (rename ρ a, Handback.node n)) (hwrap b)

theorem rename_editedList {r r' : α × List β} (hr : rename ρ r = r')
    (hwrap : ∀ b, rename ρ (wrap b) = wrap (rename ρ b)) :
    rename ρ (some (r.1, Handback.nodes (r.2.map wrap))) =
      some (r'.1, Handback.nodes (r'.2.map wrap)) := by
  have hlist : (r.2.map wrap).map (rename ρ) = (r.2.map (rename ρ)).map wrap := by
    simp [hwrap]
  rw [← hr]
  exact congrArg (fun ns => some (rename ρ r.1, Handback.nodes ns)) hlist

end

theorem SourceHeader.rename_edit (h : SourceHeader) (e : Edit δ ε) :
    rename ρ (h.edit e) = (rename ρ h).edit (rename ρ e) := by
  cases e with
  | addHint x => exact congrArg edited (h.rename_addHint ρ x)
  | setHints xs =>
    exact rename_editedList (h.rename_setHints ρ xs) fun _ => rfl
  | setFlashback e =>
    exact rename_editedSlot (h.rename_setFlashback ρ e) fun _ => rfl
  | _ => rfl

theorem rename_editHeader {α : Type} [HasHeader α] [HasRename α] (a : α) (e : Edit δ ε)
    (hheader : header (rename ρ a) = rename ρ (header a))
    (hset : ∀ h, rename ρ (setHeader h a) = setHeader (rename ρ h) (rename ρ a)) :
    rename ρ (editHeader a e) = editHeader (rename ρ a) (rename ρ e) := by
  rw [editHeader, editHeader, hheader, ← SourceHeader.rename_edit]
  cases (header a).edit e with
  | none => rfl
  | some r => exact congrArg (fun a => some (a, rename ρ r.2)) (hset r.1)

theorem TableRef.rename_edit (t : TableRef) (e : Edit δ ε) :
    rename ρ (t.edit e) = (rename ρ t).edit (rename ρ e) := by
  cases e with
  | setExpr e =>
    exact rename_editedSlot (t.rename_setExpr ρ e) fun _ => rfl
  | addPartition e => exact congrArg edited (t.rename_addPartition ρ e)
  | setSchemaObject n => rfl
  | _ => exact rename_editHeader ρ t _ rfl fun _ => rfl

theorem JoinSource.rename_edit (j : JoinSource δ) (e : Edit δ ε) :
    rename ρ (JoinSource.edit j e) = JoinSource.edit (rename ρ j) (rename ρ e) := by
  cases e with
  | setLeft s =>
    exact rename_editedSlot (j.rename_setLeft ρ s) fun _ => rfl
  | setRight s =>
    exact rename_editedSlot (j.rename_setRight ρ s) fun _ => rfl
  | setCondition e =>
    exact rename_editedSlot (j.rename_setCondition ρ e) fun _ => rfl
  | addUsing e => exact congrArg edited (j.rename_addColumn ρ e)
  | setJoinKind k => rfl
  | setNatural b => rfl
  | _ => exact rename_editHeader ρ j _ rfl fun _ => rfl

theorem Column.rename_edit (c : Column) (e : Edit δ ε) :
    rename ρ (c.edit e) = (rename ρ c).edit (rename ρ e) := by
  cases e with
  | setName e =>
    cases e with
    | none => rfl
    | some e =>
      exact congrArg (fun r : Column × Expr => some (r.1, Handback.node (.expr r.2)))
        (c.rename_setName ρ e)
  | setDataType t =>
    exact rename_editedSlot (c.rename_setDataType ρ t) fun _ => rfl
  | setDefaultValue e =>
    exact rename_editedSlot (c.rename_setDefaultValue ρ e) fun _ => rfl
  | _ => rfl

theorem UniqueKey.rename_edit (k : UniqueKey) (e : Edit δ ε) :
    rename ρ (k.edit e) = (rename ρ k).edit (rename ρ e) := by
  cases e with
  | setName e =>
    exact rename_editedSlot (k.rename_setName ρ e) fun _ => rfl
  | addColumn e => exact congrArg edited (k.rename_addColumn ρ e)
  | _ => rfl

theorem TableIndex.rename_edit (x : TableIndex) (e : Edit δ ε) :
    rename ρ (x.edit e) = (rename ρ x).edit (rename ρ e) := by
  cases e with
  | addColumn e => exact congrArg edited (x.rename_addColumn ρ e)
  | _ => rfl

theorem Check.rename_edit (c : Check) (e : Edit δ ε) :
    rename ρ (c.edit e) = (rename ρ c).edit (rename ρ e) := by
  cases e with
  | setName e =>
    exact rename_editedSlot (c.rename_setName ρ e) fun _ => rfl
  | _ => rfl

theorem DataType.rename_edit (t : DataType) (e : Edit δ ε) :
    rename ρ (t.edit e) = (rename ρ t).edit (rename ρ e) := by
  cases e with
  | addArgument e => exact congrArg edited (t.rename_addArgument ρ e)
  | _ => rfl

theorem Parameter.rename_edit (p : Parameter) (e : Edit δ ε) :
    rename ρ (p.edit e) = (rename ρ p).edit (rename ρ e) := by
  cases e with
  | setName e =>
    exact rename_editedSlot (p.rename_setName ρ e) fun _ => rfl
  | setDataType t =>
    exact rename_editedSlot (p.rename_setDataType ρ t) fun _ => rfl
  | setDefaultValue e =>
    exact rename_editedSlot (p.rename_setDefaultValue ρ e) fun _ => rfl
  | setCursor e =>
    exact rename_editedSlot (p.rename_setCursor ρ e) fun _ => rfl
  | setDirection _ | setNoCopy _ | setConstant _ =>
    obtain ⟨i, n, t, d, dir, nc, k, c, ps⟩ := p
    rfl
  | addParameter q => exact congrArg edited (p.rename_addParameter ρ q)
  | setParameters qs =>
    exact rename_editedList (p.rename_setParameters ρ qs) fun _ => rfl
  | _ => rfl

/-! ## Replacements -/

instance : HasRename Replacement where
  rename ρ
    | .replaced e => .replaced (rename ρ e)
    | .noMatch e => .noMatch (rename ρ e)
  rename_rename ρ σ r := by cases r <;> simp

@[simp] theorem Replacement.rename_replaced (e : Expr) :
    rename ρ (replaced e) = replaced (rename ρ e) := rfl

@[simp] theorem Replacement.rename_noMatch (e : Expr) :
    rename ρ (noMatch e) = noMatch (rename ρ e) := rfl

section

variable {ρ} (hρ : Function.Injective ρ)

include hρ

theorem rename_replaceSlot (owner : NodeId) (slot : Option Expr) (id : NodeId) (target : Expr) :
    rename ρ (replaceSlot owner slot id target) =
      replaceSlot (ρ owner) (rename ρ slot) (ρ id) (rename ρ target) := by
  cases slot with
  | none => rfl
  | some e =>
    by_cases h : nodeId e = id
    · simp [replaceSlot, h]
    · simp [replaceSlot, h, hρ.eq_iff]

theorem rename_replaceIn (owner : NodeId) (es : List Expr) (id : NodeId) (target : Expr) :
    rename ρ (replaceIn owner es id target) =
      replaceIn (ρ owner) (rename ρ es) (ρ id) (rename ρ target) := by
  induction es with
  | nil => rfl
  | cons e es ih =>
    by_cases h : nodeId e = id
    · simp [replaceIn, h]
    · simp only [rename_list, List.map_cons, replaceIn, if_neg h, nodeId_rename, hρ.eq_iff]
      rw [rename_list] at ih
      rw [← ih]
      rfl

end

variable {ρ}

theorem Replacement.rename_orElse {α : Type} [HasRename α] {r r' : α × Replacement}
    {next next' : α → Expr → α × Replacement} (hr : rename ρ r = r')
    (hnext : ∀ a e, rename ρ (next a e) = next' (rename ρ a) (rename ρ e)) :
    rename ρ (orElse r next) = orElse r' next' := by
  rw [← hr]
  obtain ⟨a, e | e⟩ := r
  · rfl
  · exact hnext a e

theorem TableSource.header_rename (s : TableSource δ) :
    header (rename ρ s) = rename ρ (header s) := by
  cases s <;> rfl

theorem TableSource.rename_setHeader (h : SourceHeader) (s : TableSource δ) :
    rename ρ (setHeader h s) = setHeader (rename ρ h) (rename ρ s) := by
  cases s <;> rfl

section

variable (hρ : Function.Injective ρ) (id : NodeId) (target : Expr)

include hρ

theorem SourceHeader.rename_replaceFlashback (h : SourceHeader) :
    rename ρ (h.replaceFlashback id target) =
      (rename ρ h).replaceFlashback (ρ id) (rename ρ target) := by
  obtain ⟨i, a, hints, e⟩ := h
  have hslot := rename_replaceSlot hρ i.id e id target
  simp only [rename_mk, replaceFlashback, NodeInfo.id_rename, ← rename_slot, ← hslot]
  rfl

theorem rename_replaceFlashback {α : Type} [HasHeader α] [HasRename α] (a : α)
    (hheader : header (rename ρ a) = rename ρ (header a))
    (hset : ∀ h, rename ρ (setHeader h a) = setHeader (rename ρ h) (rename ρ a)) :
    rename ρ (replaceFlashback a id target) =
      replaceFlashback (rename ρ a) (ρ id) (rename ρ target) := by
  have hflashback := SourceHeader.rename_replaceFlashback hρ id target (header a)
  simp only [replaceFlashback, hheader, ← hflashback]
  exact congrArg (Prod.mk · _) (hset _)

theorem TableRef.rename_replace (t : TableRef) :
    rename ρ (t.replace id target) = (rename ρ t).replace (ρ id) (rename ρ target) := by
  refine Replacement.rename_orElse (Replacement.rename_orElse ?_ fun t e => ?_) fun t e => ?_
  · exact congrArg (fun r : Option Expr × Replacement => ({ rename ρ t with expr := r.1 }, r.2))
      (rename_replaceSlot hρ (nodeId t) t.expr id target)
  · exact congrArg (fun r : List Expr × Replacement => ({ rename ρ t with partitions := r.1 }, r.2))
      (rename_replaceIn hρ (nodeId t) t.partitions id e)
  · exact rename_replaceFlashback hρ id e t rfl fun _ => rfl

theorem Join.rename_replace {σ : Type} [HasRename σ] (j : Join σ) :
    rename ρ (j.replace id target) = (rename ρ j).replace (ρ id) (rename ρ target) := by
  refine Replacement.rename_orElse (Replacement.rename_orElse ?_ fun j e => ?_) fun j e => ?_
  · exact congrArg
      (fun r : Option Expr × Replacement => ({ rename ρ j with condition := r.1 }, r.2))
      (rename_replaceSlot hρ (nodeId j) j.condition id target)
  · exact congrArg (fun r : List Expr × Replacement => ({ rename ρ j with columns := r.1 }, r.2))
      (rename_replaceIn hρ (nodeId j) j.columns id e)
  · exact rename_replaceFlashback hρ id e j rfl fun _ => rfl

theorem TableSource.rename_replace (s : TableSource δ) :
    rename ρ (s.replace id target) = (rename ρ s).replace (ρ id) (rename ρ target) := by
  cases s with
  | table t =>
    exact congrArg (fun r : TableRef × Replacement => (table r.1, r.2))
      (t.rename_replace hρ id target)
  | join j =>
    change (rename ρ (join (j.replace id target).1), rename ρ (j.replace id target).2) = _
    rw [rename_join, rename_join]
    exact congrArg (fun r : JoinSource δ × Replacement => (join r.1, r.2))
      (j.rename_replace hρ id target)
  | dialect h kind parts =>
    exact congrArg
      (fun r : SourceHeader × Replacement => (dialect r.1 kind (parts.map (rename ρ)), r.2))
      (h.rename_replaceFlashback hρ id target)

namespace Node

theorem rename_replace? (n : Node δ ε) :
    rename ρ (n.replace? id target) = (rename ρ n).replace? (ρ id) (rename ρ target) := by
  cases n with
  | table t =>
    exact congrArg (fun r : TableRef × Replacement => some (table r.1, r.2))
      (t.rename_replace hρ id target)
  | join j =>
    exact congrArg (fun r : JoinSource δ × Replacement => some (join r.1, r.2))
      (j.rename_replace hρ id target)
  | source s =>
    exact congrArg (fun r : TableSource δ × Replacement => some (source r.1, r.2))
      (s.rename_replace hρ id target)
  | _ => rfl

theorem rename_replaceFlashback? (n : Node δ ε) :
    rename ρ (n.replaceFlashback? id target) =
      (rename ρ n).replaceFlashback? (ρ id) (rename ρ target) := by
  cases n with
  | table t =>
    exact congrArg (fun r : TableRef × Replacement => some (table r.1, r.2))
      (rename_replaceFlashback hρ id target t rfl fun _ => rfl)
  | join j =>
    exact congrArg (fun r : JoinSource δ × Replacement => some (join r.1, r.2))
      (rename_replaceFlashback hρ id target j rfl fun _ => rfl)
  | source s =>
    exact congrArg (fun r : TableSource δ × Replacement => some (source r.1, r.2))
      (rename_replaceFlashback hρ id target s s.header_rename fun h => s.rename_setHeader h)
  | _ => rfl

end Node

end

/-! ## Parts of a node -/

theorem TableElement.rename_toNode (e : TableElement ε) :
    rename ρ (e.toNode : Node δ ε) = (rename ρ e).toNode := by
  cases e <;> rfl

namespace Node

theorem rename_source? (n : Node δ ε) : rename ρ n.source? = (rename ρ n).source? := by
  cases n with
  | join j => exact congrArg some (TableSource.rename_join ρ j)
  | _ => rfl

theorem rename_element? (n : Node δ ε) : rename ρ n.element? = (rename ρ n).element? := by
  cases n <;> rfl

theorem rename_part? (f : Focus) (n : Node δ ε) :
    rename ρ (n.part? f) = (rename ρ n).part? f := by
  cases f with
  | whole => rfl
  | element i =>
    cases n with
    | create c =>
      change (c.elements[i]?.map (·.toNode)).map (rename ρ) =
        (c.elements.map (rename ρ))[i]?.map (·.toNode)
      rw [List.getElem?_map]
      cases c.elements[i]? with
      | none => rfl
      | some e => exact congrArg some e.rename_toNode
    | _ => rfl
  | join =>
    cases n with
    | source s =>
      cases s with
      | join j =>
        change some (join (rename ρ j)) = part? .join (source (rename ρ (.join j)))
        rw [TableSource.rename_join]
        rfl
      | table _ | dialect _ _ _ => rfl
    | _ => rfl

theorem rename_setPart (f : Focus) (part n : Node δ ε) :
    rename ρ (part.setPart f n) = (rename ρ part).setPart f (rename ρ n) := by
  cases f with
  | whole => rfl
  | element i =>
    cases n with
    | create c =>
      have helement := part.rename_element? (ρ := ρ)
      change _ = setPart (rename ρ part) (.element i) (create (rename ρ c))
      rw [setPart, setPart, ← helement]
      cases part.element? with
      | none => rfl
      | some e => exact congrArg create (c.rename_putElement ρ i e)
    | _ => rfl
  | join =>
    cases n with
    | source s =>
      cases part with
      | join j => exact congrArg source (TableSource.rename_join ρ j)
      | _ => rfl
    | _ => rfl

end Node

end SqlTree
