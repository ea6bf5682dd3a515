import SqlTree.Proofs.Making

/-! # Edits are exchanges

An edit of a node takes in the nodes that it is given and hands nodes back. Only one edit does more:
a name for a table definition is first made into a table source. -/

namespace SqlTree

open Family

variable {δ ε : Type}

/-- The nodes that an edit is given. -/
def Edit.given : Edit δ ε → List (Node δ ε)
  | addHint h => [.hint h]
  | setHints hs => hs.map .hint
  | addPartition e | addUsing e | addColumn e | addArgument e => [.expr e]
  | setFlashback e | setExpr e | setCondition e | setName e | setDefaultValue e | setCursor e =>
    (e.map .expr).toList
  | setLeft s | setRight s => (s.map .source).toList
  | setSource t | setInherits t => (t.map .table).toList
  | addElement e => [.element e]
  | setSelect s => (s.map .select).toList
  | setDataType t => (t.map .dataType).toList
  | addParameter p => [.parameter p]
  | setParameters ps => ps.map .parameter
  | _ => []

/-- The nodes that an edit hands back. -/
def Handback.toList : Handback δ ε → List (Node δ ε)
  | node n => [n]
  | nodes ns => ns
  | nothing | text _ => []

/-! ## Nodes of one kind as nodes of any kind -/

theorem family_toNode (e : TableElement ε) : family (e.toNode (δ := δ)) = family e := by
  cases e <;> rfl

theorem family_source? {n : Node δ ε} {s : TableSource δ} (h : n.source? = some s) :
    family s = family n := by
  unfold Node.source? at h
  split at h
  · cases h; rfl
  · cases h; exact TableSource.family_join _
  · cases h; rfl
  · cases h

theorem family_element? {n : Node δ ε} {e : TableElement ε} (h : n.element? = some e) :
    family e = family n := by
  unfold Node.element? at h
  split at h <;> cases h <;> rfl

variable {T : Attributes → Prop} {f : Family} {given : List Family} {back : Handback δ ε}

section

variable {α β : Type} [HasInfo α] [HasFamily α] [HasInfo β] [HasFamily β] (wrap : β → Node δ ε)
  (hwrap : ∀ b, family (wrap b) = family b)

include hwrap

theorem families_slot (slot : Option β) :
    (slot.map wrap).toList.map family = slotFamilies slot := by
  cases slot with
  | none => rfl
  | some b => simp [hwrap]

theorem families_handback (slot : Option β) :
    (Handback.slot wrap slot).toList.map family = slotFamilies slot := by
  cases slot with
  | none => rfl
  | some b => simp [Handback.slot, Handback.toList, hwrap]

theorem editedSlot_exchange (value : Option β) {a' : α} {r : α × Option β}
    (he : Exchange T f (slotFamilies value) (family r.1) (slotFamilies r.2))
    (h : editedSlot wrap r = some (a', back)) :
    Exchange T f ((value.map wrap).toList.map family) (family a') (back.toList.map family) := by
  cases h
  rw [families_slot wrap hwrap, families_handback wrap hwrap]
  exact he

theorem editedList_exchange (values : List β) {a' : α} {r : α × List β}
    (he : Exchange T f (values.map family) (family r.1) (r.2.map family))
    (h : some (r.1, .nodes (r.2.map wrap)) = some (a', back)) :
    Exchange T f ((values.map wrap).map family) (family a') (back.toList.map family) := by
  cases h
  simpa only [Handback.toList, List.map_map, Function.comp_def, hwrap] using he

omit hwrap in
theorem edited_exchange {a a' : α} (h : edited a = some (a', back))
    (he : Exchange T f given (family a) []) :
    Exchange T f given (family a') (back.toList.map family) := by
  cases h
  exact he

end

/-! ## Edits of each kind of node -/

variable {e : Edit δ ε}

theorem SourceHeader.edit_exchanges {h h' : SourceHeader} (hedit : h.edit e = some (h', back)) :
    h.Exchanges T (e.given.map family) h' (back.toList.map family) := by
  unfold SourceHeader.edit at hedit
  split at hedit
  · cases hedit
    exact h.setAlias_exchanges _
  · cases hedit
    exact h.addHint_exchanges _
  · rename_i xs
    cases hedit
    have he := h.setHints_exchanges (T := T) xs
    simp only [Edit.given, Handback.toList, List.map_map]
    exact he
  · rename_i x
    cases hedit
    have he := h.setFlashback_exchanges (T := T) x
    rwa [← families_slot (δ := δ) (ε := ε) .expr fun _ => rfl, ← families_handback .expr fun _ => rfl]
      at he
  · cases hedit

theorem editHeader_exchange {α : Type} [HasInfo α] [HasFamily α] [HasHeader α] [HasHeaderFamily α]
    {a a' : α} (hedit : editHeader a e = some (a', back)) :
    Exchange T (family a) (e.given.map family) (family a') (back.toList.map family) := by
  obtain ⟨⟨h, back'⟩, hheader, heq⟩ := Option.map_eq_some_iff.mp hedit
  cases heq
  exact (SourceHeader.edit_exchanges hheader).exchange

theorem TableRef.edit_exchange {t t' : TableRef} (hedit : t.edit e = some (t', back)) :
    Exchange T (family t) (e.given.map family) (family t') (back.toList.map family) := by
  unfold TableRef.edit at hedit
  split at hedit
  · exact editedSlot_exchange .expr (fun _ => rfl) _ (t.setExpr_exchange _) hedit
  · exact edited_exchange hedit (t.addPartition_exchange _)
  · exact edited_exchange hedit (.refl _)
  · exact editHeader_exchange hedit

theorem JoinSource.edit_exchange {j j' : JoinSource δ}
    (hedit : JoinSource.edit j e = some (j', back)) :
    Exchange T (family j) (e.given.map family) (family j') (back.toList.map family) := by
  unfold JoinSource.edit at hedit
  split at hedit
  · exact editedSlot_exchange .source (fun _ => rfl) _ (j.setLeft_exchange _) hedit
  · exact editedSlot_exchange .source (fun _ => rfl) _ (j.setRight_exchange _) hedit
  · exact edited_exchange hedit (.refl _)
  · exact editedSlot_exchange .expr (fun _ => rfl) _ (j.setCondition_exchange _) hedit
  · exact edited_exchange hedit (j.addColumn_exchange _)
  · exact edited_exchange hedit (.refl _)
  · exact editHeader_exchange hedit

theorem Column.edit_exchange {c c' : Column} (hedit : c.edit e = some (c', back)) :
    Exchange T (family c) (e.given.map family) (family c') (back.toList.map family) := by
  unfold Column.edit at hedit
  split at hedit
  · cases hedit
    exact c.setName_exchange _
  · exact editedSlot_exchange .dataType (fun _ => rfl) _ (c.setDataType_exchange _) hedit
  · exact editedSlot_exchange .expr (fun _ => rfl) _ (c.setDefaultValue_exchange _) hedit
  · exact edited_exchange hedit (.refl _)
  · exact edited_exchange hedit (.refl _)
  · cases hedit

theorem UniqueKey.edit_exchange {k k' : UniqueKey} (hedit : k.edit e = some (k', back)) :
    Exchange T (family k) (e.given.map family) (family k') (back.toList.map family) := by
  unfold UniqueKey.edit at hedit
  split at hedit
  · exact editedSlot_exchange .expr (fun _ => rfl) _ (k.setName_exchange _) hedit
  · exact edited_exchange hedit (k.addColumn_exchange _)
  · cases hedit

theorem TableIndex.edit_exchange {x x' : TableIndex} (hedit : x.edit e = some (x', back)) :
    Exchange T (family x) (e.given.map family) (family x') (back.toList.map family) := by
  unfold TableIndex.edit at hedit
  split at hedit
  · exact edited_exchange hedit (x.addColumn_exchange _)
  · exact edited_exchange hedit (.refl _)
  · cases hedit

theorem Check.edit_exchange {c c' : Check} (hedit : c.edit e = some (c', back)) :
    Exchange T (family c) (e.given.map family) (family c') (back.toList.map family) := by
  unfold Check.edit at hedit
  split at hedit
  · exact editedSlot_exchange .expr (fun _ => rfl) _ (c.setName_exchange _) hedit
  · cases hedit

theorem DataType.edit_exchange {t t' : DataType} (hedit : t.edit e = some (t', back)) :
    Exchange T (family t) (e.given.map family) (family t') (back.toList.map family) := by
  unfold DataType.edit at hedit
  split at hedit
  · exact edited_exchange hedit (t.addArgument_exchange _)
  · cases hedit

theorem Parameter.flags_exchange (p : Parameter) (d : Direction) (noCopy constant : Bool) :
    Exchange T (family p) [] (family { p with direction := d, noCopy, constant }) [] := by
  rw [family_eq, family_eq]
  exact .refl _

theorem Parameter.edit_exchange {p p' : Parameter} (hedit : p.edit e = some (p', back)) :
    Exchange T (family p) (e.given.map family) (family p') (back.toList.map family) := by
  unfold Parameter.edit at hedit
  split at hedit
  · exact editedSlot_exchange .expr (fun _ => rfl) _ (p.setName_exchange _) hedit
  · exact editedSlot_exchange .dataType (fun _ => rfl) _ (p.setDataType_exchange _) hedit
  · exact editedSlot_exchange .expr (fun _ => rfl) _ (p.setDefaultValue_exchange _) hedit
  · exact editedSlot_exchange .expr (fun _ => rfl) _ (p.setCursor_exchange _) hedit
  · exact edited_exchange hedit (p.flags_exchange _ p.noCopy p.constant)
  · exact edited_exchange hedit (p.flags_exchange p.direction _ p.constant)
  · exact edited_exchange hedit (p.flags_exchange p.direction p.noCopy _)
  · exact edited_exchange hedit (p.addParameter_exchange _)
  · exact editedList_exchange .parameter (fun _ => rfl) _ (p.setParameters_exchange _) hedit
  · cases hedit

/-! ## Table definitions

A table definition takes in what is made of the nodes that it is given. -/

/-- What is given is made into other families while the supply goes from `s` to `s'`, and the node
takes these in. -/
def Works (T : Attributes → Prop) (s s' : Supply) (before : Family) (given : List Family)
    (after : Family) (back : List Family) : Prop :=
  ∃ made, (∀ r rest, Grown T r s (given ++ rest) → Grown T r s' (made ++ rest)) ∧
    Exchange T before made after back

theorem Exchange.works {before after : Family} {given back : List Family}
    (h : Exchange T before given after back) (s : Supply) : Works T s s before given after back :=
  ⟨given, fun _ _ hg => hg, h⟩

theorem Works.grown {r s s' : Supply} {before after : Family} {given back rest : List Family}
    (h : Works T s s' before given after back) (hg : Grown T r s (before :: (given ++ rest))) :
    Grown T r s' (after :: (back ++ rest)) := by
  obtain ⟨made, hmade, he⟩ := h
  have hfirst := hmade r (before :: rest) (hg.perm List.perm_middle)
  exact (hfirst.perm List.perm_middle.symm).exchange he

/-- Any attributes. -/
def AnyAttributes (_ : Attributes) : Prop := True

theorem tagged_any (f : Family) : f.Tagged AnyAttributes := fun _ _ => trivial

theorem setAttributes_exchange {α : Type} [HasInfo α] [HasFamily α] (a : α) (b : Attributes) :
    Exchange AnyAttributes (family a) [] (family (setAttributes b a)) [] := by
  rw [family_setAttributes]
  obtain ⟨i, owned, kept⟩ := family a
  refine ⟨rfl, rfl, .refl _, fun hl _ => ⟨?_, belong_nil _⟩, fun _ f _ => tagged_any f⟩
  rw [linked_node] at hl
  exact linked_node.mpr hl

theorem CreateTable.addBodyComments_exchange (c : CreateTable ε) (comments : List String) :
    Exchange AnyAttributes (family c) [] (family (c.addBodyComments comments)) [] := by
  unfold addBodyComments
  split
  · exact .refl _
  · split <;> exact setAttributes_exchange c _

theorem CreateTable.setName_works (c : CreateTable ε) (e : Expr) (s : Supply) :
    Works AnyAttributes s (c.setName e s).2 (family c) [family e] (family (c.setName e s).1.1)
      (slotFamilies (c.setName e s).1.2) := by
  refine ⟨[family (TableRef.new e s).1], fun r rest hg => ?_, c.setSource_exchange (some _)⟩
  exact TableRef.new_makes trivial e r s rest hg

theorem CreateTable.edit_works {c c' : CreateTable ε} {s s' : Supply}
    (hedit : c.edit e s = (some (c', back), s')) :
    Works AnyAttributes s s' (family c) (e.given.map family) (family c')
      (back.toList.map family) := by
  unfold CreateTable.edit at hedit
  split at hedit
  · -- The name is first made into a table source, so the supply moves on.
    rename_i x
    obtain ⟨hc, rfl⟩ := Prod.mk.inj hedit
    obtain ⟨made, hmade, he⟩ := c.setName_works x s
    cases hc
    rw [families_handback .table fun _ => rfl]
    exact ⟨made, hmade, he⟩
  all_goals obtain ⟨hc, rfl⟩ := Prod.mk.inj hedit
  all_goals apply Exchange.works
  · exact editedSlot_exchange .table (fun _ => rfl) _ (c.setSource_exchange _) hc
  · exact edited_exchange hc (.refl _)
  · exact edited_exchange hc (.refl _)
  · exact edited_exchange hc (c.addElement_exchange _)
  · exact editedSlot_exchange _ family_toNode none (c.removeElement_exchange _) hc
  · exact edited_exchange hc (c.swapElements_exchange _ _)
  · exact editedSlot_exchange .table (fun _ => rfl) _ (c.setInherits_exchange _) hc
  · exact editedSlot_exchange .select (fun _ => rfl) _ (c.setSelect_exchange _) hc
  · exact edited_exchange hc (c.addBodyComments_exchange _)
  · cases hc

/-! ## Edits of any node -/

theorem Works.kind {α : Type} [HasInfo α] [HasFamily α] (wrap : α → Node δ ε)
    (hwrap : ∀ a, family (wrap a) = family a) {a : α} {n : Node δ ε} {s s' : Supply}
    {x : Edited δ ε α} (hedit : (x.map fun r => (wrap r.1, r.2), s) = (some (n, back), s'))
    (he : ∀ {a'}, x = some (a', back) →
      Exchange T (family a) given (family a') (back.toList.map family)) :
    Works T s s' (family (wrap a)) given (family n) (back.toList.map family) := by
  obtain ⟨hmap, rfl⟩ := Prod.mk.inj hedit
  obtain ⟨⟨a', back'⟩, rfl, heq⟩ := Option.map_eq_some_iff.mp hmap
  cases heq
  rw [hwrap, hwrap]
  exact (he rfl).works s

theorem Node.edit_works {n n' : Node δ ε} {s s' : Supply}
    (hedit : n.edit e s = (some (n', back), s')) :
    Works AnyAttributes s s' (family n) (e.given.map family) (family n')
      (back.toList.map family) := by
  cases n with
  | create c =>
    obtain ⟨hmap, rfl⟩ := Prod.mk.inj hedit
    obtain ⟨⟨c', back'⟩, hc, heq⟩ := Option.map_eq_some_iff.mp hmap
    cases heq
    exact CreateTable.edit_works (Prod.ext hc rfl)
  | dataType a => exact .kind .dataType (fun _ => rfl) hedit DataType.edit_exchange
  | table a => exact .kind .table (fun _ => rfl) hedit TableRef.edit_exchange
  | join a => exact .kind .join (fun _ => rfl) hedit JoinSource.edit_exchange
  | source a => exact .kind .source (fun _ => rfl) hedit editHeader_exchange
  | column a => exact .kind .column (fun _ => rfl) hedit Column.edit_exchange
  | unique a => exact .kind .unique (fun _ => rfl) hedit UniqueKey.edit_exchange
  | index a => exact .kind .index (fun _ => rfl) hedit TableIndex.edit_exchange
  | check a => exact .kind .check (fun _ => rfl) hedit Check.edit_exchange
  | parameter a => exact .kind .parameter (fun _ => rfl) hedit Parameter.edit_exchange
  | expr _ | hint _ | select _ | element _ => cases hedit

theorem Node.replace?_exchange {n n' : Node δ ε} {id : NodeId} {target : Expr} {r : Replacement}
    (h : n.replace? id target = some (n', r)) :
    Exchange T (family n) [family target] (family n') [family r.inner] := by
  cases n with
  | table t => cases h; exact t.replace_exchange id target
  | join j => cases h; exact j.replace_exchange id target
  | source s => cases h; exact s.replace_exchange id target
  | expr _ | dataType _ | hint _ | select _ | create _ | column _ | unique _ | index _ | check _
  | element _ | parameter _ => cases h

theorem Node.replaceFlashback?_exchange {n n' : Node δ ε} {id : NodeId} {target : Expr}
    {r : Replacement} (h : n.replaceFlashback? id target = some (n', r)) :
    Exchange T (family n) [family target] (family n') [family r.inner] := by
  cases n with
  | table t => cases h; exact replaceFlashback_exchange t id target
  | join j => cases h; exact replaceFlashback_exchange j id target
  | source s => cases h; exact replaceFlashback_exchange s id target
  | expr _ | dataType _ | hint _ | select _ | create _ | column _ | unique _ | index _ | check _
  | element _ | parameter _ => cases h

end SqlTree
