import SqlTree.Edit
import SqlTree.Proofs.Growth
import SqlTree.Replace

/-! # Setters are exchanges

Each operation that puts a child into a node or takes one out is an `Exchange`: the node takes in
what it is given and gives out what it hands back. -/

namespace SqlTree

open Family

variable {T : Attributes → Prop}

/-! ## Headers

A header is part of three kinds of source, so what it does is said for any other children that the
source may have. -/

/-- The exchange that a changed header makes, whatever else the source owns or keeps. -/
def SourceHeader.Exchanges (T : Attributes → Prop) (h : SourceHeader) (given : List Family)
    (h' : SourceHeader) (back : List Family) : Prop :=
  ∀ post kept, Exchange T (.node h.info (h.groups ++ post).flatten kept) given
    (.node h'.info (h'.groups ++ post).flatten kept) back

theorem SourceHeader.setAlias_exchanges (h : SourceHeader) (a : Option String) :
    h.Exchanges T [] (h.setAlias a).1 [] :=
  fun _ _ => .refl _

theorem SourceHeader.addHint_exchanges (h : SourceHeader) (x : Hint) :
    h.Exchanges T [family x] (h.addHint x) [] :=
  fun post kept =>
    (push_turnover h.info.id h.hints x).exchange [] (slotFamilies h.flashback :: post) kept

theorem SourceHeader.setHints_exchanges (h : SourceHeader) (xs : List Hint) :
    h.Exchanges T (xs.map family) (h.setHints xs).1 ((h.setHints xs).2.map family) :=
  fun post kept =>
    (renew_turnover h.info.id h.hints xs).exchange [] (slotFamilies h.flashback :: post) kept

theorem SourceHeader.setFlashback_exchanges (h : SourceHeader) (e : Option Expr) :
    h.Exchanges T (slotFamilies e) (h.setFlashback e).1 (slotFamilies (h.setFlashback e).2) :=
  fun post kept =>
    (swap_turnover h.info.id h.flashback e).exchange [h.hints.map family] post kept

/-- The kinds of source whose family is made of the header's groups and others. -/
class HasHeaderFamily (α : Type) [HasInfo α] [HasFamily α] [HasHeader α] : Prop where
  family_setHeader : ∀ a : α, ∃ post kept, ∀ h,
    family (setHeader h a) = .node h.info (h.groups ++ post).flatten kept
  setHeader_header : ∀ a : α, setHeader (header a) a = a

instance : HasHeaderFamily TableRef where
  family_setHeader t := ⟨[slotFamilies t.expr, t.partitions.map family], [], fun _ => rfl⟩
  setHeader_header _ := rfl

instance {σ : Type} [HasInfo σ] [HasFamily σ] : HasHeaderFamily (Join σ) where
  family_setHeader j := ⟨[slotFamilies j.left, slotFamilies j.right, slotFamilies j.condition,
    j.columns.map family], [], fun _ => rfl⟩
  setHeader_header _ := rfl

instance {δ : Type} : HasHeaderFamily (TableSource δ) where
  family_setHeader
    | .table t => HasHeaderFamily.family_setHeader t
    | .join j => by
      obtain ⟨post, kept, hfamily⟩ := HasHeaderFamily.family_setHeader j
      exact ⟨post, kept, fun h => (TableSource.family_join _).trans (hfamily h)⟩
    | .dialect _ _ parts => ⟨[], parts.map family, fun h => by
      rw [List.append_nil]; rfl⟩
  setHeader_header s := by cases s <;> rfl

theorem SourceHeader.Exchanges.exchange {α : Type} [HasInfo α] [HasFamily α] [HasHeader α]
    [HasHeaderFamily α] {a : α} {given back : List Family} {h : SourceHeader}
    (he : (header a).Exchanges T given h back) :
    Exchange T (family a) given (family (setHeader h a)) back := by
  obtain ⟨post, kept, hfamily⟩ := HasHeaderFamily.family_setHeader a
  have hold := hfamily (header a)
  rw [HasHeaderFamily.setHeader_header] at hold
  rw [hold, hfamily h]
  exact he post kept

/-! ## Data types and sources -/

theorem DataType.addArgument_exchange (t : DataType) (e : Expr) :
    Exchange T (family t) [family e] (family (t.addArgument e)) [] :=
  (push_turnover t.info.id t.arguments e).exchange [] [] []

theorem TableRef.setExpr_exchange (t : TableRef) (e : Option Expr) :
    Exchange T (family t) (slotFamilies e) (family (t.setExpr e).1) (slotFamilies (t.setExpr e).2) :=
  (swap_turnover (nodeId t) t.expr e).exchange t.header.groups [t.partitions.map family] []

theorem TableRef.addPartition_exchange (t : TableRef) (e : Expr) :
    Exchange T (family t) [family e] (family (t.addPartition e)) [] :=
  (push_turnover (nodeId t) t.partitions e).exchange (t.header.groups ++ [slotFamilies t.expr]) [] []

namespace Join

variable {σ : Type} [HasInfo σ] [HasFamily σ]

theorem setLeft_exchange (j : Join σ) (s : Option σ) :
    Exchange T (family j) (slotFamilies s) (family (j.setLeft s).1) (slotFamilies (j.setLeft s).2) :=
  (swap_turnover (nodeId j) j.left s).exchange j.header.groups
    [slotFamilies j.right, slotFamilies j.condition, j.columns.map family] []

theorem setRight_exchange (j : Join σ) (s : Option σ) :
    Exchange T (family j) (slotFamilies s) (family (j.setRight s).1)
      (slotFamilies (j.setRight s).2) :=
  (swap_turnover (nodeId j) j.right s).exchange (j.header.groups ++ [slotFamilies j.left])
    [slotFamilies j.condition, j.columns.map family] []

theorem setCondition_exchange (j : Join σ) (e : Option Expr) :
    Exchange T (family j) (slotFamilies e) (family (j.setCondition e).1)
      (slotFamilies (j.setCondition e).2) :=
  (swap_turnover (nodeId j) j.condition e).exchange
    (j.header.groups ++ [slotFamilies j.left, slotFamilies j.right]) [j.columns.map family] []

theorem addColumn_exchange (j : Join σ) (e : Expr) :
    Exchange T (family j) [family e] (family (j.addColumn e)) [] :=
  (push_turnover (nodeId j) j.columns e).exchange
    (j.header.groups ++ [slotFamilies j.left, slotFamilies j.right, slotFamilies j.condition]) [] []

end Join

/-! ## Elements and table definitions -/

theorem Column.setName_exchange (c : Column) (e : Expr) :
    Exchange T (family c) [family e] (family (c.setName e).1) [family (c.setName e).2] :=
  (put_turnover c.info.id c.name e []).exchange []
    [slotFamilies c.dataType, slotFamilies c.defaultValue] []

theorem Column.setDataType_exchange (c : Column) (t : Option DataType) :
    Exchange T (family c) (slotFamilies t) (family (c.setDataType t).1)
      (slotFamilies (c.setDataType t).2) :=
  (swap_turnover c.info.id c.dataType t).exchange [[family c.name]] [slotFamilies c.defaultValue] []

theorem Column.setDefaultValue_exchange (c : Column) (e : Option Expr) :
    Exchange T (family c) (slotFamilies e) (family (c.setDefaultValue e).1)
      (slotFamilies (c.setDefaultValue e).2) :=
  (swap_turnover c.info.id c.defaultValue e).exchange [[family c.name], slotFamilies c.dataType] []
    []

theorem UniqueKey.setName_exchange (k : UniqueKey) (e : Option Expr) :
    Exchange T (family k) (slotFamilies e) (family (k.setName e).1) (slotFamilies (k.setName e).2) :=
  (swap_turnover k.info.id k.name e).exchange [] [k.columns.map family] []

theorem UniqueKey.addColumn_exchange (k : UniqueKey) (e : Expr) :
    Exchange T (family k) [family e] (family (k.addColumn e)) [] :=
  (push_turnover k.info.id k.columns e).exchange [slotFamilies k.name] [] []

theorem TableIndex.addColumn_exchange (x : TableIndex) (e : Expr) :
    Exchange T (family x) [family e] (family (x.addColumn e)) [] :=
  (push_turnover x.info.id x.columns e).exchange [[family x.name]] [] []

theorem Check.setName_exchange (c : Check) (e : Option Expr) :
    Exchange T (family c) (slotFamilies e) (family (c.setName e).1) (slotFamilies (c.setName e).2) :=
  (swap_turnover c.info.id c.name e).exchange [] [[family c.expr]] []

namespace CreateTable

variable {ε : Type}

theorem setSource_exchange (c : CreateTable ε) (t : Option TableRef) :
    Exchange T (family c) (slotFamilies t) (family (c.setSource t).1)
      (slotFamilies (c.setSource t).2) :=
  (swap_turnover c.info.id c.source t).exchange []
    [c.elements.map family, slotFamilies c.inherits, slotFamilies c.select] []

theorem setInherits_exchange (c : CreateTable ε) (t : Option TableRef) :
    Exchange T (family c) (slotFamilies t) (family (c.setInherits t).1)
      (slotFamilies (c.setInherits t).2) :=
  (swap_turnover c.info.id c.inherits t).exchange [slotFamilies c.source, c.elements.map family]
    [slotFamilies c.select] []

theorem setSelect_exchange (c : CreateTable ε) (s : Option Select) :
    Exchange T (family c) (slotFamilies s) (family (c.setSelect s).1)
      (slotFamilies (c.setSelect s).2) :=
  (swap_turnover c.info.id c.select s).exchange
    [slotFamilies c.source, c.elements.map family, slotFamilies c.inherits] [] []

theorem elements_exchange (c : CreateTable ε) {es : List (TableElement ε)}
    {given back : List Family}
    (h : Turnover T c.info.id (c.elements.map family) given (es.map family) back) :
    Exchange T (family c) given (family { c with elements := es }) back :=
  h.exchange [slotFamilies c.source] [slotFamilies c.inherits, slotFamilies c.select] []

theorem addElement_exchange (c : CreateTable ε) (e : TableElement ε) :
    Exchange T (family c) [family e] (family (c.addElement e)) [] :=
  c.elements_exchange (push_turnover c.info.id c.elements e)

theorem removeElement_exchange (c : CreateTable ε) (i : Nat) :
    Exchange T (family c) [] (family (c.removeElement i).1)
      (slotFamilies (c.removeElement i).2) :=
  c.elements_exchange (erase_turnover c.info.id c.elements i)

theorem swapElements_exchange (c : CreateTable ε) (i j : Nat) :
    Exchange T (family c) [] (family (c.swapElements i j)) [] := by
  unfold swapElements
  split
  · rename_i a b ha hb
    obtain ⟨hi, rfl⟩ := List.getElem?_eq_some_iff.mp ha
    obtain ⟨hj, rfl⟩ := List.getElem?_eq_some_iff.mp hb
    exact c.elements_exchange (perm_turnover c.info.id ((List.set_set_perm hi hj).map family))
  · exact .refl _

theorem putElement_exchange (c : CreateTable ε) {i : Nat} {a b : TableElement ε}
    {given back : List Family} (hi : c.elements[i]? = some a)
    (h : Exchange T (family a) given (family b) back) :
    Exchange T (family c) given (family (c.putElement i b)) back := by
  obtain ⟨hlt, rfl⟩ := List.getElem?_eq_some_iff.mp hi
  have hset : c.elements.set i b = c.elements.take i ++ b :: c.elements.drop (i + 1) :=
    List.set_eq_take_append_cons_drop.trans (if_pos hlt)
  have hold : c.elements = c.elements.take i ++ c.elements[i] :: c.elements.drop (i + 1) := by
    rw [← List.drop_eq_getElem_cons hlt, List.take_append_drop]
  refine c.elements_exchange ?_
  rw [hset]
  conv in c.elements.map family => rw [hold]
  simp only [List.map_append, List.map_cons]
  exact h.turnover _ _ _

end CreateTable

/-! ## Parameters -/

namespace Parameter

theorem setName_exchange (p : Parameter) (e : Option Expr) :
    Exchange T (family p) (slotFamilies e) (family (p.setName e).1)
      (slotFamilies (p.setName e).2) := by
  rw [family_eq, family_eq]
  exact (swap_turnover p.info.id p.name e).exchange [] [slotFamilies p.dataType,
    slotFamilies p.defaultValue, slotFamilies p.cursor, p.parameters.map family] []

theorem setDataType_exchange (p : Parameter) (t : Option DataType) :
    Exchange T (family p) (slotFamilies t) (family (p.setDataType t).1)
      (slotFamilies (p.setDataType t).2) := by
  rw [family_eq, family_eq]
  exact (swap_turnover p.info.id p.dataType t).exchange [slotFamilies p.name]
    [slotFamilies p.defaultValue, slotFamilies p.cursor, p.parameters.map family] []

theorem setDefaultValue_exchange (p : Parameter) (e : Option Expr) :
    Exchange T (family p) (slotFamilies e) (family (p.setDefaultValue e).1)
      (slotFamilies (p.setDefaultValue e).2) := by
  rw [family_eq, family_eq]
  exact (swap_turnover p.info.id p.defaultValue e).exchange
    [slotFamilies p.name, slotFamilies p.dataType]
    [slotFamilies p.cursor, p.parameters.map family] []

theorem setCursor_exchange (p : Parameter) (e : Option Expr) :
    Exchange T (family p) (slotFamilies e) (family (p.setCursor e).1)
      (slotFamilies (p.setCursor e).2) := by
  rw [family_eq, family_eq]
  exact (swap_turnover p.info.id p.cursor e).exchange
    [slotFamilies p.name, slotFamilies p.dataType, slotFamilies p.defaultValue]
    [p.parameters.map family] []

theorem addParameter_exchange (p q : Parameter) :
    Exchange T (family p) [family q] (family (p.addParameter q)) [] := by
  rw [family_eq p, family_eq (p.addParameter q)]
  exact (push_turnover p.info.id p.parameters q).exchange
    [slotFamilies p.name, slotFamilies p.dataType, slotFamilies p.defaultValue,
      slotFamilies p.cursor] [] []

theorem setParameters_exchange (p : Parameter) (qs : List Parameter) :
    Exchange T (family p) (qs.map family) (family (p.setParameters qs).1)
      ((p.setParameters qs).2.map family) := by
  rw [family_eq, family_eq]
  exact (renew_turnover p.info.id p.parameters qs).exchange
    [slotFamilies p.name, slotFamilies p.dataType, slotFamilies p.defaultValue,
      slotFamilies p.cursor] [] []

end Parameter

/-! ## Replacement

What is handed back is the previous child, or the target where there was no match. -/

theorem replaceSlot_turnover (owner : NodeId) (slot : Option Expr) (id : NodeId) (target : Expr) :
    Turnover T owner (slotFamilies slot) [family target]
      (slotFamilies (replaceSlot owner slot id target).1)
      [family (replaceSlot owner slot id target).2.inner] := by
  unfold replaceSlot
  split
  · split
    · exact put_turnover owner _ target []
    · exact ⟨.refl _, fun hslot htarget => ⟨hslot, htarget⟩, fun h => h⟩
  · exact ⟨.refl _, fun hslot htarget => ⟨hslot, htarget⟩, fun h => h⟩

theorem replaceIn_turnover (owner : NodeId) (es : List Expr) (id : NodeId) (target : Expr) :
    Turnover T owner (es.map family) [family target]
      ((replaceIn owner es id target).1.map family)
      [family (replaceIn owner es id target).2.inner] := by
  induction es with
  | nil => exact ⟨.refl _, fun hnil htarget => ⟨hnil, htarget⟩, fun h => h⟩
  | cons e es ih =>
    rw [replaceIn]
    split
    · exact put_turnover owner e target (es.map family)
    · exact ih.cons (family e)

theorem Replacement.orElse_exchange {α : Type} [HasInfo α] [HasFamily α] {f : Family}
    {given : List Family} {r : α × Replacement} {next : α → Expr → α × Replacement}
    (hr : Exchange T f given (family r.1) [family r.2.inner])
    (hnext : ∀ a e, Exchange T (family a) [family e] (family (next a e).1)
      [family (next a e).2.inner]) :
    Exchange T f given (family (orElse r next).1) [family (orElse r next).2.inner] := by
  obtain ⟨a, previous | target⟩ := r
  · exact hr
  · exact hr.chain (hnext a target)

theorem SourceHeader.replaceFlashback_exchanges (h : SourceHeader) (id : NodeId) (target : Expr) :
    h.Exchanges T [family target] (h.replaceFlashback id target).1
      [family (h.replaceFlashback id target).2.inner] :=
  fun post kept => (replaceSlot_turnover h.info.id h.flashback id target).exchange
    [h.hints.map family] post kept

theorem replaceFlashback_exchange {α : Type} [HasInfo α] [HasFamily α] [HasHeader α]
    [HasHeaderFamily α] (a : α) (id : NodeId) (target : Expr) :
    Exchange T (family a) [family target] (family (replaceFlashback a id target).1)
      [family (replaceFlashback a id target).2.inner] :=
  ((header a).replaceFlashback_exchanges id target).exchange

theorem TableRef.replace_exchange (t : TableRef) (id : NodeId) (target : Expr) :
    Exchange T (family t) [family target] (family (t.replace id target).1)
      [family (t.replace id target).2.inner] := by
  unfold TableRef.replace
  refine Replacement.orElse_exchange (Replacement.orElse_exchange ?_ fun t target => ?_)
    fun t target => replaceFlashback_exchange t id target
  · exact (replaceSlot_turnover (nodeId t) t.expr id target).exchange t.header.groups
      [t.partitions.map family] []
  · exact (replaceIn_turnover (nodeId t) t.partitions id target).exchange
      (t.header.groups ++ [slotFamilies t.expr]) [] []

theorem Join.replace_exchange {σ : Type} [HasInfo σ] [HasFamily σ] (j : Join σ) (id : NodeId)
    (target : Expr) :
    Exchange T (family j) [family target] (family (j.replace id target).1)
      [family (j.replace id target).2.inner] := by
  unfold Join.replace
  refine Replacement.orElse_exchange (Replacement.orElse_exchange ?_ fun j target => ?_)
    fun j target => replaceFlashback_exchange j id target
  · exact (replaceSlot_turnover (nodeId j) j.condition id target).exchange
      (j.header.groups ++ [slotFamilies j.left, slotFamilies j.right]) [j.columns.map family] []
  · exact (replaceIn_turnover (nodeId j) j.columns id target).exchange
      (j.header.groups ++ [slotFamilies j.left, slotFamilies j.right, slotFamilies j.condition])
      [] []

theorem TableSource.replace_exchange {δ : Type} (s : TableSource δ) (id : NodeId) (target : Expr) :
    Exchange T (family s) [family target] (family (s.replace id target).1)
      [family (s.replace id target).2.inner] := by
  cases s with
  | table t => exact t.replace_exchange id target
  | join j =>
    simp only [TableSource.replace, family_join]
    exact j.replace_exchange id target
  | dialect h kind parts =>
    have he := h.replaceFlashback_exchanges (T := T) id target [] (parts.map family)
    simp only [List.append_nil] at he
    exact he

end SqlTree
