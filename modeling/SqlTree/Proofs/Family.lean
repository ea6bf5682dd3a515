import SqlTree.Node.Any

/-! # Families: who owns whom

The family of a node is its info together with the families of the nodes that it owns. Unlike an
outline it has the hints and the flashback expression of a source. A node of a dialect's kind keeps
its parts without owning them, so they stand apart. -/

namespace SqlTree

/-- A node, the nodes that it owns and the nodes that it keeps without owning them. -/
inductive Family
  | node (info : NodeInfo) (owned kept : List Family)

namespace Family

def info : Family → NodeInfo
  | node i _ _ => i

def owned : Family → List Family
  | node _ fs _ => fs

def kept : Family → List Family
  | node _ _ fs => fs

def setInfo (i : NodeInfo) : Family → Family
  | node _ owned kept => node i owned kept

def setParent (p : Option NodeId) (f : Family) : Family := f.setInfo { f.info with parent := p }

mutual

/-- The families of all nodes in a family, its own first. -/
def members : Family → List Family
  | node i owned kept => node i owned kept :: (membersAll owned ++ membersAll kept)

def membersAll : List Family → List Family
  | [] => []
  | f :: fs => f.members ++ membersAll fs

end

/-- The identities of all nodes in a family. -/
def ids (f : Family) : List NodeId := f.members.map (·.info.id)

/-- Every link in a family is right: an owned node has its owner as parent, a kept one has none. -/
def Linked (f : Family) : Prop :=
  ∀ m ∈ f.members, (∀ c ∈ m.owned, c.info.parent = some m.info.id) ∧
    ∀ c ∈ m.kept, c.info.parent = none

/-- The attributes of every node in a family are as `T` asks. -/
def Tagged (T : Attributes → Prop) (f : Family) : Prop := ∀ m ∈ f.members, T m.info.attributes

/-- Families with right links whose heads have the parent `p`. -/
def Belong (p : Option NodeId) (fs : List Family) : Prop := ∀ f ∈ fs, f.info.parent = p ∧ f.Linked

theorem membersAll_eq (fs : List Family) : membersAll fs = fs.flatMap members := by
  induction fs with
  | nil => rfl
  | cons f fs ih => rw [membersAll, ih, List.flatMap_cons]

theorem ids_node (i : NodeInfo) (owned kept : List Family) :
    (node i owned kept).ids = i.id :: (owned.flatMap ids ++ kept.flatMap ids) := by
  simp only [ids, members, membersAll_eq, List.map_cons, List.map_append, List.map_flatMap]
  rfl

theorem linked_node {i : NodeInfo} {owned kept : List Family} :
    (node i owned kept).Linked ↔ Belong (some i.id) owned ∧ Belong none kept := by
  simp only [Linked, members, membersAll_eq, List.mem_cons, List.mem_append, List.mem_flatMap]
  constructor
  · intro h
    obtain ⟨howned, hkept⟩ := h _ (.inl rfl)
    refine ⟨fun c hc => ⟨howned c hc, fun m hm => ?_⟩, fun c hc => ⟨hkept c hc, fun m hm => ?_⟩⟩
    · exact h m (.inr (.inl ⟨c, hc, hm⟩))
    · exact h m (.inr (.inr ⟨c, hc, hm⟩))
  · rintro ⟨howned, hkept⟩ m (rfl | ⟨c, hc, hm⟩ | ⟨c, hc, hm⟩)
    · exact ⟨fun c hc => (howned c hc).1, fun c hc => (hkept c hc).1⟩
    · exact (howned c hc).2 m hm
    · exact (hkept c hc).2 m hm

theorem tagged_node {T : Attributes → Prop} {i : NodeInfo} {owned kept : List Family} :
    (node i owned kept).Tagged T ↔
      T i.attributes ∧ (∀ f ∈ owned, f.Tagged T) ∧ ∀ f ∈ kept, f.Tagged T := by
  simp only [Tagged, members, membersAll_eq, List.mem_cons, List.mem_append, List.mem_flatMap]
  constructor
  · intro h
    exact ⟨h _ (.inl rfl), fun f hf m hm => h m (.inr (.inl ⟨f, hf, hm⟩)),
      fun f hf m hm => h m (.inr (.inr ⟨f, hf, hm⟩))⟩
  · rintro ⟨hi, howned, hkept⟩ m (rfl | ⟨f, hf, hm⟩ | ⟨f, hf, hm⟩)
    · exact hi
    · exact howned f hf m hm
    · exact hkept f hf m hm

/-! ## Another parent for the head

Only the head's own link changes. -/

@[simp] theorem info_setInfo (i : NodeInfo) (f : Family) : (f.setInfo i).info = i := by
  cases f; rfl

@[simp] theorem setInfo_info (f : Family) : f.setInfo f.info = f := by
  cases f; rfl

@[simp] theorem info_setParent (p : Option NodeId) (f : Family) :
    (f.setParent p).info = { f.info with parent := p } := by
  simp [setParent]

@[simp] theorem ids_setParent (p : Option NodeId) (f : Family) : (f.setParent p).ids = f.ids := by
  cases f; simp [setParent, setInfo, ids_node, info]

@[simp] theorem linked_setParent (p : Option NodeId) (f : Family) :
    (f.setParent p).Linked ↔ f.Linked := by
  cases f; simp [setParent, setInfo, linked_node, info]

@[simp] theorem tagged_setParent {T : Attributes → Prop} (p : Option NodeId) (f : Family) :
    (f.setParent p).Tagged T ↔ f.Tagged T := by
  cases f; simp [setParent, setInfo, tagged_node, info]

/-! ## Families that belong to one node -/

@[simp] theorem belong_nil (p : Option NodeId) : Belong p [] := by simp [Belong]

@[simp] theorem belong_cons {p : Option NodeId} {f : Family} {fs : List Family} :
    Belong p (f :: fs) ↔ (f.info.parent = p ∧ f.Linked) ∧ Belong p fs := by
  simp [Belong]

@[simp] theorem belong_append {p : Option NodeId} {fs gs : List Family} :
    Belong p (fs ++ gs) ↔ Belong p fs ∧ Belong p gs := by
  simp only [Belong, List.mem_append]
  exact ⟨fun h => ⟨fun f hf => h f (.inl hf), fun f hf => h f (.inr hf)⟩,
    fun h f hf => hf.elim (h.1 f) (h.2 f)⟩

theorem Belong.perm {p : Option NodeId} {fs gs : List Family} (h : Belong p fs) (hp : gs.Perm fs) :
    Belong p gs := fun f hf => h f (hp.mem_iff.mp hf)

end Family

/-! ## The kinds of node -/

/-- The kinds of node that have a family. -/
class HasFamily (α : Type) [HasInfo α] where
  family : α → Family
  family_info : ∀ a, (family a).info = info a
  family_setInfo : ∀ i a, family (setInfo i a) = (family a).setInfo i

export HasFamily (family)

section

variable {α : Type} [HasInfo α] [HasFamily α]

/-- The families of what is in a slot: one or none. -/
def slotFamilies (slot : Option α) : List Family := (slot.map family).toList

@[simp] theorem family_adopt (owner : NodeId) (a : α) :
    family (adopt owner a) = (family a).setParent (some owner) := by
  simp [adopt, setParent, Family.setParent, HasFamily.family_setInfo, HasFamily.family_info]

@[simp] theorem family_release (a : α) : family (release a) = (family a).setParent none := by
  simp [release, setParent, Family.setParent, HasFamily.family_setInfo, HasFamily.family_info]

theorem family_setAttributes (b : Attributes) (a : α) :
    family (setAttributes b a) = (family a).setInfo { (family a).info with attributes := b } := by
  simp [setAttributes, HasFamily.family_setInfo, HasFamily.family_info]

end

protected def Expr.family : Expr → Family
  | identifier i _ | literal i _ => .node i [] []
  | property i owner _ => .node i [owner.family] []
  | binary i left _ right => .node i [left.family, right.family] []

instance : HasFamily Expr where
  family := Expr.family
  family_info e := by cases e <;> rfl
  family_setInfo i e := by cases e <;> rfl

instance : HasFamily DataType where
  family t := .node t.info [t.arguments.map family].flatten []
  family_info _ := rfl
  family_setInfo _ _ := rfl

instance : HasFamily Hint where
  family h := .node h.info [] []
  family_info _ := rfl
  family_setInfo _ _ := rfl

instance : HasFamily Select where
  family s := .node s.info [] []
  family_info _ := rfl
  family_setInfo _ _ := rfl

/-- The groups of nodes that a source owns through its header. -/
def SourceHeader.groups (h : SourceHeader) : List (List Family) :=
  [h.hints.map family, slotFamilies h.flashback]

instance : HasFamily SourceHeader where
  family h := .node h.info h.groups.flatten []
  family_info _ := rfl
  family_setInfo _ _ := rfl

instance : HasFamily TableRef where
  family t :=
    .node t.header.info (t.header.groups ++ [slotFamilies t.expr, t.partitions.map family]).flatten []
  family_info _ := rfl
  family_setInfo _ _ := rfl

instance {σ : Type} [HasInfo σ] [HasFamily σ] : HasFamily (Join σ) where
  family j :=
    .node j.header.info (j.header.groups ++
      [slotFamilies j.left, slotFamilies j.right, slotFamilies j.condition,
        j.columns.map family]).flatten []
  family_info _ := rfl
  family_setInfo _ _ := rfl

namespace TableSource

variable {δ : Type}

mutual

protected def family : TableSource δ → Family
  | table t => family t
  | join ⟨h, l, _, r, c, us, _⟩ =>
    .node h.info (h.groups ++
      [sideFamilies l, sideFamilies r, slotFamilies c, us.map family]).flatten []
  | dialect h _ parts => .node h.info h.groups.flatten (parts.map family)

def sideFamilies : Option (TableSource δ) → List Family
  | none => []
  | some s => [s.family]

end

instance : HasFamily (TableSource δ) where
  family := TableSource.family
  family_info s := by cases s <;> rfl
  family_setInfo i s := by cases s <;> rfl

theorem sideFamilies_eq (s : Option (TableSource δ)) : sideFamilies s = slotFamilies s := by
  cases s <;> rfl

theorem family_join (j : JoinSource δ) : family (join j) = family j := by
  obtain ⟨h, l, k, r, c, us, n⟩ := j
  simp only [HasFamily.family, TableSource.family, sideFamilies_eq]

end TableSource

instance : HasFamily Column where
  family c :=
    .node c.info [[family c.name], slotFamilies c.dataType, slotFamilies c.defaultValue].flatten []
  family_info _ := rfl
  family_setInfo _ _ := rfl

instance : HasFamily UniqueKey where
  family k := .node k.info [slotFamilies k.name, k.columns.map family].flatten []
  family_info _ := rfl
  family_setInfo _ _ := rfl

instance : HasFamily TableIndex where
  family x := .node x.info [[family x.name], x.columns.map family].flatten []
  family_info _ := rfl
  family_setInfo _ _ := rfl

instance : HasFamily Check where
  family c := .node c.info [slotFamilies c.name, [family c.expr]].flatten []
  family_info _ := rfl
  family_setInfo _ _ := rfl

instance {ε : Type} : HasFamily (TableElement ε) where
  family
    | .column c => family c
    | .unique k => family k
    | .index x => family x
    | .check c => family c
    | .dialect i _ parts inner => .node i [] ((inner ++ parts).map family)
  family_info e := by cases e <;> rfl
  family_setInfo i e := by cases e <;> rfl

instance {ε : Type} : HasFamily (CreateTable ε) where
  family c :=
    .node c.info [slotFamilies c.source, c.elements.map family, slotFamilies c.inherits,
      slotFamilies c.select].flatten []
  family_info _ := rfl
  family_setInfo _ _ := rfl

namespace Parameter

mutual

protected def family : Parameter → Family
  | ⟨i, n, t, d, _, _, _, c, ps⟩ =>
    .node i [slotFamilies n, slotFamilies t, slotFamilies d, slotFamilies c,
      familyEach ps].flatten []

def familyEach : List Parameter → List Family
  | [] => []
  | p :: ps => p.family :: familyEach ps

end

instance : HasFamily Parameter where
  family := Parameter.family
  family_info p := by cases p; rfl
  family_setInfo i p := by cases p; rfl

theorem familyEach_eq (ps : List Parameter) : familyEach ps = ps.map family := by
  induction ps with
  | nil => rfl
  | cons p ps ih => rw [familyEach, ih]; rfl

theorem family_eq (p : Parameter) :
    family p = .node p.info [slotFamilies p.name, slotFamilies p.dataType,
      slotFamilies p.defaultValue, slotFamilies p.cursor,
      p.parameters.map family].flatten [] := by
  obtain ⟨i, n, t, d, dir, nc, k, c, ps⟩ := p
  simp only [HasFamily.family, Parameter.family, familyEach_eq]

end Parameter

instance {δ ε : Type} : HasFamily (Node δ ε) where
  family
    | .expr a => family a
    | .dataType a => family a
    | .hint a => family a
    | .select a => family a
    | .table a => family a
    | .join a => family a
    | .source a => family a
    | .create a => family a
    | .column a => family a
    | .unique a => family a
    | .index a => family a
    | .check a => family a
    | .element a => family a
    | .parameter a => family a
  family_info n := by cases n <;> exact HasFamily.family_info _
  family_setInfo i n := by cases n <;> exact HasFamily.family_setInfo i _

end SqlTree
