import SqlTree.Proofs.Family
import SqlTree.Proofs.Nested

/-! # Renaming identities

A renaming gives every identity in a node another name and changes nothing else. Two renamings one
after the other are one renaming. -/

namespace SqlTree

variable {δ ε : Type}

/-- What holds identities that can get other names. -/
class HasRename (α : Type) where
  rename : (NodeId → NodeId) → α → α
  rename_rename : ∀ (ρ σ : NodeId → NodeId) (a : α), rename σ (rename ρ a) = rename (σ ∘ ρ) a

export HasRename (rename)

attribute [simp] HasRename.rename_rename

@[simp] theorem rename_comp {α : Type} [HasRename α] (ρ σ : NodeId → NodeId) :
    rename (α := α) σ ∘ rename ρ = rename (σ ∘ ρ) :=
  funext (HasRename.rename_rename ρ σ)

/-! ## Identities, texts, slots, lists and pairs -/

instance : HasRename NodeId where
  rename ρ n := ρ n
  rename_rename _ _ _ := rfl

instance : HasRename String where
  rename _ s := s
  rename_rename _ _ _ := rfl

section

variable {α β : Type} [HasRename α] [HasRename β]

instance : HasRename (Option α) where
  rename ρ o := o.map (rename ρ)
  rename_rename ρ σ o := by simp

instance : HasRename (List α) where
  rename ρ as := as.map (rename ρ)
  rename_rename ρ σ as := by simp

instance : HasRename (α × β) where
  rename ρ p := (rename ρ p.1, rename ρ p.2)
  rename_rename ρ σ p := by simp

variable (ρ : NodeId → NodeId)

@[simp] theorem rename_text : (rename ρ : String → String) = id := rfl

@[simp] theorem rename_slot (o : Option α) : rename ρ o = o.map (rename ρ) := rfl

@[simp] theorem rename_list (as : List α) : rename ρ as = as.map (rename ρ) := rfl

@[simp] theorem rename_pair (a : α) (b : β) : rename ρ (a, b) = (rename ρ a, rename ρ b) := rfl

theorem rename_fst {ρ : NodeId → NodeId} {p q : α × β} (h : rename ρ p = q) :
    rename ρ p.1 = q.1 :=
  congrArg Prod.fst h

theorem foldl_rename {f : β → α → β} (h : ∀ b a, rename ρ (f b a) = f (rename ρ b) (rename ρ a))
    (as : List α) (b : β) : rename ρ (as.foldl f b) = (rename ρ as).foldl f (rename ρ b) := by
  induction as generalizing b with
  | nil => rfl
  | cons a as ih => rw [List.foldl_cons, ih, h, rename_list, rename_list, List.map_cons,
      List.foldl_cons]

end

/-! ## Infos and families -/

instance : HasRename NodeInfo where
  rename ρ i := { i with id := ρ i.id, parent := i.parent.map ρ }
  rename_rename ρ σ i := by simp

@[simp] theorem NodeInfo.id_rename (ρ : NodeId → NodeId) (i : NodeInfo) :
    (rename ρ i).id = ρ i.id := rfl

namespace Family

mutual

protected def rename (ρ : NodeId → NodeId) : Family → Family
  | node i owned kept => node (HasRename.rename ρ i) (renameEach ρ owned) (renameEach ρ kept)

def renameEach (ρ : NodeId → NodeId) : List Family → List Family
  | [] => []
  | f :: fs => f.rename ρ :: renameEach ρ fs

end

theorem renameEach_eq (ρ : NodeId → NodeId) (fs : List Family) :
    renameEach ρ fs = fs.map (Family.rename ρ) := by
  induction fs with
  | nil => rfl
  | cons f fs ih => rw [renameEach, ih, List.map_cons]

mutual

theorem rename_twice (ρ σ : NodeId → NodeId) : (f : Family) →
    (f.rename ρ).rename σ = f.rename (σ ∘ ρ)
  | node i owned kept => by
    simp only [Family.rename, HasRename.rename_rename, renameEach_twice ρ σ owned,
      renameEach_twice ρ σ kept]

theorem renameEach_twice (ρ σ : NodeId → NodeId) : (fs : List Family) →
    renameEach σ (renameEach ρ fs) = renameEach (σ ∘ ρ) fs
  | [] => rfl
  | f :: fs => by simp only [renameEach, rename_twice ρ σ f, renameEach_twice ρ σ fs]

end

instance : HasRename Family where
  rename := Family.rename
  rename_rename := rename_twice

theorem rename_node (ρ : NodeId → NodeId) (i : NodeInfo) (owned kept : List Family) :
    rename ρ (node i owned kept) =
      node (rename ρ i) (owned.map (rename ρ)) (kept.map (rename ρ)) := by
  change Family.rename ρ _ = _
  rw [Family.rename, renameEach_eq, renameEach_eq]
  rfl

theorem rename_groups {ρ : NodeId → NodeId} (i : NodeInfo) {groups groups' : List (List Family)}
    {kept kept' : List Family} (hgroups : groups' = groups.map (List.map (rename ρ)))
    (hkept : kept' = kept.map (rename ρ)) :
    node (rename ρ i) groups'.flatten kept' = rename ρ (node i groups.flatten kept) := by
  rw [rename_node, List.map_flatten, hgroups, hkept]

mutual

theorem members_rename (ρ : NodeId → NodeId) : (f : Family) →
    (f.rename ρ).members = f.members.map (rename ρ)
  | node i owned kept => by
    simp only [Family.rename, members, membersAll_rename ρ owned, membersAll_rename ρ kept,
      List.map_cons, List.map_append]
    rfl

theorem membersAll_rename (ρ : NodeId → NodeId) : (fs : List Family) →
    membersAll (renameEach ρ fs) = (membersAll fs).map (rename ρ)
  | [] => rfl
  | f :: fs => by
    simp only [renameEach, membersAll, members_rename ρ f, membersAll_rename ρ fs, List.map_append]

end

theorem info_rename (ρ : NodeId → NodeId) (f : Family) : (rename ρ f).info = rename ρ f.info := by
  cases f; rfl

theorem ids_rename (ρ : NodeId → NodeId) (f : Family) : (rename ρ f).ids = rename ρ f.ids := by
  have hmembers : (rename ρ f).members = f.members.map (rename ρ) := members_rename ρ f
  rw [ids, hmembers, List.map_map, ids, rename_list, List.map_map]
  exact List.map_congr_left fun g _ => congrArg NodeInfo.id (info_rename ρ g)

end Family

/-! ## The kinds of node -/

/-- The kinds of node of which a renaming changes every info and nothing else. -/
class Renames (α : Type) [HasInfo α] [HasFamily α] [HasRename α] : Prop where
  info_rename : ∀ ρ (a : α), info (rename ρ a) = rename ρ (info a)
  rename_setInfo : ∀ ρ i (a : α), rename ρ (setInfo i a) = setInfo (rename ρ i) (rename ρ a)
  family_rename : ∀ ρ (a : α), family (rename ρ a) = rename ρ (family a)

section

variable {α : Type} [HasInfo α] [HasFamily α] [HasRename α] {ρ : NodeId → NodeId}

theorem slotFamilies_renamed {slot : Option α}
    (h : ∀ a ∈ slot, family (rename ρ a) = rename ρ (family a)) :
    slotFamilies (slot.map (rename ρ)) = (slotFamilies slot).map (rename ρ) := by
  cases slot with
  | none => rfl
  | some a => exact congrArg (· :: []) (h a rfl)

theorem families_renamed {as : List α}
    (h : ∀ a ∈ as, family (rename ρ a) = rename ρ (family a)) :
    (as.map (rename ρ)).map family = (as.map family).map (rename ρ) := by
  rw [List.map_map, List.map_map]
  exact List.map_congr_left h

end

section

variable {α : Type} [HasInfo α] [HasFamily α] [HasRename α] [Renames α] (ρ : NodeId → NodeId)

@[simp] theorem nodeId_rename (a : α) : nodeId (rename ρ a) = ρ (nodeId a) := by
  rw [nodeId, Renames.info_rename]
  rfl

theorem parent?_rename (a : α) : parent? (rename ρ a) = rename ρ (parent? a) := by
  rw [parent?, Renames.info_rename]
  rfl

@[simp] theorem attributes_rename (a : α) : attributes (rename ρ a) = attributes a := by
  rw [attributes, Renames.info_rename]
  rfl

theorem rename_setParent (p : Option NodeId) (a : α) :
    rename ρ (setParent p a) = setParent (p.map ρ) (rename ρ a) := by
  rw [setParent, Renames.rename_setInfo, setParent, Renames.info_rename]
  rfl

@[simp] theorem rename_adopt (owner : NodeId) (a : α) :
    rename ρ (adopt owner a) = adopt (ρ owner) (rename ρ a) :=
  rename_setParent ρ (some owner) a

@[simp] theorem rename_release (a : α) : rename ρ (release a) = release (rename ρ a) :=
  rename_setParent ρ none a

@[simp] theorem rename_setAttributes (b : Attributes) (a : α) :
    rename ρ (setAttributes b a) = setAttributes b (rename ρ a) := by
  rw [setAttributes, Renames.rename_setInfo, setAttributes, Renames.info_rename]
  rfl

theorem slotFamilies_rename (slot : Option α) :
    slotFamilies (slot.map (rename ρ)) = (slotFamilies slot).map (rename ρ) :=
  slotFamilies_renamed fun a _ => Renames.family_rename ρ a

theorem families_rename (as : List α) :
    (as.map (rename ρ)).map family = (as.map family).map (rename ρ) :=
  families_renamed fun a _ => Renames.family_rename ρ a

end

protected def Expr.rename (ρ : NodeId → NodeId) : Expr → Expr
  | identifier i name => identifier (HasRename.rename ρ i) name
  | property i owner name => property (HasRename.rename ρ i) (owner.rename ρ) name
  | literal i value => literal (HasRename.rename ρ i) value
  | binary i left op right =>
    binary (HasRename.rename ρ i) (left.rename ρ) op (right.rename ρ)

instance : HasRename Expr where
  rename := Expr.rename
  rename_rename ρ σ e := by
    induction e with
    | identifier _ _ | literal _ _ => simp [Expr.rename]
    | property _ _ _ ih => simp [Expr.rename, ih]
    | binary _ _ _ _ ihl ihr => simp [Expr.rename, ihl, ihr]

instance : Renames Expr where
  info_rename ρ e := by cases e <;> rfl
  rename_setInfo ρ i e := by cases e <;> rfl
  family_rename ρ e := by
    induction e with
    | identifier _ _ | literal _ _ => rfl
    | property i owner _ ih =>
      change Family.node _ [family (rename ρ owner)] [] = _
      rw [ih]
      rfl
    | binary i left _ right ihl ihr =>
      change Family.node _ [family (rename ρ left), family (rename ρ right)] [] = _
      rw [ihl, ihr]
      rfl

instance : HasRename DataType where
  rename ρ t := { t with info := rename ρ t.info, arguments := t.arguments.map (rename ρ) }
  rename_rename ρ σ t := by simp

@[simp] theorem DataType.rename_mk (ρ : NodeId → NodeId) (i : NodeInfo) (name : String)
    (es : List Expr) : rename ρ (⟨i, name, es⟩ : DataType) =
      ⟨rename ρ i, name, es.map (rename ρ)⟩ := rfl

instance : Renames DataType where
  info_rename _ _ := rfl
  rename_setInfo _ _ _ := rfl
  family_rename ρ t := by
    refine Family.rename_groups t.info ?_ rfl
    rw [List.map_singleton, ← families_rename]
    rfl

instance : HasRename Hint where
  rename ρ h := { h with info := rename ρ h.info }
  rename_rename ρ σ h := by simp

@[simp] theorem Hint.rename_mk (ρ : NodeId → NodeId) (i : NodeInfo) (text : String) :
    rename ρ (⟨i, text⟩ : Hint) = ⟨rename ρ i, text⟩ := rfl

instance : Renames Hint where
  info_rename _ _ := rfl
  rename_setInfo _ _ _ := rfl
  family_rename _ _ := rfl

instance : HasRename Select where
  rename ρ s := { s with info := rename ρ s.info }
  rename_rename ρ σ s := by simp

@[simp] theorem Select.rename_mk (ρ : NodeId → NodeId) (i : NodeInfo) (text : String) :
    rename ρ (⟨i, text⟩ : Select) = ⟨rename ρ i, text⟩ := rfl

instance : Renames Select where
  info_rename _ _ := rfl
  rename_setInfo _ _ _ := rfl
  family_rename _ _ := rfl

instance : HasRename SourceHeader where
  rename ρ h := { h with
    info := rename ρ h.info
    hints := h.hints.map (rename ρ)
    flashback := h.flashback.map (rename ρ) }
  rename_rename ρ σ h := by simp

@[simp] theorem SourceHeader.rename_mk (ρ : NodeId → NodeId) (i : NodeInfo) (a : Option String)
    (hints : List Hint) (e : Option Expr) : rename ρ (⟨i, a, hints, e⟩ : SourceHeader) =
      ⟨rename ρ i, a, hints.map (rename ρ), e.map (rename ρ)⟩ := rfl

theorem SourceHeader.groups_rename (ρ : NodeId → NodeId) (h : SourceHeader) :
    (rename ρ h).groups = h.groups.map (List.map (rename ρ)) := by
  simp only [groups, List.map_cons, List.map_nil]
  rw [← families_rename, ← slotFamilies_rename]
  rfl

instance : Renames SourceHeader where
  info_rename _ _ := rfl
  rename_setInfo _ _ _ := rfl
  family_rename ρ h := Family.rename_groups h.info (h.groups_rename ρ) rfl

instance : HasRename TableRef where
  rename ρ t := { t with
    header := rename ρ t.header
    expr := t.expr.map (rename ρ)
    partitions := t.partitions.map (rename ρ) }
  rename_rename ρ σ t := by simp

@[simp] theorem TableRef.rename_mk (ρ : NodeId → NodeId) (h : SourceHeader) (e : Option Expr)
    (es : List Expr) (o : Option String) : rename ρ (⟨h, e, es, o⟩ : TableRef) =
      ⟨rename ρ h, e.map (rename ρ), es.map (rename ρ), o⟩ := rfl

instance : Renames TableRef where
  info_rename _ _ := rfl
  rename_setInfo _ _ _ := rfl
  family_rename ρ t := by
    refine Family.rename_groups t.header.info ?_ rfl
    rw [List.map_append, ← SourceHeader.groups_rename, List.map_cons, List.map_singleton,
      ← slotFamilies_rename, ← families_rename]
    rfl

/-- A join under a renaming, around renamed sides. -/
def Join.renameAround {σ : Type} (ρ : NodeId → NodeId) (j : Join σ) (left right : Option σ) :
    Join σ :=
  { j with
    header := rename ρ j.header
    left := left
    right := right
    condition := j.condition.map (rename ρ)
    columns := j.columns.map (rename ρ) }

instance {σ : Type} [HasRename σ] : HasRename (Join σ) where
  rename ρ j := j.renameAround ρ (j.left.map (rename ρ)) (j.right.map (rename ρ))
  rename_rename ρ σ j := by simp [Join.renameAround]

@[simp] theorem Join.rename_mk {σ : Type} [HasRename σ] (ρ : NodeId → NodeId) (h : SourceHeader)
    (l : Option σ) (k : JoinKind) (r : Option σ) (c : Option Expr) (us : List Expr) (n : Bool) :
    rename ρ (⟨h, l, k, r, c, us, n⟩ : Join σ) = ⟨rename ρ h, l.map (rename ρ), k,
      r.map (rename ρ), c.map (rename ρ), us.map (rename ρ), n⟩ := rfl

instance {σ : Type} [HasInfo σ] [HasFamily σ] [HasRename σ] [Renames σ] : Renames (Join σ) where
  info_rename _ _ := rfl
  rename_setInfo _ _ _ := rfl
  family_rename ρ j := by
    refine Family.rename_groups j.header.info ?_ rfl
    simp only [List.map_append, ← SourceHeader.groups_rename, List.map_cons, List.map_nil,
      ← slotFamilies_rename]
    rw [← families_rename]
    rfl

namespace TableSource

mutual

protected def rename (ρ : NodeId → NodeId) : TableSource δ → TableSource δ
  | table t => table (HasRename.rename ρ t)
  | join ⟨h, l, k, r, c, us, n⟩ =>
    join (Join.renameAround ρ ⟨h, l, k, r, c, us, n⟩ (renameSide ρ l) (renameSide ρ r))
  | dialect h kind parts => dialect (HasRename.rename ρ h) kind (parts.map (HasRename.rename ρ))

def renameSide (ρ : NodeId → NodeId) : Option (TableSource δ) → Option (TableSource δ)
  | none => none
  | some s => some (s.rename ρ)

end

theorem renameSide_eq (ρ : NodeId → NodeId) (side : Option (TableSource δ)) :
    renameSide ρ side = side.map (TableSource.rename ρ) := by
  cases side <;> rfl

theorem rename_around (ρ : NodeId → NodeId) (j : JoinSource δ) :
    (join j).rename ρ = join (j.renameAround ρ (j.left.map (TableSource.rename ρ))
      (j.right.map (TableSource.rename ρ))) := by
  obtain ⟨h, l, k, r, c, us, n⟩ := j
  rw [TableSource.rename, renameSide_eq, renameSide_eq]

theorem rename_twice (ρ σ : NodeId → NodeId) (s : TableSource δ) :
    (s.rename ρ).rename σ = s.rename (σ ∘ ρ) := by
  induction s using TableSource.nested with
  | table t => simp [TableSource.rename]
  | join j ihl ihr =>
    have hside (side : Option (TableSource δ))
        (ih : ∀ s ∈ side, (s.rename ρ).rename σ = s.rename (σ ∘ ρ)) :
        (side.map (TableSource.rename ρ)).map (TableSource.rename σ) =
          side.map (TableSource.rename (σ ∘ ρ)) := by
      rw [Option.map_map]
      exact Option.map_congr ih
    simp only [rename_around, Join.renameAround, hside _ ihl, hside _ ihr]
    simp
  | dialect h kind parts => simp [TableSource.rename]

instance : HasRename (TableSource δ) where
  rename := TableSource.rename
  rename_rename := rename_twice

theorem rename_join (ρ : NodeId → NodeId) (j : JoinSource δ) :
    rename ρ (join j) = join (rename ρ j) :=
  rename_around ρ j

instance : Renames (TableSource δ) where
  info_rename ρ s := by cases s <;> rfl
  rename_setInfo ρ i s := by cases s <;> rfl
  family_rename ρ s := by
    induction s using TableSource.nested with
    | table t => exact Renames.family_rename ρ t
    | join j ihl ihr =>
      rw [rename_join, family_join, family_join]
      refine Family.rename_groups j.header.info ?_ rfl
      simp only [List.map_append, ← SourceHeader.groups_rename, List.map_cons, List.map_nil,
        ← slotFamilies_renamed ihl, ← slotFamilies_renamed ihr, ← slotFamilies_rename]
      rw [← families_rename]
      rfl
    | dialect h kind parts =>
      refine Family.rename_groups h.info (h.groups_rename ρ) ?_
      exact families_rename ρ parts

end TableSource

instance : HasRename Column where
  rename ρ c := { c with
    info := rename ρ c.info
    name := rename ρ c.name
    dataType := c.dataType.map (rename ρ)
    defaultValue := c.defaultValue.map (rename ρ) }
  rename_rename ρ σ c := by simp

@[simp] theorem Column.rename_mk (ρ : NodeId → NodeId) (i : NodeInfo) (name : Expr)
    (t : Option DataType) (e : Option Expr) (notNull primaryKey : Bool) :
    rename ρ (⟨i, name, t, e, notNull, primaryKey⟩ : Column) =
      ⟨rename ρ i, rename ρ name, t.map (rename ρ), e.map (rename ρ), notNull, primaryKey⟩ := rfl

instance : Renames Column where
  info_rename _ _ := rfl
  rename_setInfo _ _ _ := rfl
  family_rename ρ c := by
    refine Family.rename_groups c.info ?_ rfl
    simp only [List.map_cons, List.map_nil, ← slotFamilies_rename, ← Renames.family_rename]
    rfl

instance : HasRename UniqueKey where
  rename ρ k := { k with
    info := rename ρ k.info
    name := k.name.map (rename ρ)
    columns := k.columns.map (rename ρ) }
  rename_rename ρ σ k := by simp

@[simp] theorem UniqueKey.rename_mk (ρ : NodeId → NodeId) (i : NodeInfo) (name : Option Expr)
    (es : List Expr) (primaryKey : Bool) : rename ρ (⟨i, name, es, primaryKey⟩ : UniqueKey) =
      ⟨rename ρ i, name.map (rename ρ), es.map (rename ρ), primaryKey⟩ := rfl

instance : Renames UniqueKey where
  info_rename _ _ := rfl
  rename_setInfo _ _ _ := rfl
  family_rename ρ k := by
    refine Family.rename_groups k.info ?_ rfl
    rw [List.map_cons, List.map_singleton, ← slotFamilies_rename, ← families_rename]
    rfl

instance : HasRename TableIndex where
  rename ρ x := { x with
    info := rename ρ x.info
    name := rename ρ x.name
    columns := x.columns.map (rename ρ) }
  rename_rename ρ σ x := by simp

@[simp] theorem TableIndex.rename_mk (ρ : NodeId → NodeId) (i : NodeInfo) (name : Expr)
    (es : List Expr) (unique : Bool) : rename ρ (⟨i, name, es, unique⟩ : TableIndex) =
      ⟨rename ρ i, rename ρ name, es.map (rename ρ), unique⟩ := rfl

instance : Renames TableIndex where
  info_rename _ _ := rfl
  rename_setInfo _ _ _ := rfl
  family_rename ρ x := by
    refine Family.rename_groups x.info ?_ rfl
    rw [List.map_cons, List.map_singleton, List.map_singleton, ← Renames.family_rename,
      ← families_rename]
    rfl

instance : HasRename Check where
  rename ρ c := { c with
    info := rename ρ c.info
    name := c.name.map (rename ρ)
    expr := rename ρ c.expr }
  rename_rename ρ σ c := by simp

@[simp] theorem Check.rename_mk (ρ : NodeId → NodeId) (i : NodeInfo) (name : Option Expr)
    (e : Expr) : rename ρ (⟨i, name, e⟩ : Check) =
      ⟨rename ρ i, name.map (rename ρ), rename ρ e⟩ := rfl

instance : Renames Check where
  info_rename _ _ := rfl
  rename_setInfo _ _ _ := rfl
  family_rename ρ c := by
    refine Family.rename_groups c.info ?_ rfl
    rw [List.map_cons, List.map_singleton, List.map_singleton, ← slotFamilies_rename,
      ← Renames.family_rename]
    rfl

instance : HasRename (TableElement ε) where
  rename ρ
    | .column c => .column (rename ρ c)
    | .unique k => .unique (rename ρ k)
    | .index x => .index (rename ρ x)
    | .check c => .check (rename ρ c)
    | .dialect i kind parts inner =>
      .dialect (rename ρ i) kind (parts.map (rename ρ)) (inner.map (rename ρ))
  rename_rename ρ σ e := by cases e <;> simp

instance : Renames (TableElement ε) where
  info_rename ρ e := by cases e <;> rfl
  rename_setInfo ρ i e := by cases e <;> rfl
  family_rename ρ e := by
    cases e with
    | column a | unique a | index a | check a => exact Renames.family_rename ρ a
    | dialect i kind parts inner =>
      change Family.node (rename ρ i) []
        ((inner.map (rename ρ) ++ parts.map (rename ρ)).map family) = _
      rw [← List.map_append, families_rename]
      exact (Family.rename_node ρ i [] _).symm

instance : HasRename (CreateTable ε) where
  rename ρ c := { c with
    info := rename ρ c.info
    source := c.source.map (rename ρ)
    elements := c.elements.map (rename ρ)
    inherits := c.inherits.map (rename ρ)
    select := c.select.map (rename ρ) }
  rename_rename ρ σ c := by simp

@[simp] theorem CreateTable.rename_mk (ρ : NodeId → NodeId) (i : NodeInfo) (db : Option String)
    (b : Bool) (k : TableKind) (t : Option TableRef) (es : List (TableElement ε))
    (t' : Option TableRef) (s : Option Select) :
    rename ρ (⟨i, db, b, k, t, es, t', s⟩ : CreateTable ε) =
      ⟨rename ρ i, db, b, k, t.map (rename ρ), es.map (rename ρ), t'.map (rename ρ),
        s.map (rename ρ)⟩ := rfl

instance : Renames (CreateTable ε) where
  info_rename _ _ := rfl
  rename_setInfo _ _ _ := rfl
  family_rename ρ c := by
    refine Family.rename_groups c.info ?_ rfl
    simp only [List.map_cons, List.map_nil, ← slotFamilies_rename]
    rw [← families_rename]
    rfl

namespace Parameter

/-- A parameter under a renaming, around the renamed parameters of its cursor. -/
def renameAround (ρ : NodeId → NodeId) (p : Parameter) (parameters : List Parameter) : Parameter :=
  { p with
    info := rename ρ p.info
    name := p.name.map (rename ρ)
    dataType := p.dataType.map (rename ρ)
    defaultValue := p.defaultValue.map (rename ρ)
    cursor := p.cursor.map (rename ρ)
    parameters := parameters }

mutual

protected def rename (ρ : NodeId → NodeId) : Parameter → Parameter
  | ⟨i, n, t, d, dir, nc, k, c, ps⟩ =>
    renameAround ρ ⟨i, n, t, d, dir, nc, k, c, ps⟩ (renameEach ρ ps)

def renameEach (ρ : NodeId → NodeId) : List Parameter → List Parameter
  | [] => []
  | p :: ps => p.rename ρ :: renameEach ρ ps

end

theorem renameEach_eq (ρ : NodeId → NodeId) (ps : List Parameter) :
    renameEach ρ ps = ps.map (Parameter.rename ρ) := by
  induction ps with
  | nil => rfl
  | cons p ps ih => rw [renameEach, ih, List.map_cons]

theorem rename_around (ρ : NodeId → NodeId) (p : Parameter) :
    p.rename ρ = p.renameAround ρ (p.parameters.map (Parameter.rename ρ)) := by
  obtain ⟨i, n, t, d, dir, nc, k, c, ps⟩ := p
  rw [Parameter.rename, renameEach_eq]

theorem rename_twice (ρ σ : NodeId → NodeId) (p : Parameter) :
    (p.rename ρ).rename σ = p.rename (σ ∘ ρ) := by
  induction p using Parameter.nested with
  | parameter p ih =>
    have hparameters : (p.parameters.map (Parameter.rename ρ)).map (Parameter.rename σ) =
        p.parameters.map (Parameter.rename (σ ∘ ρ)) := by
      rw [List.map_map]
      exact List.map_congr_left ih
    simp only [rename_around ρ, rename_around (σ ∘ ρ), rename_around σ, renameAround, hparameters]
    simp

instance : HasRename Parameter where
  rename := Parameter.rename
  rename_rename := rename_twice

theorem rename_eq (ρ : NodeId → NodeId) (p : Parameter) :
    rename ρ p = p.renameAround ρ (p.parameters.map (rename ρ)) :=
  rename_around ρ p

@[simp] theorem rename_mk (ρ : NodeId → NodeId) (i : NodeInfo) (n : Option Expr)
    (t : Option DataType) (d : Option Expr) (dir : Direction) (nc k : Bool) (c : Option Expr)
    (ps : List Parameter) : rename ρ (⟨i, n, t, d, dir, nc, k, c, ps⟩ : Parameter) =
      ⟨rename ρ i, n.map (rename ρ), t.map (rename ρ), d.map (rename ρ), dir, nc, k,
        c.map (rename ρ), ps.map (rename ρ)⟩ :=
  rename_eq ρ _

instance : Renames Parameter where
  info_rename ρ p := by cases p; rfl
  rename_setInfo ρ i p := by cases p; rfl
  family_rename ρ p := by
    induction p using Parameter.nested with
    | parameter p ih =>
      rw [rename_eq, family_eq, family_eq]
      refine Family.rename_groups p.info ?_ rfl
      simp only [List.map_cons, List.map_nil, ← slotFamilies_rename]
      rw [← families_renamed ih]
      rfl

end Parameter

instance : HasRename (Node δ ε) where
  rename ρ
    | .expr a => .expr (rename ρ a)
    | .dataType a => .dataType (rename ρ a)
    | .hint a => .hint (rename ρ a)
    | .select a => .select (rename ρ a)
    | .table a => .table (rename ρ a)
    | .join a => .join (rename ρ a)
    | .source a => .source (rename ρ a)
    | .create a => .create (rename ρ a)
    | .column a => .column (rename ρ a)
    | .unique a => .unique (rename ρ a)
    | .index a => .index (rename ρ a)
    | .check a => .check (rename ρ a)
    | .element a => .element (rename ρ a)
    | .parameter a => .parameter (rename ρ a)
  rename_rename ρ σ n := by cases n <;> simp

instance : Renames (Node δ ε) where
  info_rename ρ n := by
    cases n with
    | expr a | dataType a | hint a | select a | table a | join a | source a | create a
    | column a | unique a | index a | check a | element a | parameter a =>
      exact Renames.info_rename ρ a
  rename_setInfo ρ i n := by
    cases n with
    | expr a | dataType a | hint a | select a | table a | join a | source a | create a
    | column a | unique a | index a | check a | element a | parameter a =>
      exact congrArg _ (Renames.rename_setInfo ρ i a)
  family_rename ρ n := by
    cases n with
    | expr a | dataType a | hint a | select a | table a | join a | source a | create a
    | column a | unique a | index a | check a | element a | parameter a =>
      exact Renames.family_rename ρ a

end SqlTree
