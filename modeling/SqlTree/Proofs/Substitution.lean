import Mathlib.Data.List.Nodup
import SqlTree.Proofs.Ownership

/-! # Replacing as substitution

The expressions that stand directly in a source have places. Replacing one by its identity puts the
target in the same place and changes nothing else, and replacing the target by what came out undoes
it. No other node of the source is ever replaced. -/

namespace SqlTree

open Family

variable {δ ε : Type}

/-! ## Links of one expression -/

section

variable {α : Type} [HasInfo α] [HasFamily α]

theorem nodeId_of_family (a : α) : (family a).info.id = nodeId a := by
  rw [HasFamily.family_info, nodeId]

theorem parent?_of_family (a : α) : (family a).info.parent = parent? a := by
  rw [HasFamily.family_info, parent?]

end

namespace Expr

theorem nodeId_adopt (owner : NodeId) (e : Expr) : nodeId (adopt owner e) = nodeId e := by
  cases e <;> rfl

theorem adopt_release {owner : NodeId} {e : Expr} (h : parent? e = some owner) :
    adopt owner (release e) = e := by
  cases e <;> simp_all [adopt, release, setParent, parent?, info, setInfo] <;> rw [← h]

theorem release_adopt {owner : NodeId} {e : Expr} (h : parent? e = none) :
    release (adopt owner e) = e := by
  cases e <;> simp_all [adopt, release, setParent, parent?, info, setInfo] <;> rw [← h]

end Expr

/-! ## Places -/

/-- Where an expression stands in a source: alone in the first slot, in the list, or as the
flashback expression. -/
inductive Place
  | slot
  | listed (k : Nat)
  | flashback

/-- The expressions that stand directly in a source. -/
structure Children where
  slot : Option Expr
  list : List Expr
  flashback : Option Expr

namespace Children

def get? (c : Children) : Place → Option Expr
  | .slot => c.slot
  | .listed k => c.list[k]?
  | .flashback => c.flashback

def set (c : Children) (e : Expr) : Place → Children
  | .slot => { c with slot := some e }
  | .listed k => { c with list := c.list.set k e }
  | .flashback => { c with flashback := some e }

def toList (c : Children) : List Expr := c.flashback.toList ++ c.slot.toList ++ c.list

theorem get?_set_self {c : Children} {p : Place} {e : Expr} (a : Expr) (h : c.get? p = some e) :
    (c.set a p).get? p = some a := by
  cases p with
  | slot | flashback => rfl
  | listed k =>
    obtain ⟨hk, -⟩ := List.getElem?_eq_some_iff.mp h
    exact List.getElem?_set_self hk

theorem get?_set_ne (c : Children) (a : Expr) {p q : Place} (h : q ≠ p) :
    (c.set a p).get? q = c.get? q := by
  cases p <;> cases q <;> simp_all [get?, set, List.getElem?_set_ne, eq_comm]

theorem set_set (c : Children) (a b : Expr) (p : Place) : (c.set a p).set b p = c.set b p := by
  cases p <;> simp [set]

theorem set_get? {c : Children} {p : Place} {e : Expr} (h : c.get? p = some e) :
    c.set e p = c := by
  obtain ⟨slot, list, flashback⟩ := c
  cases p with
  | slot | flashback => simp_all [get?, set]
  | listed k =>
    obtain ⟨hk, rfl⟩ := List.getElem?_eq_some_iff.mp h
    simp [set]

theorem mem_toList {c : Children} {p : Place} {e : Expr} (h : c.get? p = some e) :
    e ∈ c.toList := by
  simp only [toList, List.mem_append, Option.mem_toList]
  cases p with
  | slot => exact .inl (.inr h)
  | listed k => exact .inr (List.mem_of_getElem? h)
  | flashback => exact .inl (.inl h)

theorem place_unique {c : Children} (hc : (c.toList.map nodeId).Nodup) {p q : Place} {a b : Expr}
    (hp : c.get? p = some a) (hq : c.get? q = some b) (hid : nodeId a = nodeId b) : p = q := by
  rw [List.Nodup, List.pairwise_map, toList, List.pairwise_append, List.pairwise_append] at hc
  obtain ⟨⟨-, -, hfirst⟩, hlist, hrest⟩ := hc
  simp only [List.mem_append, Option.mem_toList] at hfirst hrest
  cases p <;> cases q <;> simp only [get?] at hp hq
  case slot.slot | flashback.flashback => rfl
  case slot.flashback => exact absurd hid.symm (hfirst b hq a hp)
  case flashback.slot => exact absurd hid (hfirst a hp b hq)
  case slot.listed => exact absurd hid (hrest a (.inr hp) b (List.mem_of_getElem? hq))
  case listed.slot => exact absurd hid.symm (hrest b (.inr hq) a (List.mem_of_getElem? hp))
  case flashback.listed => exact absurd hid (hrest a (.inl hp) b (List.mem_of_getElem? hq))
  case listed.flashback => exact absurd hid.symm (hrest b (.inl hq) a (List.mem_of_getElem? hp))
  case listed.listed j k =>
    rw [List.pairwise_iff_getElem] at hlist
    obtain ⟨hj, rfl⟩ := List.getElem?_eq_some_iff.mp hp
    obtain ⟨hk, rfl⟩ := List.getElem?_eq_some_iff.mp hq
    rcases Nat.lt_trichotomy j k with hlt | rfl | hgt
    · exact absurd hid (hlist j k hj hk hlt)
    · rfl
    · exact absurd hid.symm (hlist k j hk hj hgt)

end Children

/-! ## Replacing among the children -/

/-- Tries on a part of an owner, seen as tries on the owner: a miss hands on the owner of the part
that the first try leaves. -/
theorem Replacement.orElse_along {α β : Type} (put : β → α) {r : α × Replacement}
    {q : β × Replacement} {next : α → Expr → α × Replacement}
    {next' : β → Expr → β × Replacement} (hr : r = (put q.1, q.2))
    (hnext : ∀ b e, next (put b) e = (put (next' b e).1, (next' b e).2)) :
    orElse r next = (put (orElse q next').1, (orElse q next').2) := by
  obtain ⟨b, e | e⟩ := q
  · rw [hr]
    rfl
  · rw [hr]
    exact hnext b e

namespace Children

/-- Tries the slot, then the list, then the flashback expression. -/
def replace (owner id : NodeId) (target : Expr) (c : Children) : Children × Replacement :=
  let inSlot (c : Children) (target : Expr) : Children × Replacement :=
    let (slot, outcome) := replaceSlot owner c.slot id target
    ({ c with slot }, outcome)
  let inList (c : Children) (target : Expr) : Children × Replacement :=
    let (list, outcome) := replaceIn owner c.list id target
    ({ c with list }, outcome)
  let inFlashback (c : Children) (target : Expr) : Children × Replacement :=
    let (flashback, outcome) := replaceSlot owner c.flashback id target
    ({ c with flashback }, outcome)
  Replacement.orElse (Replacement.orElse (inSlot c target) inList) inFlashback

section

variable {owner id : NodeId} {target : Expr}

theorem replaceSlot_hit {e : Expr} (h : nodeId e = id) :
    replaceSlot owner (some e) id target = (some (adopt owner target), .replaced (release e)) :=
  if_pos h

theorem replaceSlot_miss {slot : Option Expr} (h : ∀ e ∈ slot, nodeId e ≠ id) :
    replaceSlot owner slot id target = (slot, .noMatch target) := by
  cases slot with
  | none => rfl
  | some e => exact if_neg (h e rfl)

theorem replaceIn_miss {es : List Expr} (h : ∀ e ∈ es, nodeId e ≠ id) :
    replaceIn owner es id target = (es, .noMatch target) := by
  induction es with
  | nil => rfl
  | cons e es ih =>
    rw [List.forall_mem_cons] at h
    rw [replaceIn, if_neg h.1, ih h.2]

theorem replaceIn_hit {es : List Expr} {k : Nat} {e : Expr} (hk : es[k]? = some e)
    (he : nodeId e = id) (hone : ∀ j a, es[j]? = some a → nodeId a = id → j = k) :
    replaceIn owner es id target = (es.set k (adopt owner target), .replaced (release e)) := by
  induction es generalizing k with
  | nil => simp at hk
  | cons a es ih =>
    cases k with
    | zero =>
      rw [List.getElem?_cons_zero, Option.some.injEq] at hk
      rw [replaceIn, hk, if_pos he, List.set_cons_zero]
    | succ k =>
      have ha : nodeId a ≠ id := fun ha => by simpa using hone 0 a rfl ha
      have hrest := ih hk fun j b hb hid => Nat.succ.inj (hone (j + 1) b hb hid)
      rw [replaceIn, if_neg ha, hrest, List.set_cons_succ]

theorem replace_miss {c : Children} (h : ∀ p e, c.get? p = some e → nodeId e ≠ id) :
    c.replace owner id target = (c, .noMatch target) := by
  have hslot : ∀ e ∈ c.slot, nodeId e ≠ id := h .slot
  have hlist : ∀ e ∈ c.list, nodeId e ≠ id := by
    intro e he
    obtain ⟨k, hk⟩ := List.mem_iff_getElem?.mp he
    exact h (.listed k) e hk
  have hflashback : ∀ e ∈ c.flashback, nodeId e ≠ id := h .flashback
  simp only [replace, replaceSlot_miss hslot, replaceIn_miss hlist, replaceSlot_miss hflashback,
    Replacement.orElse]

theorem replace_hit {c : Children} {p : Place} {e : Expr} (hp : c.get? p = some e)
    (he : nodeId e = id) (hone : ∀ q a, c.get? q = some a → nodeId a = id → q = p) :
    c.replace owner id target = (c.set (adopt owner target) p, .replaced (release e)) := by
  have hslot (h : p ≠ .slot) : ∀ a ∈ c.slot, nodeId a ≠ id :=
    fun a ha hid => h (hone .slot a ha hid).symm
  cases p with
  | slot =>
    rw [get?] at hp
    simp only [replace, hp, replaceSlot_hit he, Replacement.orElse, set]
  | listed k =>
    have hfirst (j : Nat) (a : Expr) (ha : c.list[j]? = some a) (hid : nodeId a = id) : j = k :=
      Place.listed.inj (hone (.listed j) a ha hid)
    simp only [replace, replaceSlot_miss (hslot nofun), replaceIn_hit hp he hfirst,
      Replacement.orElse, set]
  | flashback =>
    have hlist : ∀ a ∈ c.list, nodeId a ≠ id := by
      intro a ha hid
      obtain ⟨k, hk⟩ := List.mem_iff_getElem?.mp ha
      cases hone (.listed k) a hk hid
    rw [get?] at hp
    simp only [replace, replaceSlot_miss (hslot nofun), replaceIn_miss hlist, hp,
      replaceSlot_hit he, Replacement.orElse, set]

end

end Children

/-! ## The children of a source -/

namespace TableSource

def children : TableSource δ → Children
  | table t => ⟨t.expr, t.partitions, t.header.flashback⟩
  | join j => ⟨j.condition, j.columns, j.header.flashback⟩
  | dialect h _ _ => ⟨none, [], h.flashback⟩

def setChildren (c : Children) : TableSource δ → TableSource δ
  | table t =>
    table { t with
      expr := c.slot, partitions := c.list, header := { t.header with flashback := c.flashback } }
  | join j =>
    join { j with
      condition := c.slot, columns := c.list, header := { j.header with flashback := c.flashback } }
  | dialect h kind parts => dialect { h with flashback := c.flashback } kind parts

/-- The expression at a place. -/
def child? (s : TableSource δ) (p : Place) : Option Expr := s.children.get? p

/-- The source with another expression at a place. -/
def setChild (s : TableSource δ) (p : Place) (e : Expr) : TableSource δ :=
  s.setChildren (s.children.set e p)

theorem setChildren_children (s : TableSource δ) : s.setChildren s.children = s := by
  cases s <;> rfl

theorem setChildren_setChildren (b c : Children) (s : TableSource δ) :
    (s.setChildren b).setChildren c = s.setChildren c := by
  cases s <;> rfl

theorem nodeId_setChildren (c : Children) (s : TableSource δ) :
    nodeId (s.setChildren c) = nodeId s := by
  cases s <;> rfl

theorem children_setChild {s : TableSource δ} {p : Place} {e : Expr} (a : Expr)
    (h : s.child? p = some e) : (s.setChild p a).children = s.children.set a p := by
  cases s with
  | table _ | join _ => rfl
  | dialect _ _ _ =>
    cases p with
    | flashback => rfl
    | slot | listed _ => simp [child?, children, Children.get?] at h

theorem replace_eq (s : TableSource δ) (id : NodeId) (target : Expr) :
    s.replace id target = (s.setChildren (s.children.replace (nodeId s) id target).1,
      (s.children.replace (nodeId s) id target).2) := by
  generalize hr : s.children.replace (nodeId s) id target = r
  cases s with
  | table t =>
    let put (c : Children) : TableRef := { t with
      expr := c.slot, partitions := c.list, header := { t.header with flashback := c.flashback } }
    have hreplace : t.replace id target = (put r.1, r.2) := by
      rw [← hr]
      exact Replacement.orElse_along put
        (Replacement.orElse_along put rfl fun _ _ => rfl) fun _ _ => rfl
    rw [replace, hreplace, setChildren]
  | join j =>
    let put (c : Children) : JoinSource δ := { j with
      condition := c.slot, columns := c.list, header := { j.header with flashback := c.flashback } }
    have hreplace : j.replace id target = (put r.1, r.2) := by
      rw [← hr]
      exact Replacement.orElse_along put
        (Replacement.orElse_along put rfl fun _ _ => rfl) fun _ _ => rfl
    rw [replace, hreplace, setChildren]
  | dialect h kind parts =>
    rw [← hr]
    rfl

end TableSource

/-! ## Identities and links below a node -/

namespace Family

mutual

theorem members_sublist : (f : Family) → ∀ m ∈ f.members, m.members.Sublist f.members
  | node i owned kept => by
    intro m hm
    have howned := membersAll_sublist owned m
    have hkept := membersAll_sublist kept m
    rw [members, List.mem_cons, List.mem_append] at hm
    rcases hm with rfl | hm | hm
    · exact .refl _
    · exact ((howned hm).trans (List.sublist_append_left _ _)).cons _
    · exact ((hkept hm).trans (List.sublist_append_right _ _)).cons _

theorem membersAll_sublist : (fs : List Family) → ∀ m ∈ membersAll fs,
    m.members.Sublist (membersAll fs)
  | [] => nofun
  | f :: fs => by
    intro m hm
    have hhead := members_sublist f m
    have htail := membersAll_sublist fs m
    rw [membersAll, List.mem_append] at hm
    rcases hm with hm | hm
    · exact (hhead hm).trans (List.sublist_append_left _ _)
    · exact (htail hm).trans (List.sublist_append_right _ _)

end

theorem self_mem_members (f : Family) : f ∈ f.members := by
  cases f
  exact List.mem_cons_self

theorem mem_members_of_mem_owned {c f : Family} (h : c ∈ f.owned) : c ∈ f.members := by
  cases f
  rw [members, membersAll_eq]
  have hc := List.mem_flatMap.mpr ⟨c, h, c.self_mem_members⟩
  exact List.mem_cons_of_mem _ (List.mem_append_left _ hc)

theorem heads_sublist (fs : List Family) : (fs.map (·.info.id)).Sublist (fs.flatMap ids) := by
  induction fs with
  | nil => exact .slnil
  | cons f fs ih =>
    cases f
    rw [List.map_cons, List.flatMap_cons, ids_node, List.cons_append]
    exact (ih.trans (List.sublist_append_right _ _)).cons_cons _

theorem nodup_owned {f : Family} (h : f.ids.Nodup) : (f.owned.map (·.info.id)).Nodup := by
  cases f
  rw [ids_node, List.nodup_cons] at h
  exact ((heads_sublist _).trans (List.sublist_append_left _ _)).nodup h.2

end Family

/-! ## Substitution -/

namespace TableSource

theorem children_sublist (s : TableSource δ) :
    (s.children.toList.map family).Sublist (family s).owned := by
  have hlist (c : Children) : c.toList.map family =
      slotFamilies c.flashback ++ (slotFamilies c.slot ++ c.list.map family) := by
    simp only [Children.toList, slotFamilies, List.map_append, Option.toList_map, List.append_assoc]
  have hgroups (h : SourceHeader) (rest : List (List Family)) : (h.groups ++ rest).flatten =
      h.hints.map family ++ (slotFamilies h.flashback ++ rest.flatten) := rfl
  rw [hlist]
  cases s with
  | table t =>
    change List.Sublist _ (t.header.groups ++ _).flatten
    rw [hgroups]
    refine (List.Sublist.append_left ?_ _).trans (List.sublist_append_right _ _)
    simp [children]
  | join j =>
    rw [family_join]
    change List.Sublist _ (j.header.groups ++ _).flatten
    rw [hgroups]
    refine (List.Sublist.append_left ?_ _).trans (List.sublist_append_right _ _)
    simp only [children, List.flatten_cons, List.flatten_nil, List.append_nil]
    exact (List.sublist_append_right (slotFamilies j.right) _).trans (List.sublist_append_right _ _)
  | dialect h kind parts =>
    change List.Sublist _ h.groups.flatten
    rw [← List.append_nil h.groups, hgroups]
    exact List.sublist_append_right _ _

theorem mem_owned_of_child? {s : TableSource δ} {p : Place} {e : Expr} (h : s.child? p = some e) :
    family e ∈ (family s).owned :=
  (s.children_sublist).subset (List.mem_map_of_mem (Children.mem_toList h))

theorem nodeId_mem_of_child? {s : TableSource δ} {p : Place} {e : Expr} (h : s.child? p = some e) :
    nodeId e ∈ (family s).ids := by
  rw [← nodeId_of_family]
  exact List.mem_map_of_mem (mem_members_of_mem_owned (mem_owned_of_child? h))

theorem child?_unique {s : TableSource δ} (hids : (family s).ids.Nodup) {p q : Place} {a b : Expr}
    (hp : s.child? p = some a) (hq : s.child? q = some b) (hid : nodeId a = nodeId b) : p = q := by
  refine Children.place_unique ?_ hp hq hid
  have hnodup := (s.children_sublist.map (·.info.id)).nodup (nodup_owned hids)
  rw [List.map_map] at hnodup
  rwa [List.map_congr_left fun e _ => (nodeId_of_family e).symm]

variable {s : TableSource δ} {t : Expr}

theorem replace_miss {i : NodeId} (h : ∀ p e, s.child? p = some e → nodeId e ≠ i) :
    s.replace i t = (s, .noMatch t) := by
  rw [replace_eq, Children.replace_miss h, setChildren_children]

theorem replace_child (hids : (family s).ids.Nodup) {p : Place} {e : Expr}
    (hp : s.child? p = some e) :
    s.replace (nodeId e) t = (s.setChild p (adopt (nodeId s) t), .replaced (release e)) := by
  have hone (q : Place) (a : Expr) (hq : s.child? q = some a) (hid : nodeId a = nodeId e) : q = p :=
    child?_unique hids hq hp hid
  rw [replace_eq, Children.replace_hit hp rfl hone, setChild]

theorem replace_back {p : Place} {e : Expr} (hp : s.child? p = some e)
    (he : parent? e = some (nodeId s)) (ht : parent? t = none) (hnew : nodeId t ∉ (family s).ids) :
    (s.setChild p (adopt (nodeId s) t)).replace (nodeId t) (release e) = (s, .replaced t) := by
  have hset := Children.get?_set_self (adopt (nodeId s) t) hp
  have hone (q : Place) (a : Expr)
      (hq : (s.children.set (adopt (nodeId s) t) p).get? q = some a) (hid : nodeId a = nodeId t) :
      q = p := by
    by_contra hne
    rw [Children.get?_set_ne _ _ hne] at hq
    exact hnew (hid ▸ nodeId_mem_of_child? hq)
  rw [replace_eq, children_setChild _ hp, setChild, nodeId_setChildren,
    Children.replace_hit hset (Expr.nodeId_adopt _ t) hone, Children.set_set,
    Expr.adopt_release he, Expr.release_adopt ht, Children.set_get? hp, setChildren_setChildren,
    setChildren_children]

end TableSource

theorem Reachable.nodup_linked [SourceDialect δ] {start : Supply} {w : World δ ε}
    (hw : Reachable start w) {n : Node δ ε} (hn : n ∈ w.live) {f : Family}
    (hf : f ∈ (family n).members) : f.ids.Nodup ∧ f.Linked := by
  have hgrown := hw.grown
  have hsub := (family n).members_sublist f hf
  obtain ⟨-, hlinked⟩ := hgrown.rooted _ (List.mem_map_of_mem hn)
  refine ⟨?_, fun m hm => hlinked m (hsub.subset hm)⟩
  have hnode := (List.nodup_flatMap.mp hgrown.distinct).1 _ (List.mem_map_of_mem hn)
  exact (hsub.map fun m : Family => m.info.id).nodup hnode

namespace TableSource

variable {s : TableSource δ} {t : Expr}

/-- In every source in a tree that a run can reach, replacing an identity by a new root replaces the
expression of that identity if it stands directly in the source. It then puts the target in its
place, leaves the rest as it was, and can be undone. For any other node nothing happens. -/
theorem replace_substitutes [SourceDialect δ] {start : Supply} {w : World δ ε}
    (hw : Reachable start w) {n : Node δ ε} (hn : n ∈ w.live) (hs : family s ∈ (family n).members)
    (ht : parent? t = none) (hnew : nodeId t ∉ (family s).ids) (i : NodeId) :
    ((s.replace i t).2.isReplaced = true ↔ ∃ p e, s.child? p = some e ∧ nodeId e = i) ∧
      (∀ p e, s.child? p = some e → nodeId e = i →
        let s' := s.setChild p (adopt (nodeId s) t)
        s.replace i t = (s', .replaced (release e)) ∧
          s'.child? p = some (adopt (nodeId s) t) ∧ (∀ q, q ≠ p → s'.child? q = s.child? q) ∧
          (∀ c, s'.setChildren c = s.setChildren c) ∧
          s'.replace (nodeId t) (release e) = (s, .replaced t)) ∧
      ((∀ p e, s.child? p = some e → nodeId e ≠ i) → s.replace i t = (s, .noMatch t)) ∧
      ∀ m ∈ (family s).members, (∀ p e, s.child? p = some e → m ≠ family e) →
        s.replace m.info.id t = (s, .noMatch t) := by
  obtain ⟨hids, hlinked⟩ := hw.nodup_linked hn hs
  have hmiss (h : ∀ p e, s.child? p = some e → nodeId e ≠ i) : s.replace i t = (s, .noMatch t) :=
    replace_miss h
  refine ⟨⟨fun h => ?_, ?_⟩, ?_, hmiss, fun m hm hother => replace_miss fun p e hp hid => ?_⟩
  · by_contra hnone
    rw [hmiss fun p e hp hid => hnone ⟨p, e, hp, hid⟩] at h
    cases h
  · rintro ⟨p, e, hp, rfl⟩
    rw [replace_child hids hp, Replacement.isReplaced]
  · rintro p e hp rfl
    have hparent : parent? e = some (nodeId s) := by
      rw [← parent?_of_family, ← nodeId_of_family s]
      exact (hlinked _ (family s).self_mem_members).1 _ (mem_owned_of_child? hp)
    refine ⟨replace_child hids hp, ?_, fun q hq => ?_, (setChildren_setChildren _ · s),
      replace_back hp hparent ht hnew⟩
    · rw [child?, children_setChild _ hp]
      exact Children.get?_set_self _ hp
    · rw [child?, children_setChild _ hp]
      exact Children.get?_set_ne _ _ hq
  · -- Two nodes of the source with one identity are the same node.
    rw [← nodeId_of_family] at hid
    have hchild := mem_members_of_mem_owned (mem_owned_of_child? hp)
    exact hother p e hp (List.inj_on_of_nodup_map hids hm hchild hid.symm)

/-- The condition of a join is replaced and put back; a side of the join is not replaced. -/
theorem replace_substitutes_condition :
    ∃ (w : World SourceKind ElementKind) (s : TableSource SourceKind) (e t : Expr),
      Reachable .counting w ∧ Node.source s ∈ w.live ∧ parent? t = none ∧
      nodeId t ∉ (family s).ids ∧ s.child? .slot = some e ∧
      s.replace (nodeId e) t = (s.setChild .slot (adopt (nodeId s) t), .replaced (release e)) ∧
      (s.setChild .slot (adopt (nodeId s) t)).replace (nodeId t) (release e) = (s, .replaced t) ∧
      s.replace ⟨1⟩ t = (s, .noMatch t) := by
  let side (k : Nat) : TableSource SourceKind := .table { header := { info := { id := ⟨k⟩ } } }
  let condition : Expr := .identifier { id := ⟨3⟩ } "a"
  let target : Expr := .identifier { id := ⟨9⟩ } "b"
  let joined : JoinSource SourceKind := {
    header := { info := { id := ⟨4⟩ } }
    left := some (adopt ⟨4⟩ (side 1))
    right := some (adopt ⟨4⟩ (side 2))
    condition := some (adopt ⟨4⟩ condition) }
  have hfirst : Reachable (δ := SourceKind) (ε := ElementKind) .counting _ :=
    .step (.make .emptyTable) [] .start (.refl _) rfl
  have hleft := Reachable.step (.toSource _) [] hfirst (.refl _) rfl
  have hsecond := Reachable.step (.make .emptyTable) _ hleft (.refl _) rfl
  have hright := Reachable.step (.toSource _) _ hsecond (.refl _) rfl
  have hcondition : Reachable (δ := SourceKind) (ε := ElementKind) .counting
      ⟨[.expr condition, .source (side 2), .source (side 1)],
        { Supply.counting with drawn := 3 }⟩ :=
    .step (.make (.identifier "a")) _ hright (.refl _) rfl
  have hjoined := Reachable.step (.make (.join (side 1) .join (side 2) (some condition))) []
    hcondition (List.reverse_perm [Node.source (side 1), .source (side 2), .expr condition]) rfl
  have hsource := Reachable.step (.toSource (.join joined)) [] hjoined (.refl _) rfl
  have hnew : nodeId target ∉ (family (TableSource.join joined)).ids := by decide
  have hall := replace_substitutes hsource List.mem_cons_self (self_mem_members _)
    (t := target) rfl hnew
  obtain ⟨hreplaced, -, -, -, hback⟩ := (hall ⟨3⟩).2.1 .slot _ rfl rfl
  refine ⟨_, .join joined, _, target, hsource, List.mem_cons_self, rfl, hnew, rfl, hreplaced, hback,
    (hall ⟨1⟩).2.2.1 fun p e hp => ?_⟩
  cases p <;> simp [child?, children, Children.get?, joined] at hp
  subst hp
  decide

end TableSource

end SqlTree
