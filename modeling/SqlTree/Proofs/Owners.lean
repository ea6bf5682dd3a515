import Mathlib.Data.List.Flatten
import Mathlib.Data.List.Induction
import Mathlib.Data.List.Nodup
import SqlTree.Proofs.Ceiling
import SqlTree.Proofs.Ownership
import SqlTree.Walk.ParentIndex

/-! # Owners found by walks

An index that has seen walks of some trees knows the owner of every node that was entered, up to the
root, also after walks that failed. Hints and flashback expressions are not walked, so it knows
nothing of them. On trees that were built by the operations the index agrees with the links that the
nodes carry. -/

namespace SqlTree

open Family

variable {δ ε : Type}

/-! ## Outlines and families

A family has what is walked below a node and, besides, what hangs on a header or is inside an
element of a dialect. -/

def Subject.header? : Subject δ ε → Option SourceHeader
  | table t => some t.header
  | join j => some j.header
  | dialect h _ _ => some h
  | _ => none

/-- The node is of a dialect's kind, so it does not own its parts. -/
def Subject.isDialect : Subject δ ε → Bool
  | dialect _ _ _ | dialectElement _ _ _ _ => true
  | _ => false

/-- The families that are not walked: of the hints and the flashback expression, and of the inner
expressions of a dialect's element. -/
def Subject.aside : Subject δ ε → List Family
  | dialectElement _ _ _ inner => inner.map family
  | a => (a.header?.map fun h => h.groups.flatten).getD []

theorem Subject.aside_of_header {a : Subject δ ε} {h : SourceHeader} (hheader : a.header? = some h) :
    a.aside = h.groups.flatten := by
  cases a with
  | table _ | join _ | dialect _ _ _ =>
    obtain rfl := Option.some.inj hheader
    rfl
  | _ => cases hheader

theorem family_eq_node {α : Type} [HasInfo α] [HasFamily α] (a : α) :
    family a = .node (info a) (family a).owned (family a).kept := by
  have hinfo := HasFamily.family_info a
  cases hfamily : family a with
  | node i owned kept =>
    rw [hfamily] at hinfo
    rw [← hinfo]
    rfl

theorem nodeId_mem_ids {α : Type} [HasInfo α] [HasFamily α] (a : α) :
    nodeId a ∈ (family a).ids := by
  rw [family_eq_node, ids_node]
  exact List.mem_cons_self

namespace Node

section

variable {α : Type} [HasInfo α] [HasFamily α] {f : α → Node δ ε}

theorem family_ofSlot (hf : ∀ a, family (f a) = family a) (slot : Option α) :
    (ofSlot f slot).map family = slotFamilies slot := by
  cases slot <;> simp [ofSlot, slotFamilies, hf]

theorem family_map (hf : ∀ a, family (f a) = family a) (as : List α) :
    (as.map f).map family = as.map family := by
  simp [hf]

end

theorem owned_append_kept (n : Node δ ε) :
    (family n).owned ++ (family n).kept = n.subject.aside ++ n.walked.map family := by
  have hexpr := family_ofSlot (δ := δ) (ε := ε) (f := expr) fun _ => rfl
  have hexprs := family_map (δ := δ) (ε := ε) (f := expr) fun _ => rfl
  have htype := family_ofSlot (δ := δ) (ε := ε) (f := dataType) fun _ => rfl
  have htable := family_ofSlot (δ := δ) (ε := ε) (f := table) fun _ => rfl
  have hsource := family_ofSlot (δ := δ) (ε := ε) (f := source) fun _ => rfl
  have hselect := family_ofSlot (δ := δ) (ε := ε) (f := select) fun _ => rfl
  have helements := family_map (δ := δ) (ε := ε) (f := element) fun _ => rfl
  have hparameters := family_map (δ := δ) (ε := ε) (f := parameter) fun _ => rfl
  have hjoin (j : JoinSource δ) : (family j).owned ++ (family j).kept =
      (join (ε := ε) j).subject.aside ++ (join (ε := ε) j).walked.map family := by
    simp only [walked, List.map_append, hexpr, hsource, hexprs]
    simp [HasFamily.family, Family.owned, Family.kept, subject, Subject.aside, Subject.header?]
  cases n with
  | expr e => cases e <;> rfl
  | hint _ | select _ => rfl
  | join j => exact hjoin j
  | source s =>
    cases s with
    | join j =>
      have hfamily : family (source (ε := ε) (.join j)) = family j := TableSource.family_join j
      rw [hfamily]
      exact hjoin j
    | table _ | dialect _ _ _ =>
      simp only [walked, List.map_append, hexpr, hexprs]
      simp [HasFamily.family, TableSource.family, Family.owned, Family.kept, subject, Subject.aside,
        Subject.header?]
  | parameter p =>
    have hfamily : family (parameter (δ := δ) (ε := ε) p) = _ := p.family_eq
    simp only [walked, List.map_append, hexpr, htype, hparameters, hfamily]
    simp [Family.owned, Family.kept, subject, Subject.aside, Subject.header?]
  | element e =>
    cases e <;>
      simp only [walked, List.map_append, List.map_cons, List.map_nil, hexpr, hexprs, htype] <;>
      simp [HasFamily.family, Family.owned, Family.kept, subject, Subject.aside, Subject.header?]
  | dataType _ | table _ | create _ | column _ | unique _ | index _ | check _ =>
    simp only [walked, List.map_append, List.map_cons, List.map_nil, hexpr, hexprs, htype, htable,
      hselect, helements]
    simp [HasFamily.family, Family.owned, Family.kept, subject, Subject.aside, Subject.header?]

theorem kept_eq_nil {n : Node δ ε} (h : n.subject.isDialect = false) : (family n).kept = [] := by
  cases n with
  | source s =>
    cases s with
    | dialect _ _ _ => cases h
    | table _ | join _ => rfl
  | element e =>
    cases e with
    | dialect _ _ _ _ => cases h
    | column _ | unique _ | index _ | check _ => rfl
  | expr e => cases e <;> rfl
  | parameter p => cases p; rfl
  | dataType _ | hint _ | select _ | table _ | join _ | create _ | column _ | unique _ | index _
  | check _ => rfl

theorem ids_family (n : Node δ ε) :
    (family n).ids = nodeId n ::
      (n.subject.aside.flatMap ids ++ n.walked.flatMap fun c => (family c).ids) := by
  rw [family_eq_node, ids_node, ← List.flatMap_append, owned_append_kept, List.flatMap_append,
    List.flatMap_map]
  rfl

end Node

/-- The identities in what is not walked. -/
def Outline.asideIds (t : Outline (Subject δ ε)) : List NodeId :=
  t.gather fun _ a => a.aside.flatMap Family.ids

namespace Node

/-- Every node of a family is walked or is part of what is not, and none is both. -/
theorem ids_family_perm (n : Node δ ε) :
    (family n).ids.Perm (n.outline.ids ++ n.outline.asideIds) := by
  induction n using Node.walked_induction with
  | node n ih =>
    have hwalked : (n.walked.flatMap fun c => (family c).ids).Perm
        (n.walked.flatMap (·.outline.ids) ++ n.walked.flatMap (·.outline.asideIds)) :=
      (List.Perm.flatMap_left _ ih).trans (List.flatMap_append_perm _ _ _).symm
    have haside : n.outline.asideIds =
        n.subject.aside.flatMap ids ++ n.walked.flatMap (·.outline.asideIds) := n.gather_outline _
    rw [ids_family, ids_outline, haside, List.cons_append]
    refine .cons _ ((hwalked.append_left _).trans ?_)
    exact List.perm_append_comm_assoc _ _ _

theorem Under.asideIds_subset {r c : Node δ ε} {path : List NodeId} (h : Under r c path) :
    c.outline.asideIds ⊆ r.outline.asideIds := by
  induction h with
  | root => exact List.Subset.refl _
  | @child m c _ _ hc ih =>
    intro id hid
    apply ih
    rw [Outline.asideIds, gather_outline]
    exact List.mem_append_right _ (List.mem_flatMap.mpr ⟨c, hc, hid⟩)

theorem Under.mem_asideIds {r m : Node δ ε} {path : List NodeId} (h : Under r m path)
    {f : Family} (hf : f ∈ m.subject.aside) {id : NodeId} (hid : id ∈ f.ids) :
    id ∈ r.outline.asideIds := by
  apply h.asideIds_subset
  rw [Outline.asideIds, gather_outline]
  exact List.mem_append_left _ (List.mem_flatMap.mpr ⟨f, hf, hid⟩)

theorem belong_family {n : Node δ ε} (h : (family n).Linked) :
    Belong (some (nodeId n)) (family n).owned ∧ Belong none (family n).kept := by
  rw [family_eq_node, linked_node] at h
  exact h

theorem Under.linked {r c : Node δ ε} {path : List NodeId} (h : Under r c path)
    (hr : (family r).Linked) : (family c).Linked := by
  induction h with
  | root => exact hr
  | @child m c _ _ hc ih =>
    obtain ⟨howned, hkept⟩ := belong_family ih
    have hmem : family c ∈ (family m).owned ++ (family m).kept := by
      rw [owned_append_kept]
      exact List.mem_append_right _ (List.mem_map_of_mem hc)
    rcases List.mem_append.mp hmem with hmem | hmem
    · exact (howned _ hmem).2
    · exact (hkept _ hmem).2

theorem parent_of_walked {m c : Node δ ε} (hm : (family m).Linked)
    (hkind : m.subject.isDialect = false) (hc : c ∈ m.walked) : parent? c = some (nodeId m) := by
  have hmem : family c ∈ (family m).owned := by
    have hall := owned_append_kept m
    rw [kept_eq_nil hkind, List.append_nil] at hall
    rw [hall]
    exact List.mem_append_right _ (List.mem_map_of_mem hc)
  have hparent := ((belong_family hm).1 _ hmem).1
  rwa [HasFamily.family_info] at hparent

end Node

/-! ## Links in a map -/

/-- The map with some links put in, one after another. -/
def putLinks (parents : Std.HashMap NodeId NodeId) (ls : List (NodeId × NodeId)) :
    Std.HashMap NodeId NodeId :=
  ls.foldl (fun m l => m.insert l.1 l.2) parents

theorem putLinks_append (parents : Std.HashMap NodeId NodeId) (ls ks : List (NodeId × NodeId)) :
    putLinks parents (ls ++ ks) = putLinks (putLinks parents ls) ks :=
  List.foldl_append

theorem getElem?_putLinks_empty {ls : List (NodeId × NodeId)} (h : (ls.map Prod.fst).Nodup)
    {n p : NodeId} : (putLinks ∅ ls)[n]? = some p ↔ (n, p) ∈ ls := by
  -- From the end, since the last link is the one that `insert` puts on top.
  induction ls using List.reverseRecOn with
  | nil => simp [putLinks]
  | append_singleton ls l ih =>
    rw [List.map_append, List.nodup_append] at h
    obtain ⟨hls, -, hlast⟩ := h
    have hput : putLinks ∅ (ls ++ [l]) = (putLinks ∅ ls).insert l.1 l.2 := putLinks_append _ _ _
    rw [hput, Std.HashMap.getElem?_insert, List.mem_append, List.mem_singleton]
    by_cases hkey : l.1 = n
    · have hnew : (n, p) ∉ ls := fun hmem =>
        hlast n (List.mem_map.mpr ⟨_, hmem, rfl⟩) l.1 (by simp) hkey.symm
      subst hkey
      simp [hnew, Prod.ext_iff, eq_comm]
    · have hother : (n, p) ≠ l := fun heq => hkey (congrArg Prod.fst heq).symm
      rw [if_neg (by simpa using hkey), ih hls]
      simp [hother]

theorem size_putLinks_empty {ls : List (NodeId × NodeId)} (h : (ls.map Prod.fst).Nodup) :
    (putLinks ∅ ls).size = ls.length := by
  induction ls using List.reverseRecOn with
  | nil => rfl
  | append_singleton ls l ih =>
    rw [List.map_append, List.nodup_append] at h
    obtain ⟨hls, -, hlast⟩ := h
    have hnew : l.1 ∉ putLinks ∅ ls := by
      intro hmem
      rw [Std.HashMap.mem_iff_isSome_getElem?, Option.isSome_iff_exists] at hmem
      obtain ⟨p, hp⟩ := hmem
      rw [getElem?_putLinks_empty hls] at hp
      exact hlast l.1 (List.mem_map.mpr ⟨_, hp, rfl⟩) l.1 (by simp) rfl
    have hput : putLinks ∅ (ls ++ [l]) = (putLinks ∅ ls).insert l.1 l.2 := putLinks_append _ _ _
    rw [hput, Std.HashMap.size_insert, if_neg hnew, ih hls, List.length_append,
      List.length_singleton]

/-! ## What one walk finds -/

/-- The identities of the nodes that are entered, in order. -/
def Event.entered {α : Type} (es : List (Event α)) : List NodeId :=
  es.filterMap fun
    | enter i => some i.id
    | _ => none

namespace Outline

variable {α : Type}

mutual

/-- The links down to `k` levels below the root, up to the first node that lies deeper. -/
def linksWithin (k : Nat) : Outline α → List (NodeId × NodeId)
  | node i _ cs => linksEachWithin k i.id cs

def linksEachWithin (k : Nat) (owner : NodeId) : List (Outline α) → List (NodeId × NodeId)
  | [] => []
  | c :: cs =>
    if 0 < k then
      (c.info.id, owner) :: (c.linksWithin (k - 1) ++
        if c.height < k then linksEachWithin k owner cs else [])
    else []

end

mutual

theorem linksWithin_eq : (t : Outline α) → (k : Nat) → t.height ≤ k → t.linksWithin k = t.links
  | node i _ cs, k, h => by
    rw [linksWithin, links]
    exact linksEachWithin_eq cs k i.id h

theorem linksEachWithin_eq : (cs : List (Outline α)) → (k : Nat) → (owner : NodeId) →
    heightEach cs ≤ k → linksEachWithin k owner cs = linksEach owner cs
  | [], _, _, _ => rfl
  | c :: cs, k, owner, h => by
    rw [heightEach, Nat.max_le] at h
    rw [linksEachWithin, if_pos (by omega), if_pos (by omega), linksWithin_eq c (k - 1) (by omega),
      linksEachWithin_eq cs k owner h.2, linksEach]

end

mutual

theorem linksWithin_isPrefix : (t : Outline α) → (k : Nat) → t.linksWithin k <+: t.links
  | node i _ cs, k => by
    rw [linksWithin, links]
    exact linksEachWithin_isPrefix cs k i.id

theorem linksEachWithin_isPrefix : (cs : List (Outline α)) → (k : Nat) → (owner : NodeId) →
    linksEachWithin k owner cs <+: linksEach owner cs
  | [], _, _ => List.prefix_refl _
  | c :: cs, k, owner => by
    rw [linksEachWithin, linksEach]
    split
    · refine List.cons_prefix_cons.mpr ⟨rfl, ?_⟩
      split
      · rw [linksWithin_eq c (k - 1) (by omega)]
        exact (List.prefix_append_right_inj _).mpr (linksEachWithin_isPrefix cs k owner)
      · rw [List.append_nil]
        exact (linksWithin_isPrefix c (k - 1)).trans (List.prefix_append _ _)
    · exact List.nil_prefix

end

end Outline

namespace ParentIndex

variable {α : Type}

theorem visitor_willing : (visitor α).Willing := fun _ _ => rfl

mutual

theorem walk_index : (t : Outline α) → (d : Depth) → (x : ParentIndex) → d.current ≤ d.limit →
    (t.walk (visitor α) d x).2 =
        ⟨putLinks (x.enter t.info).parents (t.linksWithin (d.limit - d.current)), x.stack⟩ ∧
      Event.entered (t.events (visitor α) d x) =
        t.info.id :: (t.linksWithin (d.limit - d.current)).map Prod.fst
  | .node i a cs, d, x, hle => by
    obtain ⟨hstate, hevents⟩ := walkChildren_index cs d i.id (x.enter i).parents x.stack hle
    have hvisit : ((visitor α).visit a ((visitor α).enter i x)).1 = true := rfl
    have hopen : ((visitor α).visit a ((visitor α).enter i x)).2 =
      ⟨(x.enter i).parents, i.id :: x.stack⟩ := rfl
    rw [Outline.walk_goOn hvisit, Outline.events_goOn hvisit, Outline.linksWithin, hopen]
    constructor
    · exact congrArg leave hstate
    · simpa [Event.entered, Outline.info] using hevents

theorem walkChildren_index : (cs : List (Outline α)) → (d : Depth) → (owner : NodeId) →
    (parents : Std.HashMap NodeId NodeId) → (stack : List NodeId) → d.current ≤ d.limit →
    (Outline.walkChildren (visitor α) d cs ⟨parents, owner :: stack⟩).2 =
        ⟨putLinks parents (Outline.linksEachWithin (d.limit - d.current) owner cs),
          owner :: stack⟩ ∧
      Event.entered (Outline.eventsEach (visitor α) d cs ⟨parents, owner :: stack⟩) =
        (Outline.linksEachWithin (d.limit - d.current) owner cs).map Prod.fst
  | [], d, owner, parents, stack, hle => ⟨rfl, rfl⟩
  | c :: cs, d, owner, parents, stack, hle => by
    rw [Outline.linksEachWithin]
    rcases Nat.lt_or_ge d.current d.limit with hlt | hge
    · have hk : d.limit - d.current - 1 = d.limit - (d.current + 1) := by omega
      obtain ⟨hstate, hevents⟩ :=
        walk_index c ⟨d.current + 1, d.limit⟩ ⟨parents, owner :: stack⟩ hlt
      -- Whether the siblings are entered too is a matter of the child's height, not of the state.
      have hc := Outline.walk_outcome (visitor_willing (α := α)) c ⟨d.current + 1, d.limit⟩
        ⟨parents, owner :: stack⟩ hlt
      rw [if_pos (by omega), hk]
      by_cases hfits : d.current + 1 + c.height ≤ d.limit
      · rw [if_pos hfits] at hc
        obtain ⟨hstate', hevents'⟩ := walkChildren_index cs d owner
          (putLinks parents ((c.info.id, owner) :: c.linksWithin (d.limit - (d.current + 1)))) stack
          hle
        have hstate : (c.walk (visitor α) ⟨d.current + 1, d.limit⟩ ⟨parents, owner :: stack⟩).2 =
          ⟨putLinks parents ((c.info.id, owner) :: c.linksWithin (d.limit - (d.current + 1))),
            owner :: stack⟩ := hstate
        rw [Outline.walkChildren_ok hlt hc, Outline.eventsEach_ok hlt hc, if_pos (by omega), hstate,
          hstate', Event.entered, List.filterMap_append, ← Event.entered, ← Event.entered, hevents,
          hevents', ← List.cons_append, putLinks_append, List.map_append]
        exact ⟨rfl, rfl⟩
      · rw [if_neg hfits] at hc
        rw [Outline.walkChildren_error hlt hc, Outline.eventsEach_error hlt hc, if_neg (by omega),
          hstate, hevents, List.append_nil]
        exact ⟨rfl, rfl⟩
    · rw [Outline.walkChildren_ceiling hge, Outline.eventsEach_ceiling hge, if_neg (by omega)]
      exact ⟨rfl, rfl⟩

end

end ParentIndex

namespace Node

/-- The identities of the nodes that an index enters in a walk under a ceiling. -/
def entered (n : Node δ ε) (limit : Nat) : List NodeId :=
  Event.entered (n.outline.events (ParentIndex.visitor _) (.root limit) .empty)

theorem entered_events (n : Node δ ε) (limit : Nat) (x : ParentIndex) :
    Event.entered (n.outline.events (ParentIndex.visitor _) (.root limit) x) =
      nodeId n :: (n.outline.linksWithin limit).map Prod.fst := by
  rw [(ParentIndex.walk_index n.outline (.root limit) x (Nat.zero_le _)).2, info_outline]
  rfl

theorem entered_eq (n : Node δ ε) (limit : Nat) :
    n.entered limit = nodeId n :: (n.outline.linksWithin limit).map Prod.fst :=
  n.entered_events limit .empty

theorem entered_of_height {n : Node δ ε} {limit : Nat} (h : n.outline.height ≤ limit) :
    n.entered limit = n.outline.ids := by
  rw [entered_eq, Outline.linksWithin_eq _ _ h, Outline.ids_eq, info_outline]
  rfl

theorem entered_isPrefix (n : Node δ ε) (limit : Nat) : n.entered limit <+: n.outline.ids := by
  rw [entered_eq, Outline.ids_eq, info_outline]
  exact List.cons_prefix_cons.mpr ⟨rfl, (n.outline.linksWithin_isPrefix limit).map _⟩

section

variable {r c : Node δ ε} {limit : Nat} {path : List NodeId}

theorem mem_linksWithin_iff (hids : r.outline.ids.Nodup) {n p : NodeId} :
    (n, p) ∈ r.outline.linksWithin limit ↔
      n ∈ r.entered limit ∧ ∃ c path, Under r c (p :: path) ∧ nodeId c = n := by
  have hsubset := (r.outline.linksWithin_isPrefix limit).subset
  rw [← mem_links_iff, entered_eq]
  constructor
  · intro h
    exact ⟨List.mem_cons_of_mem _ (List.mem_map.mpr ⟨_, h, rfl⟩), hsubset h⟩
  · rintro ⟨hn, hlink⟩
    rw [Outline.ids_eq, List.nodup_cons, info_outline] at hids
    obtain ⟨hroot, hkeys⟩ := hids
    rcases List.mem_cons.mp hn with rfl | hn
    · exact absurd (List.mem_map.mpr ⟨_, hlink, rfl⟩) hroot
    · obtain ⟨⟨_, q⟩, hq, rfl⟩ := List.mem_map.mp hn
      have hpq : q = p := congrArg Prod.snd (List.inj_on_of_nodup_map hkeys (hsubset hq) hlink rfl)
      rwa [← hpq]

/-- The owners of an entered node were entered before it. -/
theorem Under.owners_entered (h : Under r c path) (hids : r.outline.ids.Nodup)
    (hc : nodeId c ∈ r.entered limit) :
    path ⊆ r.entered limit ∧ path.length < (r.entered limit).length := by
  obtain ⟨before, after, hsplit, hpath⟩ := h.ids_split
  rw [c.ids_outline, List.append_assoc] at hsplit
  have hnew : nodeId c ∉ before := by
    rw [hsplit, List.nodup_append] at hids
    intro hmem
    exact hids.2.2 _ hmem _ (by simp) rfl
  -- Both are prefixes of one list, and the node that was entered is not in the one before it.
  have hbefore : before <+: r.entered limit := by
    rcases List.prefix_or_prefix_of_prefix (r.entered_isPrefix limit) ⟨_, hsplit.symm⟩ with h | h
    · exact absurd (h.subset hc) hnew
    · exact h
  constructor
  · intro p hp
    exact hbefore.subset (hpath.subset (List.mem_reverse.mpr hp))
  · obtain ⟨rest, hrest⟩ := hbefore
    have hlength := hpath.length_le
    rw [List.length_reverse] at hlength
    rw [← hrest, List.mem_append] at hc
    have hpos := List.length_pos_of_mem (hc.resolve_left hnew)
    rw [← hrest, List.length_append]
    omega

theorem exists_under {n : NodeId} (h : n ∈ r.outline.ids) :
    ∃ c path, Under r c path ∧ nodeId c = n := by
  rw [Outline.ids_eq, info_outline, List.mem_cons, List.mem_map] at h
  rcases h with rfl | ⟨⟨_, p⟩, hlink, rfl⟩
  · exact ⟨r, [], .root, rfl⟩
  · obtain ⟨c, path, hc, hid⟩ := mem_links_iff.mp hlink
    exact ⟨c, p :: path, hc, hid⟩

end

end Node

/-! ## Walks of many trees -/

namespace ParentIndex

/-- The index that has seen walks of some trees in turn, each under a ceiling of its own. -/
def ofWalks (ts : List (Node δ ε × Nat)) : ParentIndex :=
  ts.foldl (fun x t => (t.1.outline.walkFrom (visitor _) t.2 x).2) .empty

/-- What is found on the way up from a node, owner by owner, until a node has none. -/
inductive Climbs (x : ParentIndex) : NodeId → List NodeId → Prop
  | top {n : NodeId} : x.parentOf? n = none → Climbs x n []
  | up {n p : NodeId} {path : List NodeId} :
    x.parentOf? n = some p → Climbs x p path → Climbs x n (p :: path)

theorem Climbs.ancestorsUpTo {x : ParentIndex} {n : NodeId} {path : List NodeId}
    (h : Climbs x n path) {k : Nat} (hk : path.length ≤ k) : x.ancestorsUpTo k n = path := by
  induction h generalizing k with
  | top hn => cases k <;> simp [ParentIndex.ancestorsUpTo, hn]
  | up hn _ ih =>
    cases k with
    | zero => simp at hk
    | succ k => simp [ParentIndex.ancestorsUpTo, hn, ih (Nat.le_of_succ_le_succ hk)]

theorem ofWalks_eq (ts : List (Node δ ε × Nat)) :
    ofWalks ts = ⟨putLinks ∅ (ts.flatMap fun t => t.1.outline.linksWithin t.2), []⟩ := by
  induction ts using List.reverseRecOn with
  | nil => rfl
  | append_singleton ts t ih =>
    obtain ⟨hstate, -⟩ := walk_index t.1.outline (.root t.2) (ofWalks ts) (Nat.zero_le _)
    have hlast : ofWalks (ts ++ [t]) = (t.1.outline.walkFrom (visitor _) t.2 (ofWalks ts)).2 :=
      List.foldl_append
    rw [hlast, Outline.walkFrom, hstate, ih, List.flatMap_append, putLinks_append,
      List.flatMap_singleton]
    rfl

section

variable {ts : List (Node δ ε × Nat)}

theorem nodup_ids (hts : (ts.flatMap fun t => (family t.1).ids).Nodup) :
    ((ts.flatMap fun t => t.1.outline.ids) ++ ts.flatMap fun t => t.1.outline.asideIds).Nodup := by
  have hperm := List.Perm.flatMap_left ts fun t _ => t.1.ids_family_perm
  exact ((hperm.trans (List.flatMap_append_perm _ _ _).symm).nodup_iff).mp hts

/-- What is entered is the roots and the nodes for which an owner is found. -/
theorem entered_perm (ts : List (Node δ ε × Nat)) :
    (ts.map (fun t => nodeId t.1) ++
      (ts.flatMap fun t => t.1.outline.linksWithin t.2).map Prod.fst).Perm
      (ts.flatMap fun t => t.1.entered t.2) := by
  have hperm := List.flatMap_append_perm ts (fun t => [nodeId t.1])
    fun t => (t.1.outline.linksWithin t.2).map Prod.fst
  rw [List.map_flatMap]
  simp only [Node.entered_eq]
  simpa only [List.singleton_append, ← List.map_eq_flatMap] using hperm

variable (hts : (ts.flatMap fun t => t.1.outline.ids).Nodup)
include hts

theorem nodup_keys : (ts.map (fun t => nodeId t.1) ++
    (ts.flatMap fun t => t.1.outline.linksWithin t.2).map Prod.fst).Nodup := by
  refine (entered_perm ts).nodup_iff.mpr (hts.sublist ?_)
  exact .flatMap_right ts fun t _ => (t.1.entered_isPrefix t.2).sublist

theorem parentOf?_ofWalks {n p : NodeId} : (ofWalks ts).parentOf? n = some p ↔
    ∃ t ∈ ts, n ∈ t.1.entered t.2 ∧ ∃ c path, Node.Under t.1 c (p :: path) ∧ nodeId c = n := by
  have hkeys := (List.nodup_append.mp (nodup_keys hts)).2.1
  rw [ofWalks_eq, parentOf?, getElem?_putLinks_empty hkeys, List.mem_flatMap]
  refine exists_congr fun t => and_congr_right fun ht => Node.mem_linksWithin_iff ?_
  exact (List.nodup_flatMap.mp hts).1 t ht

theorem parentOf?_root {t : Node δ ε × Nat} (ht : t ∈ ts) :
    (ofWalks ts).parentOf? (nodeId t.1) = none := by
  obtain ⟨-, hkeys, hroots⟩ := List.nodup_append.mp (nodup_keys hts)
  rw [Option.eq_none_iff_forall_not_mem]
  intro p hp
  rw [Option.mem_def, ofWalks_eq, parentOf?, getElem?_putLinks_empty hkeys] at hp
  exact hroots _ (List.mem_map.mpr ⟨t, ht, rfl⟩) _ (List.mem_map.mpr ⟨_, hp, rfl⟩) rfl

theorem size_eq : (ofWalks ts).size = (ts.flatMap fun t => t.1.outline.linksWithin t.2).length := by
  rw [ofWalks_eq, size, size_putLinks_empty (List.nodup_append.mp (nodup_keys hts)).2.1]

theorem size_ofWalks :
    (ofWalks ts).size + ts.length = (ts.flatMap fun t => t.1.entered t.2).length := by
  have hlength := (entered_perm ts).length_eq
  rw [List.length_append, List.length_map, List.length_map] at hlength
  rw [size_eq hts]
  omega

theorem climbs_ofWalks {t : Node δ ε × Nat} (ht : t ∈ ts) {c : Node δ ε} {path : List NodeId}
    (h : Node.Under t.1 c path) (hc : nodeId c ∈ t.1.entered t.2) :
    Climbs (ofWalks ts) (nodeId c) path := by
  have hids := (List.nodup_flatMap.mp hts).1 t ht
  induction h with
  | root => exact .top (parentOf?_root hts ht)
  | @child m c path hm hmem ih =>
    have hchild := Node.Under.child hm hmem
    refine .up ((parentOf?_ofWalks hts).mpr ⟨t, ht, hc, c, path, hchild, rfl⟩) (ih ?_)
    exact (hchild.owners_entered hids hc).1 List.mem_cons_self

theorem ancestors_ofWalks {t : Node δ ε × Nat} (ht : t ∈ ts) {c : Node δ ε} {path : List NodeId}
    (h : Node.Under t.1 c path) (hc : nodeId c ∈ t.1.entered t.2) :
    (ofWalks ts).ancestors (nodeId c) = path := by
  have hids := (List.nodup_flatMap.mp hts).1 t ht
  have hpath := (h.owners_entered hids hc).2
  have hfound : (t.1.outline.linksWithin t.2).length ≤ (ofWalks ts).size := by
    rw [size_eq hts]
    have hsublist := (List.singleton_sublist.mpr ht).flatMap fun t => t.1.outline.linksWithin t.2
    simpa using hsublist.length_le
  refine (climbs_ofWalks hts ht h hc).ancestorsUpTo ?_
  rw [Node.entered_eq, List.length_cons, List.length_map] at hpath
  exact Nat.le_trans (Nat.le_of_lt_succ hpath) hfound

end

/-! ## The index of one tree -/

section

variable {r : Node δ ε}

theorem build_eq (r : Node δ ε) : build r.outline =
    if r.outline.height ≤ 256 then .ok (ofWalks [(r, 256)])
    else .error (.depthLimitExceeded 256) := by
  have houtcome := Outline.walkFrom_outcome visitor_willing r.outline 256 .empty
  rw [build, ← Prod.eta (r.outline.walkFrom _ _ _)]
  simp only [Depth.defaultLimit, houtcome]
  by_cases hheight : r.outline.height ≤ 256
  · simp only [if_pos hheight]
    rfl
  · simp only [if_neg hheight]

theorem build_ok {x : ParentIndex} (h : build r.outline = .ok x) :
    r.outline.height ≤ 256 ∧ x = ofWalks [(r, 256)] := by
  rw [build_eq] at h
  split at h
  · exact ⟨‹_›, (Except.ok.inj h).symm⟩
  · cases h

theorem parentOf?_build {x : ParentIndex} (hx : build r.outline = .ok x)
    (hids : r.outline.ids.Nodup) {n p : NodeId} :
    x.parentOf? n = some p ↔ (n, p) ∈ r.outline.links := by
  obtain ⟨hheight, rfl⟩ := build_ok hx
  rw [parentOf?_ofWalks (by simpa using hids)]
  simp only [List.mem_singleton, exists_eq_left, Node.entered_of_height hheight, Outline.ids_eq,
    ← Node.mem_links_iff]
  refine and_iff_right_of_imp fun hlink => ?_
  exact List.mem_cons_of_mem _ (List.mem_map.mpr ⟨_, hlink, rfl⟩)

/-- The index of a tree in which every link is right agrees with the links. -/
theorem parentOf?_linked {x : ParentIndex} (hx : build r.outline = .ok x)
    (hids : (family r).ids.Nodup) (hlinked : (family r).Linked) {m c : Node δ ε}
    {path : List NodeId} (hm : Node.Under r m path) (hc : c ∈ m.walked)
    (hkind : m.subject.isDialect = false) : x.parentOf? (nodeId c) = parent? c := by
  have hwalked : r.outline.ids.Nodup :=
    (List.nodup_append.mp (r.ids_family_perm.nodup_iff.mp hids)).1
  rw [Node.parent_of_walked (hm.linked hlinked) hkind hc, parentOf?_build hx hwalked,
    Node.mem_links_iff]
  exact ⟨c, path, hm.child hc, rfl⟩

end

end ParentIndex

/-- An index that has seen walks of some trees has found who owns whom. It names an owner exactly
for the nodes that were entered below one; so roots have none, nor has what hangs on a header. Its
size is the number of entered nodes without the roots, and from every entered node the way up ends
at the root. One tree can be indexed exactly if it is no higher than the default ceiling, and the
index then agrees with the links that the operations keep. -/
theorem ParentIndex.owners_of_walked [SourceDialect δ] (ts : List (Node δ ε × Nat))
    (hts : (ts.flatMap fun t => (family t.1).ids).Nodup) :
    let x := ofWalks ts
    (∀ t ∈ ts, ∀ y, Event.entered (t.1.outline.events (visitor _) (.root t.2) y) =
      t.1.entered t.2) ∧
    (∀ n p, x.parentOf? n = some p ↔ ∃ t ∈ ts, n ∈ t.1.entered t.2 ∧
      ∃ c path, Node.Under t.1 c (p :: path) ∧ nodeId c = n) ∧
    (∀ t ∈ ts, x.parentOf? (nodeId t.1) = none) ∧
    (∀ n, (∀ t ∈ ts, n ∉ t.1.entered t.2) → x.parentOf? n = none) ∧
    (∀ t ∈ ts, ∀ m path h, Node.Under t.1 m path → m.subject.header? = some h →
      ∀ f ∈ h.hints.map family ++ slotFamilies h.flashback, ∀ id ∈ f.ids,
        (∀ t ∈ ts, id ∉ t.1.entered t.2) ∧ x.parentOf? id = none) ∧
    x.size + ts.length = (ts.flatMap fun t => t.1.entered t.2).length ∧
    (∀ t ∈ ts, ∀ n ∈ t.1.entered t.2, ∃ c path, Node.Under t.1 c path ∧ nodeId c = n ∧
      Climbs x n path ∧ x.ancestors n = path) ∧
    (∀ r : Node δ ε, (∃ y, build r.outline = .ok y) ↔ r.outline.height ≤ 256) ∧
    ∀ (start : Supply) (w : World δ ε), Reachable start w → ∀ r ∈ w.live, ∀ y,
      build r.outline = .ok y → ∀ m path, Node.Under r m path → m.subject.isDialect = false →
        ∀ c ∈ m.walked, y.parentOf? (nodeId c) = parent? c := by
  intro x
  obtain ⟨hids, -, haside⟩ := List.nodup_append.mp (nodup_ids hts)
  have hnone (n : NodeId) (hn : ∀ t ∈ ts, n ∉ t.1.entered t.2) : x.parentOf? n = none := by
    rw [Option.eq_none_iff_forall_not_mem]
    intro p hp
    obtain ⟨t, ht, hentered, -⟩ := (parentOf?_ofWalks hids).mp hp
    exact hn t ht hentered
  refine ⟨fun t _ y => ?_, fun n p => parentOf?_ofWalks hids, fun t ht => parentOf?_root hids ht,
    hnone, ?_, size_ofWalks hids, ?_, fun r => ?_, ?_⟩
  · rw [Node.entered_events, Node.entered_eq]
  · intro t ht m path h hm hheader f hf id hid
    have hmem : id ∈ t.1.outline.asideIds :=
      hm.mem_asideIds (by simpa [Subject.aside_of_header hheader, SourceHeader.groups] using hf) hid
    have hout (u : Node δ ε × Nat) (hu : u ∈ ts) : id ∉ u.1.entered u.2 := by
      intro hentered
      have hwalked := (u.1.entered_isPrefix u.2).subset hentered
      exact haside id (List.mem_flatMap.mpr ⟨u, hu, hwalked⟩) id
        (List.mem_flatMap.mpr ⟨t, ht, hmem⟩) rfl
    exact ⟨hout, hnone id hout⟩
  · intro t ht n hn
    obtain ⟨c, path, hc, rfl⟩ := Node.exists_under ((t.1.entered_isPrefix t.2).subset hn)
    exact ⟨c, path, hc, rfl, climbs_ofWalks hids ht hc hn, ancestors_ofWalks hids ht hc hn⟩
  · rw [build_eq]
    split <;> simp [*]
  · intro start w hw r hr y hy m path hm hkind c hc
    have hgrown := hw.grown
    obtain ⟨-, hlinked⟩ := hgrown.rooted _ (List.mem_map_of_mem hr)
    have hdistinct := (List.nodup_flatMap.mp hgrown.distinct).1 _ (List.mem_map_of_mem hr)
    exact parentOf?_linked hy hdistinct hlinked hm hc hkind

/-- A walk that ends at a ceiling of one level, and one of another tree that does not. The inner
segment of the name and the flashback expression are not entered. -/
theorem ParentIndex.owners_of_walked_cut :
    let info (k : Nat) : NodeInfo := { id := ⟨k⟩ }
    let name : Expr := .property (info 2) (.identifier (info 3) "shop") "orders"
    let header : SourceHeader := { info := info 1, flashback := some (.identifier (info 4) "now") }
    let t : Node SourceKind ElementKind := .table { header, expr := some name }
    let u : Node SourceKind ElementKind := .expr (.property (info 5) (.identifier (info 6) "a") "b")
    let x := ofWalks [(t, 1), (u, 1)]
    (t.outline.walkFrom (visitor _) 1 .empty).1 = .error (.depthLimitExceeded 1) ∧
      x.parentOf? ⟨2⟩ = some ⟨1⟩ ∧ x.parentOf? ⟨6⟩ = some ⟨5⟩ ∧ x.parentOf? ⟨5⟩ = none ∧
      x.parentOf? ⟨3⟩ = none ∧ x.parentOf? ⟨4⟩ = none ∧ x.size = 2 ∧ x.ancestors ⟨6⟩ = [⟨5⟩] := by
  intro info name header t u x
  have hts : ([(t, 1), (u, 1)].flatMap fun t => (family t.1).ids).Nodup := by decide
  obtain ⟨-, howner, hroot, hnone, haside, hsize, hup, -⟩ := owners_of_walked _ hts
  have ht : t.entered 1 = [⟨1⟩, ⟨2⟩] := rfl
  have hu : u.entered 1 = [⟨5⟩, ⟨6⟩] := rfl
  have hfive : x.parentOf? ⟨5⟩ = none := hroot (u, 1) (by simp)
  have hsix : x.parentOf? ⟨6⟩ = some ⟨5⟩ :=
    (howner ⟨6⟩ ⟨5⟩).mpr ⟨(u, 1), by simp, by simp [hu], .expr (.identifier (info 6) "a"), [],
      .child (m := u) .root (by simp [u, Node.walked]), rfl⟩
  refine ⟨rfl, ?_, hsix, hfive, hnone ⟨3⟩ (by simp [ht, hu]), ?_, ?_, ?_⟩
  · exact (howner ⟨2⟩ ⟨1⟩).mpr ⟨(t, 1), by simp, by simp [ht], .expr name, [],
      .child (m := t) .root (by simp [t, Node.walked, Node.ofSlot]), rfl⟩
  · have hflashback := haside (t, 1) (by simp) t [] header .root rfl
      (family (Expr.identifier (info 4) "now")) (by simp [header, slotFamilies])
    exact (hflashback ⟨4⟩ (by decide)).2
  · simpa [ht, hu] using hsize
  · obtain ⟨_, _, -, -, hclimbs, hancestors⟩ := hup (u, 1) (by simp) ⟨6⟩ (by simp [hu])
    rw [hancestors]
    cases hclimbs with
    | top h => rw [hsix] at h; cases h
    | up h hrest =>
      obtain rfl := Option.some.inj (hsix.symm.trans h)
      cases hrest with
      | top => rfl
      | up h => rw [hfive] at h; cases h

end SqlTree
