import Mathlib.Data.List.Perm.Basic
import SqlTree.Clone
import SqlTree.Proofs.Family

/-! # Growth: families and the supply of their identities

`Grown` says of a list of families that every node has an identity of its own, drawn in a given
stretch of the supply, and that all links are right. Putting nodes in and taking nodes out of a
family is an `Exchange`, and exchanges keep what has grown. -/

namespace SqlTree

open Family

/-! ## Supplies -/

/-- `s'` is what is left of `s` after some draws. -/
def Supply.Advances (s s' : Supply) : Prop := s'.nth = s.nth ∧ s.drawn ≤ s'.drawn

theorem Supply.nth_inj (s : Supply) {j k : Nat} : s.nth j = s.nth k ↔ j = k := by
  refine ⟨fun h => ?_, fun h => h ▸ rfl⟩
  rcases Nat.lt_trichotomy j k with hlt | heq | hgt
  · have := s.increasing _ _ hlt
    rw [h] at this
    exact absurd this (Nat.lt_irrefl _)
  · exact heq
  · have := s.increasing _ _ hgt
    rw [h] at this
    exact absurd this (Nat.lt_irrefl _)

/-- The identity was drawn after `s` and before `s'`. -/
def Supply.Issued (s s' : Supply) (id : NodeId) : Prop :=
  ∃ k, s.drawn ≤ k ∧ k < s'.drawn ∧ id = s.nth k

/-! ## Exchanges -/

variable {T : Attributes → Prop}

/-- A group of children of `owner` takes in the families `given` and gives out the families
`back`. No node is lost or doubled, and the links follow. -/
structure Turnover (T : Attributes → Prop) (owner : NodeId)
    (group given group' back : List Family) : Prop where
  ids : ((group' ++ back).flatMap ids).Perm ((group ++ given).flatMap ids)
  belong : Belong (some owner) group → Belong none given →
    Belong (some owner) group' ∧ Belong none back
  tagged : (∀ f ∈ group ++ given, f.Tagged T) → ∀ f ∈ group' ++ back, f.Tagged T

/-- A node takes in the families `given` and gives out the families `back`. -/
structure Exchange (T : Attributes → Prop) (before : Family) (given : List Family) (after : Family)
    (back : List Family) : Prop where
  id : after.info.id = before.info.id
  parent : after.info.parent = before.info.parent
  ids : ((after :: back).flatMap ids).Perm ((before :: given).flatMap ids)
  linked : before.Linked → Belong none given → after.Linked ∧ Belong none back
  tagged : (∀ f ∈ before :: given, f.Tagged T) → ∀ f ∈ after :: back, f.Tagged T

theorem Exchange.refl (f : Family) : Exchange T f [] f [] where
  id := rfl
  parent := rfl
  ids := .refl _
  linked h _ := ⟨h, belong_nil _⟩
  tagged h := h

theorem Exchange.trans {f g h : Family} {given given' back back' : List Family}
    (hfg : Exchange T f given g back) (hgh : Exchange T g given' h back') :
    Exchange T f (given ++ given') h (back' ++ back) where
  id := hgh.id.trans hfg.id
  parent := hgh.parent.trans hfg.parent
  ids := by
    have hids := hfg.ids
    have hids' := hgh.ids
    rw [List.perm_iff_count] at hids hids' ⊢
    intro x
    have hx := hids x
    have hx' := hids' x
    simp only [List.flatMap_cons, List.flatMap_append, List.count_append] at hx hx' ⊢
    omega
  linked hf hg := by
    rw [belong_append] at hg ⊢
    obtain ⟨hlinked, hback⟩ := hfg.linked hf hg.1
    obtain ⟨hlinked', hback'⟩ := hgh.linked hlinked hg.2
    exact ⟨hlinked', hback', hback⟩
  tagged ht := by
    simp only [List.mem_cons, List.mem_append] at ht ⊢
    have hg := hfg.tagged fun c hc => ht c (by
      rcases List.mem_cons.mp hc with hc | hc
      · exact .inl hc
      · exact .inr (.inl hc))
    have hh := hgh.tagged fun c hc => by
      rcases List.mem_cons.mp hc with rfl | hc
      · exact hg _ List.mem_cons_self
      · exact ht c (.inr (.inr hc))
    rintro c (rfl | hc | hc)
    · exact hh _ List.mem_cons_self
    · exact hh c (List.mem_cons_of_mem _ hc)
    · exact hg c (List.mem_cons_of_mem _ hc)

/-- What the first exchange gives out goes into the second one. -/
theorem Exchange.chain {f g h : Family} {given middle back : List Family}
    (hfg : Exchange T f given g middle) (hgh : Exchange T g middle h back) :
    Exchange T f given h back where
  id := hgh.id.trans hfg.id
  parent := hgh.parent.trans hfg.parent
  ids := hgh.ids.trans hfg.ids
  linked hf hg := by
    obtain ⟨hlinked, hmiddle⟩ := hfg.linked hf hg
    exact hgh.linked hlinked hmiddle
  tagged ht := hgh.tagged (hfg.tagged ht)

/-- A node whose children stand in groups, one of which changes. -/
theorem Turnover.exchange {i : NodeInfo} {group given group' back : List Family}
    (h : Turnover T i.id group given group' back) (pre post : List (List Family))
    (kept : List Family) :
    Exchange T (.node i (pre ++ group :: post).flatten kept) given
      (.node i (pre ++ group' :: post).flatten kept) back where
  id := rfl
  parent := rfl
  ids := by
    have hids := h.ids
    rw [List.perm_iff_count] at hids ⊢
    intro x
    have hx := hids x
    simp only [List.flatMap_cons, List.flatMap_append, ids_node, List.flatten_append,
      List.flatten_cons, List.count_append, List.count_cons] at hx ⊢
    omega
  linked hl hg := by
    rw [linked_node] at hl ⊢
    simp only [List.flatten_append, List.flatten_cons, belong_append] at hl ⊢
    obtain ⟨⟨hpre, hgroup, hpost⟩, hkept⟩ := hl
    obtain ⟨hgroup', hback⟩ := h.belong hgroup hg
    exact ⟨⟨⟨hpre, hgroup', hpost⟩, hkept⟩, hback⟩
  tagged ht := by
    have hnode := ht _ List.mem_cons_self
    rw [tagged_node] at hnode
    obtain ⟨hi, howned, hkept⟩ := hnode
    have hmem : ∀ f ∈ group' ++ back, f.Tagged T := by
      apply h.tagged
      intro f hf
      rcases List.mem_append.mp hf with hf | hf
      · exact howned f (by simp [hf])
      · exact ht f (List.mem_cons_of_mem _ hf)
    intro f hf
    rcases List.mem_cons.mp hf with rfl | hf
    · refine tagged_node.mpr ⟨hi, fun c hc => ?_, hkept⟩
      simp only [List.flatten_append, List.flatten_cons, List.mem_append] at hc howned
      rcases hc with hc | hc | hc
      · exact howned c (.inl hc)
      · exact hmem c (by simp [hc])
      · exact howned c (.inr (.inr hc))
    · exact hmem f (by simp [hf])

theorem Turnover.cons {owner : NodeId} {group given group' back : List Family}
    (h : Turnover T owner group given group' back) (f : Family) :
    Turnover T owner (f :: group) given (f :: group') back where
  ids := by simpa using h.ids.append_left f.ids
  belong hb hg := by
    rw [belong_cons] at hb ⊢
    obtain ⟨hgroup', hback⟩ := h.belong hb.2 hg
    exact ⟨⟨hb.1, hgroup'⟩, hback⟩
  tagged ht c hc := by
    rcases List.mem_cons.mp hc with rfl | hc
    · exact ht _ List.mem_cons_self
    · exact h.tagged (fun c hc => ht c (List.mem_cons_of_mem _ hc)) c hc

section

variable {α : Type} [HasInfo α] [HasFamily α]

@[simp] theorem slotFamilies_none : slotFamilies (none : Option α) = [] := rfl

@[simp] theorem slotFamilies_some (a : α) : slotFamilies (some a) = [family a] := rfl

theorem swap_turnover (owner : NodeId) (slot value : Option α) :
    Turnover T owner (slotFamilies slot) (slotFamilies value)
      (slotFamilies (swap owner slot value).1) (slotFamilies (swap owner slot value).2) where
  ids := by
    cases slot <;> cases value <;> simp [swap, List.perm_append_comm]
  belong := by
    cases slot <;> cases value <;> simp +contextual [swap]
  tagged := by
    cases slot <;> cases value <;> simp +contextual [swap]

theorem put_turnover (owner : NodeId) (a b : α) (rest : List Family) :
    Turnover T owner (family a :: rest) [family b] (family (adopt owner b) :: rest)
      [family (release a)] where
  ids := by
    rw [List.perm_iff_count]
    intro x
    simp only [family_adopt, family_release, List.flatMap_append, List.flatMap_cons,
      List.flatMap_nil, List.append_nil, ids_setParent, List.count_append]
    omega
  belong := by simp +contextual
  tagged := by simp +contextual [or_imp, forall_and]

theorem push_turnover (owner : NodeId) (as : List α) (a : α) :
    Turnover T owner (as.map family) [family a] ((as ++ [adopt owner a]).map family) [] where
  ids := by simp
  belong := by simp +contextual
  tagged := by simp +contextual [or_imp, forall_and]

theorem renew_turnover (owner : NodeId) (as bs : List α) :
    Turnover T owner (as.map family) (bs.map family) ((bs.map (adopt owner)).map family)
      ((as.map release).map family) where
  ids := by simp [List.flatMap_map, List.perm_append_comm]
  belong hold hnew := by
    simp only [Belong, List.mem_map, forall_exists_index, and_imp, forall_apply_eq_imp_iff₂,
      family_adopt, family_release, info_setParent, linked_setParent, true_and] at hold hnew ⊢
    exact ⟨fun b hb => (hnew b hb).2, fun a ha => (hold a ha).2⟩
  tagged h := by
    simp only [List.mem_append, List.mem_map] at h ⊢
    rintro f (⟨_, ⟨b, hb, rfl⟩, rfl⟩ | ⟨_, ⟨a, ha, rfl⟩, rfl⟩)
    · simpa using h (family b) (.inr ⟨b, hb, rfl⟩)
    · simpa using h (family a) (.inl ⟨a, ha, rfl⟩)

theorem foldl_exchange {β : Type} [HasInfo β] [HasFamily β] {add : α → β → α}
    (h : ∀ a b, Exchange T (family a) [family b] (family (add a b)) []) (a : α) (bs : List β) :
    Exchange T (family a) (bs.map family) (family (bs.foldl add a)) [] := by
  induction bs generalizing a with
  | nil => exact .refl _
  | cons b bs ih => exact (h a b).trans (ih (add a b))

theorem erase_turnover (owner : NodeId) (as : List α) (k : Nat) :
    Turnover T owner (as.map family) [] ((as.eraseIdx k).map family)
      (slotFamilies (as[k]?.map release)) := by
  by_cases hk : k < as.length
  · have hperm : (as[k] :: as.eraseIdx k).Perm as := List.getElem_cons_eraseIdx_perm hk
    have hids : ((as.eraseIdx k ++ [as[k]]).flatMap fun a => (family a).ids).Perm
        (as.flatMap fun a => (family a).ids) :=
      ((List.perm_append_singleton _ _).trans hperm).flatMap_right _
    rw [List.getElem?_eq_getElem hk]
    refine ⟨by simpa [List.flatMap_map] using hids, fun h _ => ⟨?_, ?_⟩, fun h f hf => ?_⟩
    · intro f hf
      obtain ⟨a, ha, rfl⟩ := List.mem_map.mp hf
      exact h _ (List.mem_map_of_mem (List.mem_of_mem_eraseIdx ha))
    · simpa using (h _ (List.mem_map_of_mem (List.getElem_mem hk))).2
    · simp only [Option.map_some, slotFamilies_some, List.mem_append, List.mem_map,
        List.mem_singleton, family_release] at hf
      rcases hf with ⟨a, ha, rfl⟩ | rfl
      · exact h _ (by simpa using ⟨a, List.mem_of_mem_eraseIdx ha, rfl⟩)
      · rw [tagged_setParent]
        exact h _ (by simpa using ⟨as[k], List.getElem_mem hk, rfl⟩)
  · rw [List.eraseIdx_of_length_le (by omega), List.getElem?_eq_none (by omega)]
    exact ⟨by simp, fun h _ => ⟨h, by simp⟩, fun h => by simpa using h⟩

end

theorem keep_exchange (i : NodeInfo) (owned kept : List Family) :
    Exchange T (.node i owned []) kept (.node i owned kept) [] where
  id := rfl
  parent := rfl
  ids := by simp [ids_node]
  linked hl hk := by
    rw [linked_node] at hl ⊢
    exact ⟨⟨hl.1, hk⟩, belong_nil _⟩
  tagged ht f hf := by
    obtain rfl := List.mem_singleton.mp hf
    obtain ⟨hi, howned, -⟩ := tagged_node.mp (ht _ List.mem_cons_self)
    exact tagged_node.mpr ⟨hi, howned, fun c hc => ht c (List.mem_cons_of_mem _ hc)⟩

theorem perm_turnover (owner : NodeId) {group group' : List Family} (h : group'.Perm group) :
    Turnover T owner group [] group' [] where
  ids := by simpa using h.flatMap_right Family.ids
  belong hb _ := ⟨hb.perm h, belong_nil _⟩
  tagged ht f hf := by
    simp only [List.append_nil] at ht hf
    exact ht f (h.mem_iff.mp hf)

theorem Exchange.turnover {before after : Family} {given back : List Family}
    (h : Exchange T before given after back) (owner : NodeId) (pre post : List Family) :
    Turnover T owner (pre ++ before :: post) given (pre ++ after :: post) back where
  ids := by
    have hids := h.ids
    rw [List.perm_iff_count] at hids ⊢
    intro x
    have hx := hids x
    simp only [List.flatMap_cons, List.flatMap_append, List.count_append] at hx ⊢
    omega
  belong hb hg := by
    simp only [belong_append, belong_cons] at hb ⊢
    obtain ⟨hpre, ⟨hparent, hlinked⟩, hpost⟩ := hb
    obtain ⟨hlinked', hback⟩ := h.linked hlinked hg
    exact ⟨⟨hpre, ⟨h.parent.trans hparent, hlinked'⟩, hpost⟩, hback⟩
  tagged ht := by
    simp only [List.mem_append, List.mem_cons] at ht ⊢
    have hmem := h.tagged fun f hf => ht f (by
      rcases List.mem_cons.mp hf with hf | hf
      · exact .inl (.inr (.inl hf))
      · exact .inr hf)
    rintro f ((hf | hf | hf) | hf)
    · exact ht f (.inl (.inl hf))
    · exact hmem f (by simp [hf])
    · exact ht f (.inl (.inr (.inr hf)))
    · exact hmem f (by simp [hf])

/-! ## Growth -/

/-- Families that have grown while the supply went from `s` to `s'`: all identities are different
and drawn in between, the heads are roots, all links are right, and the attributes are as `T`
asks. -/
structure Grown (T : Attributes → Prop) (s s' : Supply) (fs : List Family) : Prop where
  advances : s.Advances s'
  distinct : (fs.flatMap ids).Nodup
  issued : ∀ id ∈ fs.flatMap ids, s.Issued s' id
  rooted : Belong none fs
  tagged : ∀ f ∈ fs, f.Tagged T

namespace Grown

variable {s s' : Supply} {fs gs : List Family}

theorem nil (h : s.Advances s') : Grown T s s' [] where
  advances := h
  distinct := .nil
  issued := by simp
  rooted := belong_nil _
  tagged := by simp

theorem perm (h : Grown T s s' fs) (hp : gs.Perm fs) : Grown T s s' gs where
  advances := h.advances
  distinct := (hp.flatMap_right ids).nodup_iff.mpr h.distinct
  issued id hid := h.issued id ((hp.flatMap_right ids).mem_iff.mp hid)
  rooted := h.rooted.perm hp
  tagged f hf := h.tagged f (hp.mem_iff.mp hf)

theorem drop (h : Grown T s s' (fs ++ gs)) : Grown T s s' gs where
  advances := h.advances
  distinct := by
    have := h.distinct
    rw [List.flatMap_append, List.nodup_append] at this
    exact this.2.1
  issued id hid := h.issued id (by rw [List.flatMap_append]; exact List.mem_append_right _ hid)
  rooted := (belong_append.mp h.rooted).2
  tagged f hf := h.tagged f (List.mem_append_right _ hf)

theorem exchange {before after : Family} {given back : List Family}
    (h : Grown T s s' (before :: (given ++ fs))) (he : Exchange T before given after back) :
    Grown T s s' (after :: (back ++ fs)) := by
  have hids : ((after :: (back ++ fs)).flatMap ids).Perm ((before :: (given ++ fs)).flatMap ids) := by
    have := he.ids.append_right (fs.flatMap ids)
    simpa using this
  have hrooted := h.rooted
  simp only [belong_cons, belong_append] at hrooted
  obtain ⟨⟨hparent, hlinked⟩, hgiven, hrest⟩ := hrooted
  obtain ⟨hlinked', hback⟩ := he.linked hlinked hgiven
  have htagged : ∀ f ∈ after :: back, f.Tagged T := he.tagged fun f hf => h.tagged f (by
    rcases List.mem_cons.mp hf with rfl | hf <;> simp [*])
  refine ⟨h.advances, hids.nodup_iff.mpr h.distinct, fun id hid => h.issued id (hids.mem_iff.mp hid),
    ?_, fun f hf => ?_⟩
  · simp only [belong_cons, belong_append]
    exact ⟨⟨he.parent.trans hparent, hlinked'⟩, hback, hrest⟩
  · rw [← List.cons_append, List.mem_append] at hf
    rcases hf with hf | hf
    · exact htagged f hf
    · exact h.tagged f (by simp [hf])

theorem new (h : Grown T s s' fs) (hT : T .empty) :
    Grown T s s'.draw.2 (.node (newInfo s').1 [] [] :: fs) := by
  obtain ⟨hnth, hle⟩ := h.advances
  have hstep : ∀ id, s.Issued s' id → s.Issued s'.draw.2 id :=
    fun id ⟨k, hk, hlt, hid⟩ => ⟨k, hk, Nat.lt_succ_of_lt hlt, hid⟩
  have hnew : (newInfo s').1.id = s.nth s'.drawn := congrFun hnth _
  refine ⟨⟨hnth, Nat.le_succ_of_le hle⟩, ?_, ?_, ?_, ?_⟩
  · simp only [List.flatMap_cons, ids_node, List.flatMap_nil, List.append_nil, List.cons_append,
      List.nil_append, List.nodup_cons]
    refine ⟨fun hmem => ?_, h.distinct⟩
    -- All identities so far come from earlier places of the supply.
    obtain ⟨k, -, hlt, hk⟩ := h.issued _ hmem
    rw [hnew, s.nth_inj] at hk
    omega
  · intro id hid
    simp only [List.flatMap_cons, ids_node, List.flatMap_nil, List.append_nil, List.cons_append,
      List.nil_append, List.mem_cons] at hid
    rcases hid with rfl | hid
    · exact ⟨s'.drawn, hle, Nat.lt_succ_self _, hnew⟩
    · exact hstep id (h.issued id hid)
  · exact belong_cons.mpr ⟨⟨rfl, linked_node.mpr ⟨belong_nil _, belong_nil _⟩⟩, h.rooted⟩
  · intro f hf
    rcases List.mem_cons.mp hf with rfl | hf
    · exact tagged_node.mpr ⟨hT, by simp, by simp⟩
    · exact h.tagged f hf

end Grown

/-! ## Computations that draw identities -/

/-- The computation turns the families `given` into the families `made`, whatever else has
grown. -/
def Makes {α : Type} (T : Attributes → Prop) (x : Fresh α) (given : List Family)
    (made : α → List Family) : Prop :=
  ∀ r s rest, Grown T r s (given ++ rest) → Grown T r (x s).2 (made (x s).1 ++ rest)

namespace Makes

variable {α β : Type} {x : Fresh α} {given given' : List Family} {made : α → List Family}

theorem pure (a : α) (made : α → List Family) : Makes T (Pure.pure a) (made a) made :=
  fun _ _ _ h => h

theorem perm_given (h : Makes T x given made) (hp : given.Perm given') : Makes T x given' made :=
  fun r s rest hg => h r s rest (hg.perm (hp.append_right rest))

theorem bind {k : α → Fresh β} {made' : β → List Family} (hx : Makes T x given made)
    (hk : ∀ a, Makes T (k a) (made a) made') : Makes T (x >>= k) given made' :=
  fun r s rest h => hk _ r _ rest (hx r s rest h)

theorem frame (h : Makes T x given made) (more : List Family) :
    Makes T x (given ++ more) fun a => made a ++ more := by
  intro r s rest hg
  rw [List.append_assoc] at hg ⊢
  exact h r s (more ++ rest) hg

theorem next (h : Makes T x [] made) (given : List Family) :
    Makes T x given fun a => given ++ made a := by
  intro r s rest hg
  have hframe := h.frame given r s rest hg
  exact hframe.perm (List.perm_append_comm.append_right rest)

theorem newInfo (hT : T .empty) : Makes T newInfo [] fun i => [.node i [] []] :=
  fun _ _ _ h => h.new hT

theorem mapM {f : α → Fresh β} {made : β → Family} (as : List α)
    (h : ∀ a ∈ as, Makes T (f a) [] fun b => [made b]) :
    Makes T (as.mapM f) [] fun bs => bs.map made := by
  induction as with
  | nil => exact pure [] (List.map made)
  | cons a as ih =>
    rw [List.mapM_cons]
    refine (h a List.mem_cons_self).bind fun b => ?_
    have hrest := (ih fun c hc => h c (List.mem_cons_of_mem _ hc)).frame [made b]
    refine hrest.bind fun bs => ?_
    exact (pure (b :: bs) (List.map made)).perm_given (List.perm_append_singleton _ _).symm

end Makes

end SqlTree
