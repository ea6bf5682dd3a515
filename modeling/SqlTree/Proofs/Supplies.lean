import Mathlib.Data.List.Forall2
import Mathlib.Logic.Equiv.Fintype
import SqlTree.Proofs.Commands

/-! # The supply does not show

The same commands, run from two supplies, draw identities in the same order. A renaming that takes
the identities of one run to those of the other takes everything that the first run owns and says
to what the second one does, so nothing but identities can differ. -/

namespace SqlTree

open Node

variable {δ ε : Type} {ρ : NodeId → NodeId}

/-! ## Sessions -/

theorem take?_rename {α : Type} [HasRename α] (ks : List Nat) (as : List α) :
    take? ks (rename ρ as) = rename ρ (take? ks as) := by
  induction ks generalizing as with
  | nil => rfl
  | cons k ks ih =>
    refine bind_rename List.getElem?_map fun a => ?_
    rw [rename_list, List.eraseIdx_map]
    exact bind_rename (ih (as.eraseIdx k)) fun _ => rfl

/-! ## Lists and slots of related things -/

theorem rel_bind {α α' β β' : Type} {Q : α → α' → Prop} {R : β → β' → Prop} {o : Option α}
    {o' : Option α'} {f : α → Option β} {g : α' → Option β'} (ho : Option.Rel Q o o')
    (h : ∀ a b, Q a b → Option.Rel R (f a) (g b)) : Option.Rel R (o.bind f) (o'.bind g) := by
  cases ho with
  | none => exact .none
  | some hab => exact h _ _ hab

theorem rel_bind_rename {α β β' : Type} [HasRename α] {R : β → β' → Prop} {o o' : Option α}
    {f : α → Option β} {g : α → Option β'} (ho : o' = rename ρ o)
    (h : ∀ a, Option.Rel R (f a) (g (rename ρ a))) : Option.Rel R (o.bind f) (o'.bind g) := by
  rw [ho]
  cases o with
  | none => exact .none
  | some a => exact h a

section

variable {α β : Type} {R : α → β → Prop} {as : List α} {bs : List β} (h : List.Forall₂ R as bs)

include h

theorem forall₂_getElem? (i : Nat) : Option.Rel R as[i]? bs[i]? := by
  induction h generalizing i with
  | nil => exact .none
  | cons hab _ ih =>
    cases i with
    | zero => exact .some hab
    | succ i => exact ih i

theorem forall₂_set {a : α} {b : β} (hab : R a b) (i : Nat) :
    List.Forall₂ R (as.set i a) (bs.set i b) := by
  induction h generalizing i with
  | nil => exact .nil
  | cons hfirst hrest ih =>
    cases i with
    | zero => exact .cons hab hrest
    | succ i => exact .cons hfirst (ih i)

end

namespace Session

/-- The second session owns the renamed trees of the first, holds the renamed identities, and its
indexes have the renamed links. -/
structure Renamed (ρ : NodeId → NodeId) (x y : Session δ ε) : Prop where
  live : y.live = rename ρ x.live
  held : y.held = rename ρ x.held
  indexes : List.Forall₂ (ParentIndex.Renamed ρ) x.indexes y.indexes

/-- The sessions and the replies differ by the renaming. -/
def Agree (ρ : NodeId → NodeId) (a b : Session δ ε × Reply δ ε) : Prop :=
  a.1.Renamed ρ b.1 ∧ b.2 = rename ρ a.2

variable {x y : Session δ ε} (h : x.Renamed ρ y)

include h

theorem Renamed.identities :
    (y.live.map fun n => (family n).ids) = rename ρ (x.live.map fun n => (family n).ids) := by
  rw [h.live, rename_list, rename_list, List.map_map, List.map_map]
  exact List.map_congr_left fun n _ => by
    rw [Function.comp_apply, Renames.family_rename, Family.ids_rename]
    rfl

theorem Renamed.node? (spot : Spot) : y.node? spot = rename ρ (x.node? spot) := by
  rw [Session.node?, Session.node?, h.live]
  exact bind_rename List.getElem?_map fun n => n.at?_rename spot.path

theorem Renamed.id? (k : Nat) : y.held[k]? = rename ρ x.held[k]? := by
  rw [h.held]
  exact List.getElem?_map

theorem Renamed.ids? (ks : List Nat) : y.ids? ks = rename ρ (x.ids? ks) :=
  mapM_renamed h.id? ks

theorem Renamed.operands? (places ids : List Nat) :
    y.operands? places ids = rename ρ (x.operands? places ids) := by
  rw [Session.operands?, Session.operands?, h.live, take?_rename]
  exact bind_rename rfl fun _ => bind_rename (h.ids? ids) fun _ => rfl

theorem Renamed.told {r r' : Reply δ ε} (hr : r' = rename ρ r) :
    Agree ρ (x.told r) (y.told r') := by
  rw [hr]
  refine ⟨⟨h.live, ?_, h.indexes⟩, rfl⟩
  change y.held ++ rename ρ r.ids = rename ρ (x.held ++ r.ids)
  rw [h.held, rename_list, rename_list, rename_list, List.map_append]

theorem Renamed.performed (rest : List (Node δ ε)) (r : Option (List (Node δ ε) × Reply δ ε)) :
    Agree ρ (x.performed rest r) (y.performed (rename ρ rest) (rename ρ r)) := by
  cases r with
  | none => exact ⟨h, rfl⟩
  | some r => exact ⟨⟨List.map_append.symm, h.held, h.indexes⟩, rfl⟩

theorem Renamed.copied (r : Except TreeError (Node δ ε)) :
    Agree ρ (x.copied r) (y.copied (rename ρ r)) := by
  cases r with
  | error e => exact ⟨h, rfl⟩
  | ok c => exact ⟨⟨congrArg (rename ρ c :: ·) h.live, h.held, h.indexes⟩, rfl⟩

theorem Renamed.built {a b : Except TreeError ParentIndex}
    (hbuilt : (∃ i j, a = .ok i ∧ b = .ok j ∧ i.Renamed ρ j) ∨ ∃ e, a = .error e ∧ b = .error e) :
    Agree ρ (x.built a) (y.built b) := by
  obtain ⟨i, j, rfl, rfl, hindex⟩ | ⟨e, rfl, rfl⟩ := hbuilt
  · exact ⟨⟨h.live, h.held, List.rel_append h.indexes (.cons hindex .nil)⟩, rfl⟩
  · exact ⟨h, rfl⟩

theorem Renamed.indexed {a b : Outcome × ParentIndex} (hwalk : b.1 = a.1 ∧ a.2.Renamed ρ b.2)
    (i : Nat) : Agree ρ (x.indexed i a) (y.indexed i b) :=
  ⟨⟨h.live, h.held, forall₂_set h.indexes hwalk.2 i⟩,
    congrArg (fun o : Outcome => Reply.plain o.verdict) hwalk.1⟩

omit h

theorem walked_rename (hρ : Function.Injective ρ) (v : BlindVisitor δ ε) (d : Depth)
    (n : Node δ ε) (ids : List NodeId) :
    walked v d (rename ρ n) (rename ρ ids) = rename ρ (walked v d n ids) := by
  have hwalk := Outline.walk_inStep (v.inStep ρ hρ).recorded n.outline d
    (s := (v.start ids, [])) (t := (v.start (rename ρ ids), [])) ⟨v.start_alike ρ ids, rfl⟩
  rw [← outline_rename] at hwalk
  obtain ⟨houtcome, -, hevents⟩ := hwalk
  rw [walked, walked, houtcome, hevents]
  rfl

/-! ## Steps -/

section

variable [SourceDialect δ] [ElementDialect ε]

theorem answer?_renamed (hρ : Function.Injective ρ) (h : x.Renamed ρ y) (c : Command δ ε) :
    Option.Rel (Agree ρ) (x.answer? c) (y.answer? c) := by
  cases c with
  | equal i j =>
    refine rel_bind_rename (h.id? i) fun a => rel_bind_rename (h.id? j) fun b => ?_
    have hequal : decide (ρ a = ρ b) = decide (a = b) := decide_eq_decide.mpr hρ.eq_iff
    exact .some (h.told (congrArg (fun e => Reply.plain (.flag e)) hequal))
  | ask q spots =>
    refine rel_bind_rename (mapM_renamed h.node? spots) fun ns => ?_
    exact rel_bind_rename (q.answer?_rename ns) fun r => .some (h.told rfl)
  | walk v d spot ids =>
    refine rel_bind_rename (h.node? spot) fun n => rel_bind_rename (h.ids? ids) fun ids => ?_
    exact .some (h.told (walked_rename hρ v d n ids))
  | newIndex => exact .some (h.built (.inl ⟨_, _, rfl, rfl, ParentIndex.renamed_empty⟩))
  | buildIndex spot =>
    refine rel_bind_rename (h.node? spot) fun n => .some (h.built ?_)
    rw [outline_rename]
    exact ParentIndex.build_renamed hρ n.outline
  | walkIndex d i spot =>
    refine rel_bind_rename (h.node? spot) fun n => ?_
    refine rel_bind (forall₂_getElem? h.indexes i) fun a b hab => .some ?_
    rw [outline_rename]
    exact h.indexed (Outline.walk_inStep (ParentIndex.visitor_inStep hρ _) n.outline d hab) i
  | askIndex q i ids =>
    refine rel_bind (forall₂_getElem? h.indexes i) fun a b hab => ?_
    refine rel_bind_rename (h.ids? ids) fun ids => ?_
    exact rel_bind_rename (q.answer?_renamed hab ids) fun r => .some (h.told rfl)
  | perform _ _ _ | clone _ _ | draw => exact .none

/-- Run from the session and from its renamed copies, `f` draws the same number of identities and
gives related results. -/
def Uniform {α : Type} (ρ : NodeId → NodeId) (R : α → α → Prop) (f : Session δ ε → Fresh α)
    (x : Session δ ε) : Prop :=
  ∀ s, ∃ m, (f x s).2 = s.skip m ∧ ∀ y t, x.Renamed ρ y → s.Follows ρ m t →
    R (f x s).1 (f y t).1 ∧ (f y t).2 = t.skip m

/-- A command that draws first, in step with its renamed copies, and then only uses what it got. -/
theorem Uniform.of_mirrors {α : Type} [HasRename α] {c : Command δ ε} {p q : Fresh α}
    {k : α → Session δ ε × Reply δ ε} {l : Session δ ε → α → Session δ ε × Reply δ ε}
    (hpq : Mirrors ρ p q) (hx : x.step c = p >>= fun a => pure (k a))
    (hy : ∀ y, x.Renamed ρ y → y.step c = q >>= fun a => pure (l y a))
    (hkl : ∀ y, x.Renamed ρ y → ∀ a, Agree ρ (k a) (l y (rename ρ a))) :
    Uniform ρ (Agree ρ) (·.step c) x := by
  intro s
  obtain ⟨m, hdrawn, hm⟩ := hpq s
  simp only [hx]
  refine ⟨m, hdrawn, fun y t h hfollows => ?_⟩
  obtain ⟨hresult, hdrawn'⟩ := hm t hfollows
  rw [hy y h]
  refine ⟨?_, hdrawn'⟩
  change Agree ρ (k (p s).1) (l y (q t).1)
  rw [hresult]
  exact hkl y h _

theorem Uniform.of_pure {c : Command δ ε} {k : Session δ ε × Reply δ ε}
    {l : Session δ ε → Session δ ε × Reply δ ε} (hx : x.step c = pure k)
    (hy : ∀ y, x.Renamed ρ y → y.step c = pure (l y))
    (hkl : ∀ y, x.Renamed ρ y → Agree ρ k (l y)) : Uniform ρ (Agree ρ) (·.step c) x := by
  intro s
  simp only [hx]
  refine ⟨0, rfl, fun y t h _ => ?_⟩
  rw [hy y h]
  exact ⟨hkl y h, rfl⟩

theorem Uniform.of_refuse {c : Command δ ε} (hx : x.step c = pure x.refuse)
    (hy : ∀ y, x.Renamed ρ y → y.step c = pure y.refuse) : Uniform ρ (Agree ρ) (·.step c) x :=
  .of_pure hx hy fun _ h => ⟨h, rfl⟩

theorem perform_uniform (hρ : Function.Injective ρ) (d : Deed δ ε) (places ids : List Nat)
    (x : Session δ ε) : Uniform ρ (Agree ρ) (·.step (.perform d places ids)) x := by
  cases hx : x.operands? places ids with
  | none =>
    refine .of_refuse (step_perform_none hx) fun y h => step_perform_none ?_
    rw [h.operands?, hx]
    rfl
  | some r =>
    obtain ⟨⟨ns, rest⟩, ids⟩ := r
    refine .of_mirrors (d.perform_mirrors hρ ids ns) (step_perform_some hx)
      (fun y h => step_perform_some ?_) fun _ h r => h.performed rest r
    rw [h.operands?, hx]
    rfl

theorem clone_uniform (limit : Nat) (spot : Spot) (x : Session δ ε) :
    Uniform ρ (Agree ρ) (·.step (.clone limit spot)) x := by
  cases hx : x.node? spot with
  | none =>
    refine .of_refuse (step_clone_none ?_) fun y h => step_clone_none ?_
    · rw [hx]
      rfl
    · rw [h.node?, hx]
      rfl
  | some n =>
    have hy {y : Session δ ε} (h : x.Renamed ρ y) : y.node? spot = some (rename ρ n) := by
      rw [h.node?, hx]
      rfl
    obtain ⟨hn, hn'⟩ | ⟨p, q, hp, hq, hpq⟩ := n.tryClone?_mirrors limit (ρ := ρ)
    · refine .of_refuse (step_clone_none ?_) fun y h => step_clone_none ?_
      · rw [hx, Option.bind_some, hn]
      · rw [hy h, Option.bind_some, hn']
    · refine .of_mirrors hpq (step_clone_some ?_) (fun y h => step_clone_some ?_)
        fun _ h r => h.copied r
      · rw [hx, Option.bind_some, hp]
      · rw [hy h, Option.bind_some, hq]

theorem answer_uniform (hρ : Function.Injective ρ) {c : Command δ ε}
    (hstep : ∀ x : Session δ ε, x.step c = pure ((x.answer? c).getD x.refuse)) (x : Session δ ε) :
    Uniform ρ (Agree ρ) (·.step c) x := by
  refine .of_pure (hstep x) (fun y _ => hstep y) fun y h => ?_
  have hrel := answer?_renamed hρ h c
  generalize x.answer? c = a at hrel ⊢
  generalize y.answer? c = b at hrel ⊢
  cases hrel with
  | none => exact ⟨h, rfl⟩
  | some hagree => exact hagree

theorem step_uniform (hρ : Function.Injective ρ) (c : Command δ ε) (x : Session δ ε) :
    Uniform ρ (Agree ρ) (·.step c) x := by
  cases c with
  | perform d places ids => exact perform_uniform hρ d places ids x
  | clone limit spot => exact clone_uniform limit spot x
  | draw =>
    exact .of_mirrors (l := fun y n => y.told (.telling [n])) .freshId rfl (fun _ _ => rfl)
      fun _ h _ => h.told rfl
  | _ => exact answer_uniform hρ (fun _ => rfl) x

/-! ## Runs -/

theorem run_uniform (hρ : Function.Injective ρ) (cs : List (Command δ ε)) (x : Session δ ε) :
    Uniform ρ (List.Forall₂ (Agree ρ)) (·.run cs) x := by
  induction cs generalizing x with
  | nil => exact fun s => ⟨0, rfl, fun y t _ _ => ⟨.nil, rfl⟩⟩
  | cons c cs ih =>
    intro s
    obtain ⟨m, hdrawn, hm⟩ := step_uniform hρ c x s
    obtain ⟨n, hdrawn', hn⟩ := ih (x.step c s).1.1 (s.skip m)
    refine ⟨m + n, ?_, fun y t h hfollows => ?_⟩
    · change ((x.step c s).1.1.run cs (x.step c s).2).2 = s.skip (m + n)
      rw [hdrawn, hdrawn', Supply.skip_skip]
    · obtain ⟨hagree, hrest⟩ := hm y t h hfollows.first
      obtain ⟨hagrees, hend⟩ := hn (y.step c t).1.1 (t.skip m) hagree.1 hfollows.later
      change List.Forall₂ (Agree ρ) (_ :: ((x.step c s).1.1.run cs (x.step c s).2).1)
        (_ :: ((y.step c t).1.1.run cs (y.step c t).2).1) ∧
          ((y.step c t).1.1.run cs (y.step c t).2).2 = t.skip (m + n)
      rw [hdrawn, hrest, hend, Supply.skip_skip]
      exact ⟨.cons hagree hagrees, rfl⟩

end

end Session

/-- Some permutation takes the next identities of one supply to those of another. -/
theorem Supply.exists_follows (m : Nat) (s t : Supply) :
    ∃ ρ : Equiv.Perm NodeId, s.Follows ρ m t := by
  have hnext (r : Supply) : Function.Injective fun k : Fin m => r.nth (r.drawn + k) := by
    intro j k h
    exact Fin.ext (Nat.add_left_cancel (r.nth_inj.mp h))
  obtain ⟨ρ, hρ⟩ := Equiv.Perm.exists_extending_pair _ _ (hnext s) (hnext t)
  exact ⟨ρ, fun k hk => (hρ ⟨k, hk⟩).symm⟩

/-- The same commands, run from an empty session with two supplies, draw the same number of
identities in the same order. One renaming takes the identities of the first run to those of the
second, and with them, after every command, the trees and the identities of all their nodes, the
identities held, the links of the indexes and the reply; all verdicts are equal. -/
theorem Session.runs_differ_by_renaming [SourceDialect δ] [ElementDialect ε]
    (cs : List (Command δ ε)) (s t : Supply) :
    ∃ (ρ : Equiv.Perm NodeId) (m : Nat),
      (run {} cs s).2 = s.skip m ∧ (run {} cs t).2 = t.skip m ∧
      (∀ k < m, t.nth (t.drawn + k) = ρ (s.nth (s.drawn + k))) ∧
      List.Forall₂
        (fun a b => a.1.Renamed ρ b.1 ∧
          (b.1.live.map fun n => (family n).ids) = rename ρ (a.1.live.map fun n => (family n).ids) ∧
          b.2 = rename ρ a.2 ∧ b.2.verdict = a.2.verdict)
        (run {} cs s).1 (run {} cs t).1 := by
  -- How much is drawn does not depend on the renaming, which is chosen to fit it.
  obtain ⟨m, hm, -⟩ := run_uniform Function.injective_id cs {} s
  obtain ⟨ρ, hfollows⟩ := s.exists_follows m t
  obtain ⟨n, hn, hrun⟩ := run_uniform ρ.injective cs {} s
  have hdrawn : s.drawn + m = s.drawn + n := congrArg Supply.drawn (hm.symm.trans hn)
  obtain rfl := Nat.add_left_cancel hdrawn
  obtain ⟨hagrees, ht⟩ := hrun {} t ⟨rfl, rfl, .nil⟩ hfollows
  refine ⟨ρ, m, hm, ht, hfollows, hagrees.imp fun a b hagree => ?_⟩
  exact ⟨hagree.1, hagree.1.identities, hagree.2, (congrArg Reply.verdict hagree.2).trans rfl⟩

-- A run that puts another name into a table, asks for its text and skips the name in a walk.
example :
    ((Session.run (δ := SourceKind) (ε := ElementKind) {}
      [.perform (.make (.plain ⟨.identifier "t", rfl⟩)) [] [], .perform (.make .table) [0] [],
        .perform (.make (.plain ⟨.identifier "u", rfl⟩)) [] [], .ask .info [⟨1, [1]⟩],
        .perform (.work .whole .replace) [1, 0] [0], .ask .render [⟨0, []⟩],
        .walk .pruning (.root 1) ⟨0, []⟩ [1]] .counting).1.map
      fun r => (r.2.verdict, r.2.ids, r.2.events.length)) =
    [(.done, [], 0), (.done, [], 0), (.done, [], 0), (.done, [⟨1⟩, ⟨2⟩], 0), (.replaced, [], 0),
      (.text (some "u"), [], 0), (.done, [], 4)] := rfl

end SqlTree
