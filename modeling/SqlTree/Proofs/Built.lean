import SqlTree.Blueprint
import SqlTree.Proofs.Copies
import SqlTree.Proofs.Owners

/-! # Built sources

What a blueprint builds is new and linked like everything that the operations make. It has the joins
of the blueprint with tables at their ends, so only the ceiling can keep it from being copied. -/

namespace SqlTree

open Family

variable {T : Attributes → Prop} {δ ε : Type}

/-! ## The nodes of a built source -/

theorem SourceHeader.foldl_addHint_exchanges (h : SourceHeader) (xs : List Hint) :
    h.Exchanges T (xs.map family) (xs.foldl addHint h) [] := by
  induction xs generalizing h with
  | nil => exact fun _ _ => .refl _
  | cons x xs ih =>
    intro post kept
    exact (h.addHint_exchanges x post kept).trans (ih (h.addHint x) post kept)

namespace Blueprint

section

variable (hT : T .empty)

include hT

theorem names_makes (names : List String) :
    Makes T (names.mapM Expr.newIdentifier) [] (List.map family) :=
  .mapM names fun name _ => Expr.newIdentifier_makes hT name

theorem buildTable_makes (e : Expr) (alias? : Option String) (partitions hints : List String)
    (flashback : Option Int64) :
    Makes T (buildTable e alias? partitions hints flashback) [family e] fun t => [family t] := by
  have hhints : Makes T (hints.mapM Hint.new) [] (List.map family) :=
    .mapM hints fun text _ => Hint.new_makes hT text
  unfold buildTable
  refine (TableRef.new_makes hT e).bind fun t => ((names_makes hT partitions).next _).bind fun es =>
    (hhints.next _).bind fun xs => ?_
  have hpartitions := foldl_exchange (T := T) TableRef.addPartition_exchange t es
  generalize es.foldl TableRef.addPartition t = t' at hpartitions ⊢
  have hheader := (t'.header.setAlias alias?).1.foldl_addHint_exchanges (T := T) xs
  generalize xs.foldl SourceHeader.addHint (t'.header.setAlias alias?).1 = h at hheader ⊢
  have hdone (f : Option Expr) : Makes T (pure (setHeader (h.setFlashback f).1 t'))
      ([family t] ++ es.map family ++ xs.map family ++ slotFamilies f) fun t => [family t] := by
    have hexchanges : t'.header.Exchanges T _ _ _ := fun post kept =>
      (hheader post kept).trans (SourceHeader.setFlashback_exchanges _ f post kept)
    simpa using Makes.ofExchange (hpartitions.trans hexchanges.exchange)
  cases flashback with
  | none => exact ((Makes.pure none slotFamilies).next _).bind hdone
  | some n =>
    have hliteral := (Expr.newLiteral_makes hT (.integer n)).bind fun e =>
      .pure (some e) slotFamilies
    exact (hliteral.next _).bind hdone

theorem buildCondition_makes (on : Option (String × String)) :
    Makes T (buildCondition on) [] slotFamilies := by
  cases on with
  | none => exact .pure none slotFamilies
  | some names =>
    have hname := Expr.newIdentifier_makes hT
    refine (hname names.1).bind fun l => ((hname names.2).next _).bind fun r => ?_
    exact (Expr.newBinary_makes hT l .equal r).bind fun e => .pure (some e) slotFamilies

theorem build_makes (b : Blueprint) : Makes T (b.build (δ := δ)) [] fun s => [family s] := by
  induction b with
  | table path alias? partitions hints flashback =>
    refine (Expr.newPath?_makes hT path).bind fun e => ?_
    cases e with
    | none =>
      refine (TableRef.empty_makes hT).bind fun t => ?_
      exact .pure (TableSource.table t) fun s => [family s]
    | some e =>
      refine (buildTable_makes hT e alias? partitions hints flashback).bind fun t => ?_
      exact .pure (TableSource.table t) fun s => [family s]
  | join left kind right on columns natural alias? ihl ihr =>
    refine (buildCondition_makes hT on).bind fun c => (ihl.next _).bind fun l =>
      (ihr.next _).bind fun r => ?_
    -- The condition is built first and taken in last.
    have hgiven : ([family l, family r] ++ slotFamilies c).Perm
        (slotFamilies c ++ [family l] ++ [family r]) := by
      rw [List.append_assoc]
      exact List.perm_append_comm
    refine ((Join.new_makes hT l kind r c).perm_given hgiven).bind fun j => ?_
    refine ((names_makes hT columns).next _).bind fun es => ?_
    have hcolumns := foldl_exchange (T := T) Join.addColumn_exchange j es
    generalize es.foldl Join.addColumn j = j' at hcolumns ⊢
    refine .ofExchange (show Exchange T (family j) (es.map family) _ [] from ?_)
    rw [TableSource.family_join]
    exact hcolumns

end

theorem build_grown (b : Blueprint) (u : Supply) :
    Grown AnyAttributes u (b.build (δ := δ) u).2 [family (b.build (δ := δ) u).1] :=
  b.build_makes trivial u u [] (.nil ⟨rfl, Nat.le_refl _⟩)

/-! ## The joins of a built source -/

/-- How deep the joins nest. -/
def nesting : Blueprint → Nat
  | table _ _ _ _ _ => 0
  | join left _ right _ _ _ _ => max left.nesting right.nesting + 1

/-- The source has the joins of the blueprint, and tables at their ends. -/
def Frames : Blueprint → TableSource δ → Prop
  | table _ _ _ _ _, s => ∃ t, s = .table t
  | join left _ right _ _ _ _, s => ∃ (j : JoinSource δ) (l r : TableSource δ),
    s = .join j ∧ j.left = some l ∧ j.right = some r ∧ left.Frames l ∧ right.Frames r

theorem frames_adopt {b : Blueprint} {s : TableSource δ} (owner : NodeId) (h : b.Frames s) :
    b.Frames (adopt owner s) := by
  cases b with
  | table _ _ _ _ _ =>
    obtain ⟨t, rfl⟩ := h
    exact ⟨adopt owner t, rfl⟩
  | join _ _ _ _ _ _ _ =>
    obtain ⟨j, l, r, rfl, hl, hr, hleft, hright⟩ := h
    exact ⟨adopt owner j, l, r, rfl, hl, hr, hleft, hright⟩

theorem build_frames (b : Blueprint) : Returns (b.build (δ := δ)) b.Frames := by
  induction b with
  | table path alias? partitions hints flashback =>
    refine (Returns.always (Expr.newPath? path)).bind fun e _ => ?_
    cases e with
    | none => exact (Returns.always TableRef.empty).bind fun t _ => .pure ⟨t, rfl⟩
    | some e => exact (Returns.always (buildTable _ _ _ _ _)).bind fun t _ => .pure ⟨t, rfl⟩
  | join left kind right on columns natural alias? ihl ihr =>
    refine (Returns.always (buildCondition on)).bind fun c _ => ihl.bind fun l hl =>
      ihr.bind fun r hr => ?_
    have hsides : Returns (Join.new l kind r c) fun j =>
        j.left = some (adopt (nodeId j) l) ∧ j.right = some (adopt (nodeId j) r) :=
      fun _ => ⟨rfl, rfl⟩
    refine hsides.bind fun j hj => ?_
    refine (Returns.always (columns.mapM Expr.newIdentifier)).bind fun es _ => .pure ?_
    rw [Join.foldl_addColumn]
    exact ⟨_, _, _, rfl, hj.1, hj.2, frames_adopt _ hl, frames_adopt _ hr⟩

theorem Frames.alike [SourceDialect δ] {b : Blueprint} {s : TableSource δ} (h : b.Frames s) :
    s.shape.Alike s.shape := by
  induction b generalizing s with
  | table _ _ _ _ _ =>
    obtain ⟨t, rfl⟩ := h
    exact TableSource.Shape.alike_table.mpr rfl
  | join _ _ _ _ _ _ _ ihl ihr =>
    obtain ⟨j, l, r, rfl, hl, hr, hleft, hright⟩ := h
    rw [TableSource.shape_join, hl, hr]
    refine TableSource.Shape.alike_join.mpr ⟨_, _, ?_, ?_, rfl⟩
    · exact TableSource.Shape.alikeSide_some.mpr ⟨_, ihl hleft, rfl⟩
    · exact TableSource.Shape.alikeSide_some.mpr ⟨_, ihr hright, rfl⟩

/-! ## Walks of a built source -/

theorem Frames.nesting_le_height {b : Blueprint} {s : TableSource δ} (h : b.Frames s) :
    b.nesting ≤ (Node.source (ε := ε) s).outline.height := by
  induction b generalizing s with
  | table _ _ _ _ _ => exact Nat.zero_le _
  | join _ _ _ _ _ _ _ ihl ihr =>
    obtain ⟨j, l, r, rfl, hl, hr, hleft, hright⟩ := h
    have hmem (c : TableSource δ) (hc : c = l ∨ c = r) :
        .source c ∈ (Node.source (ε := ε) (.join j)).walked := by
      rcases hc with rfl | rfl <;> simp [Node.walked, Node.ofSlot, hl, hr]
    have hl := Node.height_walked (hmem l (.inl rfl))
    have hr := Node.height_walked (hmem r (.inr rfl))
    have hleft := ihl hleft
    have hright := ihr hright
    rw [nesting]
    omega

/-- An expression, or a source that a blueprint could have built. -/
def Ordinary : Node δ ε → Prop
  | .expr _ => True
  | .source s => ∃ b : Blueprint, b.Frames s
  | _ => False

theorem Ordinary.isDialect {n : Node δ ε} (h : Ordinary n) : n.subject.isDialect = false := by
  cases n with
  | expr _ => rfl
  | source s =>
    obtain ⟨b, hb⟩ := h
    cases b with
    | table _ _ _ _ _ =>
      obtain ⟨t, rfl⟩ := hb
      rfl
    | join _ _ _ _ _ _ _ =>
      obtain ⟨j, _, _, rfl, -⟩ := hb
      rfl
  | _ => exact h.elim

theorem Ordinary.walked {n c : Node δ ε} (h : Ordinary n) (hc : c ∈ n.walked) : Ordinary c := by
  have hexprs (es : List Expr) (hc : c ∈ es.map Node.expr) : Ordinary c := by
    obtain ⟨e, -, rfl⟩ := List.mem_map.mp hc
    trivial
  cases n with
  | expr e =>
    cases e with
    | identifier _ _ | literal _ _ => cases hc
    | property _ owner _ => exact hexprs [owner] hc
    | binary _ left _ right => exact hexprs [left, right] hc
  | source s =>
    obtain ⟨b, hb⟩ := h
    cases b with
    | table _ _ _ _ _ =>
      obtain ⟨t, rfl⟩ := hb
      rcases List.mem_append.mp hc with hc | hc
      · exact hexprs _ hc
      · exact hexprs _ hc
    | join left _ right _ _ _ _ =>
      obtain ⟨j, l, r, rfl, hl, hr, hleft, hright⟩ := hb
      simp only [Node.walked, hl, hr, List.mem_append] at hc
      rcases hc with ((hc | hc) | hc) | hc
      · obtain rfl := List.mem_singleton.mp hc
        exact ⟨left, hleft⟩
      · obtain rfl := List.mem_singleton.mp hc
        exact ⟨right, hright⟩
      · exact hexprs _ hc
      · exact hexprs _ hc
  | _ => exact h.elim

theorem Ordinary.under {r c : Node δ ε} {path : List NodeId} (hr : Ordinary r)
    (h : Node.Under r c path) : Ordinary c := by
  induction h with
  | root => exact hr
  | child _ hc ih => exact ih.walked hc

end Blueprint

/-! ## Copies of a built source -/

/-- Whatever the supply, the computation has a result or ends in the given error. -/
def Ends {κ α : Type} (x : ExceptT κ Fresh α) (o : Except κ Unit) : Prop :=
  ∀ s, (x.run s).1.map (fun _ => ()) = o

namespace Ends

variable {κ α β : Type} {x : ExceptT κ Fresh α} {k : α → ExceptT κ Fresh β} {o : Except κ Unit}

theorem pure (a : α) : Ends (Pure.pure a : ExceptT κ Fresh α) (.ok ()) := fun _ => rfl

theorem lift (y : Fresh α) : Ends (liftM y : ExceptT κ Fresh α) (.ok ()) := fun _ => rfl

theorem run_bind (s : Supply) : (x >>= k).run s =
    match x.run s with
    | (.ok a, s') => (k a).run s'
    | (.error e, s') => (.error e, s') := by
  have hrun : (x >>= k).run s = ExceptT.bindCont k (x.run s).1 (x.run s).2 := rfl
  rw [hrun]
  cases x.run s with
  | mk result s' => cases result <;> rfl

theorem bind (hx : Ends x (.ok ())) (hk : ∀ a, Ends (k a) o) : Ends (x >>= k) o := by
  intro s
  have hs := hx s
  rw [run_bind]
  cases hrun : x.run s with
  | mk result s' =>
    rw [hrun] at hs
    cases result with
    | ok a => exact hk a s'
    | error e => cases hs

theorem stop {e : κ} (hx : Ends x (.error e)) : Ends (x >>= k) (.error e) := by
  intro s
  have hs := hx s
  rw [run_bind]
  cases hrun : x.run s with
  | mk result s' =>
    rw [hrun] at hs
    cases result with
    | ok a => cases hs
    | error e' => exact hs

/-- A computation that goes on to another one ends as the first of them that fails. -/
theorem next {o' : Except κ Unit} (hx : Ends x o) (hk : ∀ a, Ends (k a) o') :
    Ends (x >>= k) (o >>= fun _ => o') := by
  cases o with
  | ok _ => exact hx.bind hk
  | error _ => exact hx.stop

theorem map (hx : Ends x o) (f : α → β) : Ends (x >>= fun a => Pure.pure (f a)) o := by
  cases o with
  | ok _ => exact hx.bind fun a => .pure (f a)
  | error _ => exact hx.stop

end Ends

/-- Only its sides can make the copy of a join fail, and the left one is copied first. -/
theorem Join.cloneAround_ends {σ : Type} [HasInfo σ] (j : Join σ)
    {left right : Cloning (Option σ)} {o o' : Outcome} (hleft : Ends left o)
    (hright : Ends right o') : Ends (j.cloneAround left right) (o >>= fun _ => o') := by
  refine (Ends.lift _).bind fun _ => (Ends.lift _).bind fun _ => hleft.next fun _ => ?_
  cases o' with
  | ok _ => exact hright.bind fun _ => (Ends.lift _).map _
  | error _ => exact hright.stop

/-- How it ends to go `n` levels further down. -/
def Depth.reach (d : Depth) (n : Nat) : Outcome :=
  if d.current + n ≤ d.limit then .ok () else .error (.depthLimitExceeded d.limit)

theorem Depth.reach_max (d : Depth) (m n : Nat) :
    (d.reach m >>= fun _ => d.reach n) = d.reach (max m n) := by
  unfold reach
  split_ifs <;> first | rfl | omega

section

variable [SourceDialect δ]

theorem TableSource.cloneSide_ends {s : TableSource δ} {n : Nat}
    (hs : ∀ d : Depth, d.current ≤ d.limit → Ends (s.cloneAt d) (d.reach n)) {d : Depth}
    (hd : d.current ≤ d.limit) : Ends (cloneSide d (some s)) (d.reach (n + 1)) := by
  rw [cloneSide]
  rcases Nat.lt_or_ge d.current d.limit with hlt | hge
  · have hdescend : d.descend = .ok ⟨d.current + 1, d.limit⟩ := if_pos hlt
    have hreach : d.reach (n + 1) = Depth.reach ⟨d.current + 1, d.limit⟩ n := by
      simp only [Depth.reach, Nat.add_assoc, Nat.add_comm n 1]
    have hcopy := hs ⟨d.current + 1, d.limit⟩ hlt
    rw [hdescend, hreach]
    exact hcopy.map some
  · have hdescend : d.descend = .error (.depthLimitExceeded d.limit) := if_neg (by omega)
    rw [hdescend, Depth.reach, if_neg (by omega)]
    exact Ends.stop fun _ => rfl

theorem Blueprint.Frames.cloneAt_ends {b : Blueprint} {s : TableSource δ} (h : b.Frames s)
    {d : Depth} (hd : d.current ≤ d.limit) : Ends (s.cloneAt d) (d.reach b.nesting) := by
  induction b generalizing s d with
  | table _ _ _ _ _ =>
    obtain ⟨t, rfl⟩ := h
    rw [TableSource.cloneAt, nesting, Depth.reach, if_pos (by omega)]
    exact (Ends.lift _).map _
  | join left _ right _ _ _ _ ihl ihr =>
    obtain ⟨⟨_, _, _, _, _, _, _⟩, l, r, rfl, rfl, rfl, hleft, hright⟩ := h
    have hl := TableSource.cloneSide_ends (fun d => ihl hleft) hd
    have hr := TableSource.cloneSide_ends (fun d => ihr hright) hd
    rw [TableSource.cloneAt, nesting, ← Nat.add_max_add_right, ← d.reach_max, map_eq_pure_bind]
    exact (Join.cloneAround_ends _ hl hr).map _

end

end SqlTree
