import SqlTree.Lookup
import SqlTree.Proofs.Built
import SqlTree.Proofs.Ceiling

/-! # Where a copy of a source stops

The sources in a source are listed with their levels, each one before its sides and the left side
before the right one. A copy fails at the first source in this list that lies below the ceiling, or
that is of a dialect's kind and cannot be copied; where there is none it succeeds. -/

namespace SqlTree

variable {δ ε : Type}

namespace TableSource

mutual

/-- The sources in a source that lies on a level, each with its own level. -/
def leveled (level : Nat) : TableSource δ → List (Nat × TableSource δ)
  | table t => [(level, table t)]
  | join ⟨h, l, k, r, c, us, n⟩ =>
    (level, join ⟨h, l, k, r, c, us, n⟩) :: (leveledSide (level + 1) l ++ leveledSide (level + 1) r)
  | dialect h kind parts => [(level, dialect h kind parts)]

def leveledSide (level : Nat) : Option (TableSource δ) → List (Nat × TableSource δ)
  | none => []
  | some s => s.leveled level

end

/-- The source itself, not what stands in it, cannot be copied. -/
def refuses [SourceDialect δ] : TableSource δ → Bool
  | dialect _ kind _ => !SourceDialect.clonable kind
  | _ => false

section

variable [SourceDialect δ]

/-- What stops a copy at a source on a level. The ceiling comes first. -/
def obstacle? (limit : Nat) (p : Nat × TableSource δ) : Option TreeError :=
  if p.1 = limit + 1 then some (.depthLimitExceeded limit)
  else if p.1 ≤ limit ∧ p.2.refuses = true then some (.cloneUnsupported p.2.variantName)
  else none

/-- How a copy of the listed sources ends. -/
def verdict (limit : Nat) (ps : List (Nat × TableSource δ)) : Outcome :=
  match ps.findSome? (obstacle? limit) with
  | none => .ok ()
  | some e => .error e

end

/-! ## The list of sources -/

theorem leveled_join (level : Nat) (j : JoinSource δ) : (join j).leveled level =
    (level, join j) :: (leveledSide (level + 1) j.left ++ leveledSide (level + 1) j.right) := by
  rw [leveled]

theorem leveled_eq_cons (level : Nat) (s : TableSource δ) :
    ∃ rest, s.leveled level = (level, s) :: rest := by
  cases s with
  | table t => exact ⟨[], by rw [leveled]⟩
  | join j => exact ⟨_, leveled_join level j⟩
  | dialect h kind parts => exact ⟨[], by rw [leveled]⟩

/-- No level is left out on the way down. -/
theorem exists_level {s : TableSource δ} {level m : Nat} (hm : level ≤ m) {p : Nat × TableSource δ}
    (hp : p ∈ s.leveled level) (hlt : m ≤ p.1) : ∃ q ∈ s.leveled level, q.1 = m := by
  induction s using TableSource.nested generalizing level with
  | table _ | dialect _ _ _ =>
    rw [leveled, List.mem_singleton] at hp
    subst hp
    exact ⟨_, by rw [leveled]; exact List.mem_singleton_self _, by dsimp only at hlt ⊢; omega⟩
  | join j ihl ihr =>
    rcases Nat.eq_or_lt_of_le hm with rfl | hbelow
    · exact ⟨_, by rw [leveled_join]; exact List.mem_cons_self, rfl⟩
    · rw [leveled_join] at hp ⊢
      have hside {side : Option (TableSource δ)} (ih : ∀ s ∈ side, ∀ {level : Nat}, level ≤ m →
          p ∈ s.leveled level → ∃ q ∈ s.leveled level, q.1 = m)
          (hp : p ∈ leveledSide (level + 1) side) :
          ∃ q ∈ leveledSide (level + 1) side, q.1 = m := by
        cases side with
        | none => cases hp
        | some s => exact ih s rfl hbelow hp
      rcases List.mem_cons.mp hp with rfl | hp
      · dsimp only at hlt
        omega
      · rcases List.mem_append.mp hp with hp | hp
        · obtain ⟨q, hq, hqm⟩ := hside ihl hp
          exact ⟨q, by simp [hq], hqm⟩
        · obtain ⟨q, hq, hqm⟩ := hside ihr hp
          exact ⟨q, by simp [hq], hqm⟩

/-- A walk goes at least as far down as the sources lie. -/
theorem level_le_height {s : TableSource δ} {level : Nat} {p : Nat × TableSource δ}
    (hp : p ∈ s.leveled level) : p.1 ≤ level + (s.outline (ε := ε)).height := by
  induction s using TableSource.nested generalizing level with
  | table _ | dialect _ _ _ =>
    rw [leveled, List.mem_singleton] at hp
    subst hp
    exact Nat.le_add_right _ _
  | join j ihl ihr =>
    rw [leveled_join] at hp
    rcases List.mem_cons.mp hp with rfl | hp
    · exact Nat.le_add_right _ _
    · have hwalked : ∀ s : TableSource δ, s ∈ j.left ∨ s ∈ j.right →
          Node.source s ∈ (Node.source (ε := ε) (join j)).walked := by
        intro s hs
        rcases hs with hs | hs <;> simp [Node.walked, Node.ofSlot, Option.mem_def.mp hs]
      have hstep {s : TableSource δ} (hs : s ∈ j.left ∨ s ∈ j.right)
          (h : p.1 ≤ level + 1 + (s.outline (ε := ε)).height) :
          p.1 ≤ level + ((join j).outline (ε := ε)).height := by
        have hlt : (s.outline (ε := ε)).height < ((join j).outline (ε := ε)).height :=
          Node.height_walked (hwalked s hs)
        omega
      rcases List.mem_append.mp hp with hp | hp
      · cases hleft : j.left with
        | none => rw [hleft] at hp; cases hp
        | some s =>
          rw [hleft] at hp
          exact hstep (.inl hleft) (ihl s hleft hp)
      · cases hright : j.right with
        | none => rw [hright] at hp; cases hp
        | some s =>
          rw [hright] at hp
          exact hstep (.inr hright) (ihr s hright hp)

/-! ## How a copy ends -/

variable [SourceDialect δ]

theorem verdict_append (limit : Nat) (ps qs : List (Nat × TableSource δ)) :
    verdict limit (ps ++ qs) = verdict limit ps >>= fun _ => verdict limit qs := by
  unfold verdict
  rw [List.findSome?_append]
  cases ps.findSome? (obstacle? limit) <;> rfl

theorem verdict_cons {limit : Nat} {p : Nat × TableSource δ} (h : obstacle? limit p = none)
    (ps : List (Nat × TableSource δ)) : verdict limit (p :: ps) = verdict limit ps := by
  unfold verdict
  rw [List.findSome?_cons, h]

theorem verdict_stop {limit : Nat} {p : Nat × TableSource δ} {e : TreeError}
    (h : obstacle? limit p = some e) (ps : List (Nat × TableSource δ)) :
    verdict limit (p :: ps) = .error e := by
  unfold verdict
  rw [List.findSome?_cons, h]

theorem obstacle?_of_le {limit level : Nat} (h : level ≤ limit) (s : TableSource δ) :
    obstacle? limit (level, s) =
      if s.refuses then some (.cloneUnsupported s.variantName) else none := by
  unfold obstacle?
  rw [if_neg (by dsimp only; omega)]
  simp only [h, true_and]

theorem cloneDialect_verdict (h : SourceHeader) (kind : δ) (parts : List Expr) {level limit : Nat}
    (hle : level ≤ limit) :
    Ends (cloneDialect h kind parts) (verdict limit [(level, dialect h kind parts)]) := by
  have hobstacle := obstacle?_of_le hle (dialect h kind parts)
  unfold cloneDialect
  cases hclonable : SourceDialect.clonable kind with
  | true =>
    rw [refuses, hclonable] at hobstacle
    rw [verdict_cons hobstacle]
    exact (Ends.lift _).bind fun _ => (Ends.lift _).map _
  | false =>
    rw [refuses, hclonable] at hobstacle
    rw [verdict_stop hobstacle]
    exact fun _ => rfl

theorem cloneSide_verdict {side : Option (TableSource δ)}
    (ih : ∀ s ∈ side, ∀ d : Depth, d.current ≤ d.limit →
      Ends (s.cloneAt d) (verdict d.limit (s.leveled d.current)))
    {d : Depth} (hd : d.current ≤ d.limit) :
    Ends (cloneSide d side) (verdict d.limit (leveledSide (d.current + 1) side)) := by
  cases side with
  | none =>
    rw [cloneSide]
    exact .pure none
  | some s =>
    rw [cloneSide, leveledSide]
    rcases Nat.lt_or_ge d.current d.limit with hlt | hge
    · have hdescend : d.descend = .ok ⟨d.current + 1, d.limit⟩ := if_pos hlt
      have hcopy := ih s rfl ⟨d.current + 1, d.limit⟩ hlt
      rw [hdescend]
      exact hcopy.map some
    · -- The side lies just below the ceiling, so it is the first obstacle whatever it is.
      have hdescend : d.descend = .error (.depthLimitExceeded d.limit) := if_neg (by omega)
      obtain ⟨rest, hrest⟩ := leveled_eq_cons (d.current + 1) s
      have hobstacle : obstacle? d.limit (d.current + 1, s) = some (.depthLimitExceeded d.limit) :=
        if_pos (by dsimp only; omega)
      rw [hdescend, hrest, verdict_stop hobstacle]
      exact Ends.stop fun _ => rfl

theorem cloneAt_verdict (s : TableSource δ) {d : Depth} (hd : d.current ≤ d.limit) :
    Ends (s.cloneAt d) (verdict d.limit (s.leveled d.current)) := by
  induction s using TableSource.nested generalizing d with
  | table t =>
    rw [cloneAt, leveled, verdict_cons (obstacle?_of_le hd _)]
    exact (Ends.lift _).map _
  | join j ihl ihr =>
    have hleft := cloneSide_verdict (fun s hs d => ihl s hs) hd
    have hright := cloneSide_verdict (fun s hs d => ihr s hs) hd
    rw [leveled_join, verdict_cons (obstacle?_of_le hd _), verdict_append]
    obtain ⟨h, l, k, r, c, us, n⟩ := j
    rw [cloneAt, map_eq_pure_bind]
    exact (Join.cloneAround_ends _ hleft hright).map _
  | dialect h kind parts =>
    rw [cloneAt, leveled]
    exact cloneDialect_verdict h kind parts hd

theorem tryClone_verdict (s : TableSource δ) (limit : Nat) :
    Ends (s.tryClone limit) (verdict limit (s.leveled 0)) :=
  s.cloneAt_verdict (d := .root limit) (Nat.zero_le _)

/-! ## Reading the verdict -/

theorem obstacle?_eq_some_iff {limit : Nat} {p : Nat × TableSource δ} {e : TreeError} :
    obstacle? limit p = some e ↔ p.1 = limit + 1 ∧ e = .depthLimitExceeded limit ∨
      p.1 ≤ limit ∧ p.2.refuses = true ∧ e = .cloneUnsupported p.2.variantName := by
  unfold obstacle?
  split_ifs with hlevel hrefuses
  · rw [Option.some.injEq]
    constructor
    · rintro rfl
      exact .inl ⟨hlevel, rfl⟩
    · rintro (⟨-, rfl⟩ | ⟨hle, -⟩)
      · rfl
      · omega
  · rw [Option.some.injEq]
    constructor
    · rintro rfl
      exact .inr ⟨hrefuses.1, hrefuses.2, rfl⟩
    · rintro (⟨heq, -⟩ | ⟨-, -, rfl⟩)
      · exact absurd heq hlevel
      · rfl
  · refine ⟨nofun, ?_⟩
    rintro (⟨heq, -⟩ | ⟨hle, href, -⟩)
    · exact absurd heq hlevel
    · exact absurd ⟨hle, href⟩ hrefuses

theorem obstacle?_eq_none_iff {limit : Nat} {p : Nat × TableSource δ} :
    obstacle? limit p = none ↔ p.1 ≠ limit + 1 ∧ (p.1 ≤ limit → p.2.refuses = false) := by
  unfold obstacle?
  split_ifs with hlevel hrefuses
  · simp [hlevel]
  · simp [hlevel, hrefuses]
  · rw [not_and] at hrefuses
    simpa [hlevel] using hrefuses

theorem verdict_eq_error_iff {limit : Nat} {ps : List (Nat × TableSource δ)} {e : TreeError} :
    verdict limit ps = .error e ↔ ∃ before p after, ps = before ++ p :: after ∧
      obstacle? limit p = some e ∧ ∀ q ∈ before, obstacle? limit q = none := by
  rw [← List.findSome?_eq_some_iff]
  unfold verdict
  cases ps.findSome? (obstacle? limit) <;> simp

/-- No obstacle stands in the way exactly if no source lies below the ceiling and none refuses. -/
theorem verdict_leveled_eq_ok_iff {limit : Nat} {s : TableSource δ} :
    verdict limit (s.leveled 0) = .ok () ↔
      ∀ p ∈ s.leveled 0, p.1 ≤ limit ∧ p.2.refuses = false := by
  have hok : verdict limit (s.leveled 0) = .ok () ↔
      ∀ p ∈ s.leveled 0, obstacle? limit p = none := by
    rw [← List.findSome?_eq_none_iff]
    unfold verdict
    cases (s.leveled 0).findSome? (obstacle? limit) <;> simp
  rw [hok]
  constructor
  · intro h p hp
    have hle : p.1 ≤ limit := by
      by_contra hgt
      obtain ⟨q, hq, hlevel⟩ := exists_level (Nat.zero_le (limit + 1)) hp (by omega)
      exact (obstacle?_eq_none_iff.mp (h q hq)).1 hlevel
    exact ⟨hle, (obstacle?_eq_none_iff.mp (h p hp)).2 hle⟩
  · intro h p hp
    obtain ⟨hle, hrefuses⟩ := h p hp
    exact obstacle?_eq_none_iff.mpr ⟨by omega, fun _ => hrefuses⟩

theorem tryClone_join (j : JoinSource δ) (limit : Nat) :
    (join j).tryClone limit = join <$> JoinSource.tryClone j limit := by
  obtain ⟨h, l, k, r, c, us, n⟩ := j
  rw [tryClone, cloneAt, JoinSource.tryClone]

/-- A copy succeeds exactly if no source lies below the ceiling and no source refuses. Otherwise it
ends at the first obstacle in the order of the sources. A join by itself is copied as it is as a
source, and where a walk that skips nothing stays within the ceiling, so does a copy. -/
theorem copy_ends_at_first_obstacle (s : TableSource δ) (limit : Nat) (u : Supply) :
    ((∃ c, ((s.tryClone limit).run u).1 = .ok c) ↔
        ∀ p ∈ s.leveled 0, p.1 ≤ limit ∧ p.2.refuses = false) ∧
      (∀ e, ((s.tryClone limit).run u).1 = .error e ↔
        ∃ before p after, s.leveled 0 = before ++ p :: after ∧
          (p.1 = limit + 1 ∧ e = .depthLimitExceeded limit ∨
            p.1 ≤ limit ∧ p.2.refuses = true ∧ e = .cloneUnsupported p.2.variantName) ∧
          ∀ q ∈ before, q.1 ≠ limit + 1 ∧ (q.1 ≤ limit → q.2.refuses = false)) ∧
      (∀ j, s = join j → s.tryClone limit = join <$> JoinSource.tryClone j limit) ∧
      ∀ {σ : Type} (v : Visitor (Subject δ ε) σ) (state : σ), v.Willing →
        (s.outline.walkFrom v limit state).1 = .ok () →
        ∀ n, ((s.tryClone limit).run u).1 ≠ .error (.depthLimitExceeded n) := by
  have hends := s.tryClone_verdict limit u
  have herror (e : TreeError) : ((s.tryClone limit).run u).1 = .error e ↔
      verdict limit (s.leveled 0) = .error e := by
    rw [← hends]
    cases ((s.tryClone limit).run u).1 <;> simp [Except.map]
  refine ⟨?_, fun e => ?_, ?_, fun v state hv hwalk n hcopy => ?_⟩
  · rw [← verdict_leveled_eq_ok_iff, ← hends]
    cases ((s.tryClone limit).run u).1 <;> simp [Except.map]
  · simp only [herror, verdict_eq_error_iff, obstacle?_eq_some_iff, obstacle?_eq_none_iff]
  · rintro j rfl
    exact tryClone_join j limit
  · have hheight : (s.outline (ε := ε)).height ≤ limit := by
      by_contra hgt
      rw [Outline.walkFrom_outcome hv, if_neg hgt] at hwalk
      cases hwalk
    rw [herror, verdict_eq_error_iff] at hcopy
    obtain ⟨before, p, after, hsplit, hobstacle, -⟩ := hcopy
    rcases obstacle?_eq_some_iff.mp hobstacle with ⟨hlevel, -⟩ | ⟨-, -, herr⟩
    · have hp : p ∈ s.leveled 0 := by simp [hsplit]
      have := level_le_height (ε := ε) hp
      omega
    · cases herr

/-- Under a ceiling of one level: the left side refuses and stands before the join on the right,
whose own sides lie too deep. -/
theorem copy_ends_at_first_obstacle_left :
    let h : SourceHeader := { info := { id := ⟨1⟩ } }
    let refusing : TableSource SourceKind := .dialect h (.unnest "tags") []
    let named : TableSource SourceKind := .table { header := h }
    let nested : TableSource SourceKind := .join { header := h, left := some refusing }
    let around (left : TableSource SourceKind) : TableSource SourceKind :=
      .join { header := h, left := some left, right := some nested }
    let both := around refusing
    let deep := around named
    ((both.tryClone 1).run .counting).1 = .error (.cloneUnsupported "Unnest") ∧
      ((deep.tryClone 1).run .counting).1 = .error (.depthLimitExceeded 1) ∧
      (named.outline (ε := Empty)).walkFrom (σ := Unit) {} 0 () = (.ok (), ()) ∧
      ∀ n, ((named.tryClone 0).run .counting).1 ≠ .error (.depthLimitExceeded n) := by
  intro h refusing named nested around both deep
  refine ⟨?_, ?_, rfl, ?_⟩
  · refine ((copy_ends_at_first_obstacle (ε := Empty) both 1 .counting).2.1 _).mpr
      ⟨[(0, both)], (1, refusing), [(1, nested), (2, refusing)], rfl,
        .inr ⟨by decide, rfl, rfl⟩, ?_⟩
    simp [both, around, refuses]
  · refine ((copy_ends_at_first_obstacle (ε := Empty) deep 1 .counting).2.1 _).mpr
      ⟨[(0, deep), (1, named), (1, nested)], (2, refusing), [], rfl, .inl ⟨rfl, rfl⟩, ?_⟩
    simp [deep, around, named, nested, refuses]
  · exact (copy_ends_at_first_obstacle (ε := Empty) named 0 .counting).2.2.2 (σ := Unit) {} ()
      (fun _ _ => rfl) rfl

end TableSource

end SqlTree
