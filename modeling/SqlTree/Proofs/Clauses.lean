import SqlTree.Proofs.Bare

/-! # The clauses of a parameter

A parameter is written as its clauses one after another. The clauses before the data type end with a
blank and the default value begins with one, so the blanks come out right only around exactly one of
data type and cursor: with both the two run together, and with neither a blank is left over. -/

namespace SqlTree

namespace Parameter

/-! ## Clauses with one blank between them -/

/-- The clauses that come before the data type. -/
def front (p : Parameter) : List String :=
  (p.name.map Expr.render).toList ++ p.direction.keyword?.toList ++
    (if p.noCopy then ["NOCOPY"] else []) ++ (if p.constant then ["CONSTANT"] else [])

/-- The clause of a cursor, given the texts of its parameters. -/
def cursorClause (parameters : List String) (e : Expr) : String :=
  "CURSOR " ++ e.render ++ if parameters.isEmpty then "" else " (" ++ commaList parameters ++ ")"

def defaultClause (e : Expr) : String := "DEFAULT " ++ e.render

/-- The clauses that are there, in their order. -/
def clauses (p : Parameter) (parameters : List String) : List String :=
  p.front ++ ((p.dataType.map DataType.render).toList ++
    ((p.cursor.map (cursorClause parameters)).toList ++ (p.defaultValue.map defaultClause).toList))

mutual

/-- The clauses of a parameter with one blank between them, and its cursor's parameters written in
the same way. -/
def joined : Parameter → String
  | ⟨i, n, t, d, dir, nc, k, c, ps⟩ =>
    " ".intercalate (clauses ⟨i, n, t, d, dir, nc, k, c, ps⟩ (joinedAll ps))

def joinedAll : List Parameter → List String
  | [] => []
  | p :: ps => p.joined :: joinedAll ps

end

theorem joined_eq (p : Parameter) :
    p.joined = " ".intercalate (p.clauses (p.parameters.map joined)) := by
  have hall (ps : List Parameter) : joinedAll ps = ps.map joined := by
    induction ps with
    | nil => rw [joinedAll, List.map_nil]
    | cons p ps ih => rw [joinedAll, ih, List.map_cons]
  obtain ⟨_, _, _, _, _, _, _, _, ps⟩ := p
  rw [joined, hall]

/-- Exactly one of data type and cursor is there, or no clause at all. -/
def Settled (p : Parameter) : Prop :=
  p.dataType.isSome ≠ p.cursor.isSome ∨ p.clauses [] = []

/-- The parameter is settled and so are all that are written inside it. Only a cursor has parameters
written inside it. -/
inductive Tidy : Parameter → Prop
  | mk {p : Parameter} (settled : p.Settled)
    (inside : p.cursor.isSome = true → ∀ q ∈ p.parameters, Tidy q) : Tidy p

/-! ## The blanks of one parameter -/

/-- Each clause with a blank after it. -/
def ended (clauses : List String) : String := String.join (clauses.map (· ++ " "))

@[simp] theorem ended_nil : ended [] = "" := rfl

@[simp] theorem ended_cons (c : String) (rest : List String) :
    ended (c :: rest) = c ++ " " ++ ended rest := by
  simp [ended]

theorem ended_append (clauses rest : List String) :
    ended (clauses ++ rest) = ended clauses ++ ended rest := by
  simp [ended]

theorem intercalate_append_cons (clauses : List String) (c : String) (rest : List String) :
    " ".intercalate (clauses ++ c :: rest) = ended clauses ++ " ".intercalate (c :: rest) := by
  induction clauses with
  | nil => simp
  | cons a clauses ih =>
    rw [List.cons_append, String.intercalate_cons_of_ne_nil (by simp), ih, ended_cons]
    simp only [String.append_assoc]

theorem ended_eq {clauses : List String} (h : clauses ≠ []) :
    ended clauses = " ".intercalate clauses ++ " " := by
  rcases List.eq_nil_or_concat clauses with rfl | ⟨front, c, rfl⟩
  · exact absurd rfl h
  · rw [List.concat_eq_append, intercalate_append_cons, String.intercalate_singleton, ended_append]
    simp [String.append_assoc]

theorem ended_front (p : Parameter) :
    ended p.front = (p.name.map (·.render ++ " ")).getD "" ++
      (p.direction.keyword?.map (· ++ " ")).getD "" ++
      (if p.noCopy then "NOCOPY " else "") ++ (if p.constant then "CONSTANT " else "") := by
  have hword (b : Bool) (k : String) :
      ended (if b then [k] else []) = if b then k ++ " " else "" := by
    cases b <;> simp
  simp only [front, ended_append, hword]
  cases p.name <;> cases p.direction.keyword? <;> simp [String.append_assoc]

/-- The text of a parameter, with each blank where it is written. -/
theorem renderAround_eq (p : Parameter) (parameters : List String) :
    p.renderAround parameters = ended p.front ++ ((p.dataType.map DataType.render).getD "" ++
      ((p.cursor.map (cursorClause parameters)).getD "" ++
        (p.defaultValue.map (" " ++ defaultClause ·)).getD "")) := by
  have hdefault (e : Expr) : " " ++ defaultClause e = " DEFAULT " ++ e.render :=
    (String.append_assoc ..).symm
  rw [ended_front]
  unfold renderAround
  cases p.name <;> cases p.direction.keyword? <;> cases p.dataType <;> cases p.cursor <;>
    cases p.defaultValue <;> simp [String.append_assoc, cursorClause, hdefault]

theorem Settled.renderAround_eq_intercalate {p : Parameter} (h : p.Settled)
    (parameters : List String) :
    p.renderAround parameters = " ".intercalate (p.clauses parameters) := by
  rw [renderAround_eq, clauses]
  rcases h with hone | hnone
  · cases ht : p.dataType with
    | some t =>
      have hc : p.cursor = none := by simpa [ht] using hone
      cases p.defaultValue <;> simp [hc, intercalate_append_cons, String.append_assoc]
    | none =>
      obtain ⟨c, hc⟩ : ∃ c, p.cursor = some c :=
        Option.ne_none_iff_exists'.mp (by simpa [ht] using hone)
      cases p.defaultValue <;> simp [hc, intercalate_append_cons, String.append_assoc]
  · simp only [clauses, List.append_eq_nil_iff, Option.toList_eq_nil_iff, Option.map_eq_none_iff]
      at hnone
    simp [hnone]

/-- The texts of an unsettled parameter part where only one of them has a blank: after the data type
when there is a cursor too, and after the front when there is neither. -/
theorem renderAround_ne_intercalate {p : Parameter} (h : ¬ p.Settled) (ps qs : List String)
    {after after' : List Char} (hafter : after'.head? ≠ some ' ') :
    (p.renderAround ps).toList ++ after ≠ (" ".intercalate (p.clauses qs)).toList ++ after' := by
  obtain ⟨hsame, hsome⟩ := not_or.mp h
  rw [renderAround_eq]
  unfold clauses at hsome ⊢
  cases ht : p.dataType with
  | some t =>
    obtain ⟨c, hc⟩ : ∃ c, p.cursor = some c := by simpa [ht, Option.isSome_iff_exists] using hsame
    -- the cursor begins with a letter
    cases p.defaultValue <;>
      simp [hc, intercalate_append_cons, cursorClause, String.append_assoc]
  | none =>
    have hc : p.cursor = none := by simpa [ht] using hsame
    cases hd : p.defaultValue with
    | some d => simp [hc, intercalate_append_cons, defaultClause]
    | none =>
      have hfront : p.front ≠ [] := by simpa [ht, hc, hd] using hsome
      have hblank : ' ' :: after ≠ after' := by
        rintro rfl
        exact hafter rfl
      simpa [hc, ended_eq hfront] using hblank

/-! ## Parameters inside parameters -/

theorem Tidy.render_eq_joined {p : Parameter} (h : p.Tidy) : p.render = p.joined := by
  induction h with
  | @mk p settled _ ih =>
    rw [render_eq, joined_eq, settled.renderAround_eq_intercalate]
    cases hc : p.cursor with
    | none => simp [clauses, hc]
    | some c =>
      have htexts : p.parameters.map render = p.parameters.map joined :=
        List.map_congr_left (ih (by simp [hc]))
      rw [htexts]

/-- The lists of a cursor's parameters part inside the first one that is not tidy. What follows that
one is a comma or the closing parenthesis, not a blank. -/
theorem commaList_ne_commaList {ps : List Parameter}
    (ih : ∀ q ∈ ps, ¬ q.Tidy → ∀ after after' : List Char, after'.head? ≠ some ' ' →
      q.render.toList ++ after ≠ q.joined.toList ++ after')
    (h : ∃ q ∈ ps, ¬ q.Tidy) (after after' : List Char) :
    (commaList (ps.map render)).toList ++ ')' :: after ≠
      (commaList (ps.map joined)).toList ++ ')' :: after' := by
  induction ps with
  | nil => simp at h
  | cons p ps ihs =>
    by_cases hp : p.Tidy
    · obtain ⟨q, hq, hbad⟩ : ∃ q ∈ ps, ¬ q.Tidy := by simpa [hp] using h
      have hne : ps ≠ [] := List.ne_nil_of_mem hq
      have hrest := ihs (fun q hq => ih q (List.mem_cons_of_mem _ hq)) ⟨q, hq, hbad⟩
      unfold commaList at hrest ⊢
      simpa [String.intercalate_cons_of_ne_nil, hne, hp.render_eq_joined] using hrest
    · cases ps with
      | nil => simpa [commaList] using ih p (by simp) hp _ (')' :: after') (by simp)
      | cons q qs =>
        simpa [commaList, String.intercalate_cons_of_ne_nil] using
          ih p (by simp) hp _ (", ".toList ++ _) (by simp)

theorem render_ne_joined {p : Parameter} (h : ¬ p.Tidy) (after after' : List Char)
    (hafter : after'.head? ≠ some ' ') :
    p.render.toList ++ after ≠ p.joined.toList ++ after' := by
  induction p using Parameter.nested generalizing after after' with
  | parameter p ih =>
    rw [render_eq, joined_eq]
    by_cases hp : p.Settled
    · -- with the fault inside, both texts are the same up to the list in parentheses
      obtain ⟨hcursor, q, hq, hbad⟩ : p.cursor.isSome = true ∧ ∃ q ∈ p.parameters, ¬ q.Tidy := by
        by_contra hinside
        refine h (.mk hp fun hc q hq => ?_)
        by_contra hbad
        exact hinside ⟨hc, q, hq, hbad⟩
      have hlist := commaList_ne_commaList ih ⟨q, hq, hbad⟩
      have hne : p.parameters ≠ [] := List.ne_nil_of_mem hq
      obtain ⟨c, hc⟩ := Option.isSome_iff_exists.mp hcursor
      have ht : p.dataType = none := by
        rcases hp with hone | hnone
        · simpa [hc] using hone
        · simp [clauses, hc] at hnone
      rw [hp.renderAround_eq_intercalate]
      cases hd : p.defaultValue <;>
        simpa [clauses, ht, hc, hd, intercalate_append_cons, cursorClause, hne] using hlist _ _
    · exact renderAround_ne_intercalate hp _ _ hafter

/-- A parameter is written as its clauses with one blank between them exactly when each parameter
that is written, at whatever depth, has a data type or a cursor but not both, or no clause. -/
theorem render_eq_joined_iff (p : Parameter) : p.render = p.joined ↔ p.Tidy := by
  refine ⟨fun h => ?_, Tidy.render_eq_joined⟩
  by_contra hp
  exact render_ne_joined hp [] [] (by simp) (by rw [h])

/-- A data type runs into the cursor after it, and a blank is left after a name that has neither. The
parameter goes out, as one with a cursor should. -/
theorem render_ne_joined_cursor :
    let q : Parameter := { info := blankInfo, name := some (.identifier blankInfo "q") }
    let p : Parameter := {
      info := blankInfo
      name := some (.identifier blankInfo "p")
      dataType := some { info := blankInfo, name := "NUMBER" }
      direction := .output
      cursor := some (.identifier blankInfo "c")
      parameters := [q] }
    p.render = "p OUT NUMBERCURSOR c (q )" ∧ p.joined = "p OUT NUMBER CURSOR c (q)" ∧
      p.render ≠ p.joined := by
  decide +kernel

end Parameter

end SqlTree
