import Mathlib.Algebra.Ring.Parity
import Mathlib.Data.List.Basic
import SqlTree.Text.Normalizer

/-! # Identifiers between delimiters

Taking the delimiters off gives back what was written between them. The other way round, the
delimiters can be put back around what is inside exactly if the closing delimiter stands there in
pairs: every run of it has an even length. -/

namespace SqlTree.Text

variable {q c : Char} {cs : List Char}

/-! ## Doubled characters -/

theorem double_cons_self : double q (q :: cs) = q :: q :: double q cs := if_pos rfl

theorem double_cons_of_ne (h : c ≠ q) : double q (c :: cs) = c :: double q cs := if_neg h

theorem undouble_pair : undouble q (q :: q :: cs) = q :: undouble q cs := by
  rw [undouble, if_pos ⟨rfl, rfl⟩]

theorem undouble_cons_of_ne (h : c ≠ q) : undouble q (c :: cs) = c :: undouble q cs := by
  cases cs with
  | nil => rfl
  | cons b cs => rw [undouble, if_neg fun hboth => h hboth.1]

theorem undouble_double (q : Char) (cs : List Char) : undouble q (double q cs) = cs := by
  induction cs with
  | nil => rfl
  | cons c cs ih =>
    by_cases hc : c = q
    · subst hc
      rw [double_cons_self, undouble_pair, ih]
    · rw [double_cons_of_ne hc, undouble_cons_of_ne hc, ih]

/-! ## Runs of even length -/

/-- Every run of `q` in the text, taken as long as it goes on, has an even length. -/
def EvenRuns (q : Char) (cs : List Char) : Prop :=
  ∀ before n after, cs = before ++ List.replicate n q ++ after →
    before.getLast? ≠ some q → after.head? ≠ some q → Even n

theorem evenRuns_nil : EvenRuns q [] := by
  intro before n after hsplit _ _
  obtain ⟨hfirst, -⟩ := List.append_eq_nil_iff.mp hsplit.symm
  obtain ⟨-, hrun⟩ := List.append_eq_nil_iff.mp hfirst
  rw [(List.replicate_eq_nil_iff q).mp hrun]
  exact Even.zero

/-- A character of another kind in front starts no run. -/
theorem evenRuns_cons_of_ne (h : c ≠ q) : EvenRuns q (c :: cs) ↔ EvenRuns q cs := by
  constructor
  · intro heven before n after hsplit hbefore hafter
    refine heven (c :: before) n after (by rw [hsplit]; rfl) ?_ hafter
    cases before with
    | nil => simpa using h
    | cons b before => rwa [List.getLast?_cons_cons]
  · intro heven before n after hsplit hbefore hafter
    cases before with
    | nil =>
      -- The run would start with the character in front, so it is empty.
      cases n with
      | zero => exact Even.zero
      | succ n => exact absurd (List.cons.inj hsplit).1 h
    | cons b before =>
      refine heven before n after (List.cons.inj hsplit).2 ?_ hafter
      cases before with
      | nil => simp
      | cons b' before => rwa [List.getLast?_cons_cons] at hbefore

/-- Two more in front make a run longer by two, or are a run of their own. -/
theorem evenRuns_pair : EvenRuns q (q :: q :: cs) ↔ EvenRuns q cs := by
  constructor
  · intro heven before n after hsplit hbefore hafter
    cases before with
    | nil =>
      have hlonger : q :: q :: cs = [] ++ List.replicate (n + 2) q ++ after := by
        rw [hsplit]
        rfl
      have htwo : Even (n + 2) := heven [] (n + 2) after hlonger hbefore hafter
      exact (Nat.even_add.mp htwo).mpr even_two
    | cons b before =>
      refine heven (q :: q :: b :: before) n after (by rw [hsplit]; rfl) ?_ hafter
      rwa [List.getLast?_cons_cons, List.getLast?_cons_cons]
  · intro heven before n after hsplit hbefore hafter
    match before, n with
    | [], 0 => exact Even.zero
    | [], 1 =>
      -- A run of one would go on.
      have hrest : q :: cs = after := (List.cons.inj hsplit).2
      exact absurd (by rw [← hrest]; rfl) hafter
    | [], n + 2 =>
      have hrest : cs = [] ++ List.replicate n q ++ after :=
        (List.cons.inj (List.cons.inj hsplit).2).2
      exact (heven [] n after hrest hbefore hafter).add even_two
    | [b], n => exact absurd (by rw [← (List.cons.inj hsplit).1]; rfl) hbefore
    | b :: b' :: before, n =>
      obtain ⟨-, htail⟩ := List.cons.inj hsplit
      obtain ⟨hsecond, hrest⟩ := List.cons.inj htail
      refine heven before n after hrest ?_ hafter
      cases before with
      | nil => simp
      | cons a before => rwa [List.getLast?_cons_cons, List.getLast?_cons_cons] at hbefore

theorem evenRuns_double (q : Char) (cs : List Char) : EvenRuns q (double q cs) := by
  induction cs with
  | nil => exact evenRuns_nil
  | cons c cs ih =>
    by_cases hc : c = q
    · subst hc
      rwa [double_cons_self, evenRuns_pair]
    · rwa [double_cons_of_ne hc, evenRuns_cons_of_ne hc]

/-- A run of one is not even. -/
theorem not_evenRuns_lone (h : cs.head? ≠ some q) : ¬ EvenRuns q (q :: cs) := fun heven =>
  Nat.not_even_one (heven [] 1 cs rfl (by simp) h)

theorem double_undouble (h : EvenRuns q cs) : double q (undouble q cs) = cs := by
  fun_induction undouble q cs with
  | case1 a b rest hboth ih =>
    obtain ⟨rfl, rfl⟩ := hboth
    rw [double_cons_self, ih (evenRuns_pair.mp h)]
  | case2 a b rest hboth ih =>
    by_cases ha : a = q
    · subst ha
      exact absurd h (not_evenRuns_lone fun hb => hboth ⟨rfl, Option.some.inj hb⟩)
    · rw [double_cons_of_ne ha, ih ((evenRuns_cons_of_ne ha).mp h)]
  | case3 cs hshort =>
    rcases cs with _ | ⟨a, _ | ⟨b, rest⟩⟩
    · rfl
    · have ha : a ≠ q := by
        rintro rfl
        exact not_evenRuns_lone (by simp) h
      exact double_cons_of_ne ha
    · exact absurd rfl (hshort a b rest)

/-- The pairs can be put back exactly where all runs are even. -/
theorem evenRuns_iff : EvenRuns q cs ↔ double q (undouble q cs) = cs :=
  ⟨double_undouble, fun h => h ▸ evenRuns_double q _⟩

instance (q : Char) (cs : List Char) : Decidable (EvenRuns q cs) :=
  decidable_of_iff _ evenRuns_iff.symm

/-! ## Between delimiters -/

namespace QuoteStyle

/-- A text between the delimiters of the style, as it is. -/
def enclose (style : QuoteStyle) (body : List Char) : List Char :=
  style.opening :: (body ++ [style.closing])

theorem ofOpening?_opening (style : QuoteStyle) : ofOpening? style.opening = some style := by
  cases style <;> decide

theorem opening_of_ofOpening? {style : QuoteStyle} (h : ofOpening? c = some style) :
    style.opening = c := by
  simpa using List.find?_some h

theorem enclose_inj (style : QuoteStyle) {body body' : List Char} :
    style.enclose body = style.enclose body' ↔ body = body' := by
  simp [enclose]

end QuoteStyle

theorem stripChars_enclose (style : QuoteStyle) (body : List Char) :
    stripChars (style.enclose body) = undouble style.closing body := by
  simp [stripChars, QuoteStyle.enclose, QuoteStyle.ofOpening?_opening]

/-- Only a text between matching delimiters is changed. -/
theorem stripChars_eq_self (h : ∀ (style : QuoteStyle) body, cs ≠ style.enclose body) :
    stripChars cs = cs := by
  unfold stripChars
  split
  next => rfl
  next first rest =>
    split
    next => rfl
    next style hstyle =>
      rw [if_neg]
      intro hlast
      refine h style rest.dropLast ?_
      rw [QuoteStyle.enclose, QuoteStyle.opening_of_ofOpening? hstyle,
        List.dropLast_append_getLast? _ hlast]

theorem quoteChars_eq (style : QuoteStyle) (cs : List Char) :
    quoteChars style cs = style.enclose (double style.closing cs) := rfl

theorem strip_quote (style : QuoteStyle) (s : String) : strip (quote style s) = s := by
  rw [strip, quote, String.toList_ofList, quoteChars_eq, stripChars_enclose, undouble_double,
    String.ofList_toList]

theorem quote_strip_iff {style : QuoteStyle} {t : String} {body : List Char}
    (h : t.toList = style.enclose body) :
    quote style (strip t) = t ↔ EvenRuns style.closing body := by
  rw [quote, strip, String.toList_ofList, h, stripChars_enclose, quoteChars_eq, evenRuns_iff,
    ← QuoteStyle.enclose_inj style, ← h, ← String.toList_inj, String.toList_ofList]

theorem strip_eq_self {t : String} (h : ∀ (style : QuoteStyle) body, t.toList ≠ style.enclose body) :
    strip t = t := by
  rw [strip, stripChars_eq_self h, String.ofList_toList]

/-- The identifier is not between delimiters: it is too short for two of them, it starts with none,
or it does not end with the one that matches its start. -/
def Undelimited (t : String) : Prop :=
  t.length < 2 ∨ (∀ style : QuoteStyle, t.toList.head? ≠ some style.opening) ∨
    ∃ style : QuoteStyle, t.toList.head? = some style.opening ∧
      t.toList.getLast? ≠ some style.closing

theorem Undelimited.ne_enclose {t : String} (h : Undelimited t) (style : QuoteStyle)
    (body : List Char) : t.toList ≠ style.enclose body := by
  intro ht
  rcases h with hshort | hstart | ⟨other, hstart, hend⟩
  · rw [← String.length_toList, ht] at hshort
    simp only [QuoteStyle.enclose, List.length_cons, List.length_append] at hshort
    omega
  · exact hstart style (by rw [ht]; rfl)
  · rw [ht, QuoteStyle.enclose, List.head?_cons, Option.some.injEq] at hstart
    have hstyle : style = other := by
      have hopening := QuoteStyle.ofOpening?_opening style
      rw [hstart, QuoteStyle.ofOpening?_opening] at hopening
      exact (Option.some.inj hopening).symm
    subst hstyle
    refine hend ?_
    rw [ht, QuoteStyle.enclose, ← List.cons_append, List.getLast?_concat]

/-- An identifier written between delimiters reads as itself. One that stands between delimiters is
written again as it stands exactly if the closing one comes inside in even runs only. Any other
identifier stays as it is. -/
theorem delimiters_round_trip (style : QuoteStyle) (s t : String) :
    Normalizer.delimiter (quote style s) = s ∧
    (∀ body, t.toList = style.opening :: (body ++ [style.closing]) →
      (quote style (Normalizer.delimiter t) = t ↔ EvenRuns style.closing body)) ∧
    (Undelimited t → Normalizer.delimiter t = t) :=
  ⟨strip_quote style s, fun _ ht => quote_strip_iff ht, fun h => strip_eq_self h.ne_enclose⟩

/-- Brackets that stand together at the start are paired from the left. -/
theorem delimiters_round_trip_bracket :
    Normalizer.delimiter (quote .bracket "]]x") = "]]x" ∧
      quote .bracket (Normalizer.delimiter "[]]]]x]") = "[]]]]x]" ∧
      quote .bracket (Normalizer.delimiter "[]]]x]") ≠ "[]]]x]" ∧
      Normalizer.delimiter "[" = "[" ∧ Normalizer.delimiter "x]" = "x]" ∧
      Normalizer.delimiter "[x" = "[x" := by
  obtain ⟨hquote, heven, -⟩ := delimiters_round_trip .bracket "]]x" "[]]]]x]"
  obtain ⟨-, hodd, -⟩ := delimiters_round_trip .bracket "]]x" "[]]]x]"
  obtain ⟨-, -, hshort⟩ := delimiters_round_trip .bracket "]]x" "["
  obtain ⟨-, -, hstart⟩ := delimiters_round_trip .bracket "]]x" "x]"
  obtain ⟨-, -, hend⟩ := delimiters_round_trip .bracket "]]x" "[x"
  refine ⟨hquote, (heven "]]]]x".toList rfl).mpr (by decide), ?_, hshort (.inl (by decide)),
    hstart (.inr (.inl ?_)), hend (.inr (.inr ⟨.bracket, by decide, by decide⟩))⟩
  · exact fun h => absurd ((hodd "]]]x".toList rfl).mp h) (by decide)
  · intro style
    cases style <;> decide

end SqlTree.Text
