import Mathlib.Data.List.Forall2
import SqlTree.Proofs.CaseFolding
import SqlTree.Proofs.Quoting

/-! # Lookups under other spellings

A name can be spelled in several ways: in upper or lower case, and between delimiters of any style.
The delimiters have no case, and no letter becomes one of them. So they can be taken off before or
after going to lower case, and lookups see only what all spellings of a name have in common. -/

namespace SqlTree

namespace Text

/-! ## Characters without case -/

/-- The character is its own lower case and that of no other character. -/
structure Caseless (d : Char) : Prop where
  fixed : lowerChar d = [d]
  only : ∀ c, d ∈ lowerChar c → c = d

/-- A character as a run of its own. -/
def CaseRun.single (c : Char) : CaseRun := ⟨c.toNat, c.toNat, 1, 0⟩

theorem caseless_of_apart {d : Char} (hruns : ∀ r ∈ lowercaseRuns, r.apart (.single d) = true)
    (hfixed : lowerChar d = [d]) (hdotted : d ∉ lowerChar '\u0130') : Caseless d := by
  refine ⟨hfixed, fun c hd => ?_⟩
  by_cases hc : c = '\u0130'
  · subst hc
    exact absurd hd hdotted
  · rw [lowerChar, if_neg hc] at hd
    split at hd
    next r hr =>
      have hmem := List.mem_of_find?_eq_some hr
      have hc : r.covers c.toNat = true := by simpa using List.find?_some hr
      have hproper := List.all_eq_true.mp lowercaseRuns_proper r hmem
      rw [Bool.and_eq_true] at hproper
      obtain ⟨m, hm, hnat⟩ := exists_lowered hmem hc
      have hcovers := CaseRun.not_covers_of_apart hproper.1 (hruns r hmem) hc hm
      rw [← List.mem_singleton.mp hd] at hnat
      subst hnat
      simp [CaseRun.single, CaseRun.covers] at hcovers
    next => exact (List.mem_singleton.mp hd).symm

theorem QuoteStyle.caseless (style : QuoteStyle) :
    Caseless style.opening ∧ Caseless style.closing := by
  have hcheck : lowercaseRuns.all (fun r =>
      r.apart (.single style.opening) && r.apart (.single style.closing)) = true := by
    cases style <;> decide +kernel
  have hruns (r : CaseRun) (hr : r ∈ lowercaseRuns) := (Bool.and_eq_true _ _).mp
    (List.all_eq_true.mp hcheck r hr)
  constructor
  · exact caseless_of_apart (fun r hr => (hruns r hr).1) (by cases style <;> decide +kernel)
      (by cases style <;> decide +kernel)
  · exact caseless_of_apart (fun r hr => (hruns r hr).2) (by cases style <;> decide +kernel)
      (by cases style <;> decide +kernel)

theorem lowerChar_ne_nil (c : Char) : lowerChar c ≠ [] := by
  unfold lowerChar
  split
  · simp
  · split <;> simp

namespace Caseless

variable {d c : Char} {cs : List Char}

theorem not_mem (h : Caseless d) (hc : c ≠ d) : d ∉ lowerChar c := fun hd => hc (h.only c hd)

theorem lowerEach_cons (h : Caseless d) (cs : List Char) :
    lowerEach (d :: cs) = d :: lowerEach cs := by
  rw [Text.lowerEach_cons, h.fixed, List.singleton_append]

/-- A lower case that starts with the character comes from a text that does. -/
theorem of_lowerEach_eq_cons (h : Caseless d) {rest : List Char} (heq : lowerEach cs = d :: rest) :
    ∃ cs', cs = d :: cs' ∧ lowerEach cs' = rest := by
  cases cs with
  | nil => cases heq
  | cons c cs =>
    have hc : c = d := by
      obtain ⟨a, as, has⟩ := List.exists_cons_of_ne_nil (lowerChar_ne_nil c)
      rw [Text.lowerEach_cons, has, List.cons_append] at heq
      exact h.only c (by rw [has, (List.cons.inj heq).1]; exact List.mem_cons_self)
    subst hc
    rw [h.lowerEach_cons] at heq
    exact ⟨cs, rfl, (List.cons.inj heq).2⟩

/-- A lower case that ends with the character comes from a text that does. -/
theorem of_lowerEach_eq_concat (h : Caseless d) {front : List Char}
    (heq : lowerEach cs = front ++ [d]) : ∃ cs', cs = cs' ++ [d] ∧ lowerEach cs' = front := by
  rcases List.eq_nil_or_concat cs with rfl | ⟨cs', c, rfl⟩
  · exact absurd heq.symm (by simp [lowerEach])
  · have hsingle : lowerEach [c] = lowerChar c := by rw [Text.lowerEach_cons]; exact List.append_nil _
    rw [List.concat_eq_append, lowerEach_append, hsingle] at heq
    have hc : c = d := by
      have hlast := congrArg List.getLast? heq
      rw [List.getLast?_concat, List.getLast?_append_of_ne_nil _ (lowerChar_ne_nil c)] at hlast
      exact h.only c (List.mem_of_getLast? hlast)
    subst hc
    rw [h.fixed] at heq
    exact ⟨cs', List.concat_eq_append, List.append_cancel_right heq⟩

end Caseless

/-! ## Delimiters and lower case -/

theorem undouble_append_of_not_mem {q : Char} {as : List Char} (h : q ∉ as) (cs : List Char) :
    undouble q (as ++ cs) = as ++ undouble q cs := by
  induction as with
  | nil => rfl
  | cons a as ih =>
    rw [List.mem_cons, not_or] at h
    rw [List.cons_append, undouble_cons_of_ne (Ne.symm h.1), ih h.2, List.cons_append]

theorem undouble_lone {q : Char} {cs : List Char} (h : cs.head? ≠ some q) :
    undouble q (q :: cs) = q :: undouble q cs := by
  cases cs with
  | nil => rfl
  | cons b cs => rw [undouble, if_neg fun hboth => h (by rw [hboth.2]; rfl)]

theorem lowerEach_undouble {q : Char} (h : Caseless q) (cs : List Char) :
    lowerEach (undouble q cs) = undouble q (lowerEach cs) := by
  fun_induction undouble q cs with
  | case1 a b rest hboth ih =>
    obtain ⟨rfl, rfl⟩ := hboth
    rw [h.lowerEach_cons, ih, h.lowerEach_cons, h.lowerEach_cons, undouble_pair]
  | case2 a b rest hboth ih =>
    by_cases ha : a = q
    · subst ha
      have hb : (lowerEach (b :: rest)).head? ≠ some a := by
        intro hhead
        obtain ⟨cs', hcs⟩ := List.head?_eq_some_iff.mp hhead
        obtain ⟨_, hrest, -⟩ := h.of_lowerEach_eq_cons hcs
        exact hboth ⟨rfl, (List.cons.inj hrest).1⟩
      rw [h.lowerEach_cons, ih, h.lowerEach_cons, undouble_lone hb]
    · rw [lowerEach_cons, ih, lowerEach_cons a, undouble_append_of_not_mem (h.not_mem ha)]
  | case3 cs hshort =>
    rcases cs with _ | ⟨a, _ | ⟨b, rest⟩⟩
    · rfl
    · by_cases ha : a = q
      · subst ha
        rw [h.lowerEach_cons]
        rfl
      · rw [lowerEach_cons, undouble_append_of_not_mem (h.not_mem ha)]
        rfl
    · exact absurd rfl (hshort a b rest)

theorem lowerEach_enclose (style : QuoteStyle) (body : List Char) :
    lowerEach (style.enclose body) = style.enclose (lowerEach body) := by
  rw [QuoteStyle.enclose, style.caseless.1.lowerEach_cons, lowerEach_append,
    style.caseless.2.lowerEach_cons]
  rfl

theorem of_lowerEach_eq_enclose {style : QuoteStyle} {cs body : List Char}
    (h : lowerEach cs = style.enclose body) : ∃ body', cs = style.enclose body' := by
  obtain ⟨rest, rfl, hrest⟩ := style.caseless.1.of_lowerEach_eq_cons h
  obtain ⟨body', rfl, -⟩ := style.caseless.2.of_lowerEach_eq_concat hrest
  exact ⟨body', rfl⟩

/-- The delimiters can be taken off before or after going to lower case. -/
theorem lowerEach_stripChars (cs : List Char) :
    lowerEach (stripChars cs) = stripChars (lowerEach cs) := by
  by_cases h : ∃ (style : QuoteStyle) (body : List Char), cs = style.enclose body
  · obtain ⟨style, body, rfl⟩ := h
    rw [stripChars_enclose, lowerEach_enclose, stripChars_enclose,
      lowerEach_undouble style.caseless.2]
  · rw [stripChars_eq_self fun style body hcs => h ⟨style, body, hcs⟩, stripChars_eq_self]
    intro style body hcs
    obtain ⟨body', hbody⟩ := of_lowerEach_eq_enclose hcs
    exact h ⟨style, body', hbody⟩

/-! ## Spellings -/

/-- What a lookup sees of a spelling. -/
def lookupKey (s : String) : List Char := lowerEach (strip s).toList

/-- A name is spelled between delimiters of any style, or bare if it would not be taken for a
delimited one. -/
inductive Spells : String → String → Prop
  | bare {name : String} (h : Undelimited name) : Spells name name
  | quoted (style : QuoteStyle) (name : String) : Spells name (quote style name)

/-- Two spellings that differ in case, or two spellings of names that differ in case. -/
def Respelled (a b : String) : Prop :=
  equalIgnoringCase a b = true ∨
    ∃ s s', equalIgnoringCase s s' = true ∧ Spells s a ∧ Spells s' b

theorem Spells.strip_eq {name spelling : String} (h : Spells name spelling) :
    strip spelling = name := by
  cases h with
  | bare h => exact strip_eq_self h.ne_enclose
  | quoted style => exact strip_quote style name

theorem lookupKey_eq_of_equalIgnoringCase {a b : String} (h : equalIgnoringCase a b = true) :
    lookupKey a = lookupKey b := by
  have hlower : lowerEach a.toList = lowerEach b.toList := beq_iff_eq.mp h
  simp only [lookupKey, strip, String.toList_ofList, lowerEach_stripChars, hlower]

theorem Respelled.lookupKey_eq {a b : String} (h : Respelled a b) : lookupKey a = lookupKey b := by
  rcases h with h | ⟨s, s', hs, ha, hb⟩
  · exact lookupKey_eq_of_equalIgnoringCase h
  · rw [lookupKey, lookupKey, ha.strip_eq, hb.strip_eq]
    exact beq_iff_eq.mp hs

end Text

/-! ## Table definitions with other spellings -/

open Text

/-- The same expression, or a name with its last segment spelled in another way. What qualifies a
name is not looked at. -/
inductive Expr.Respelled : Expr → Expr → Prop
  | same (e : Expr) : Respelled e e
  | identifier (i j : NodeInfo) {a b : String} (h : Text.Respelled a b) :
    Respelled (.identifier i a) (.identifier j b)
  | property (i j : NodeInfo) (owner owner' : Expr) {a b : String} (h : Text.Respelled a b) :
    Respelled (.property i owner a) (.property j owner' b)

namespace Expr.Respelled

variable {e e' : Expr}

theorem simpleName?_eq (h : Respelled e e') :
    e.simpleName?.map lookupKey = e'.simpleName?.map lookupKey := by
  cases h with
  | same => rfl
  | identifier i j h => exact congrArg some h.lookupKey_eq
  | property i j owner owner' h => exact congrArg some h.lookupKey_eq

theorem identifier?_eq (h : Respelled e e') :
    e.identifier?.map lookupKey = e'.identifier?.map lookupKey := by
  cases h with
  | same => rfl
  | identifier i j h => exact congrArg some h.lookupKey_eq
  | property => rfl

end Expr.Respelled

variable {ε : Type}

/-- The same element, but for the spelling of a column's name or of key columns. -/
inductive TableElement.Respelled : TableElement ε → TableElement ε → Prop
  | same (e : TableElement ε) : Respelled e e
  | column (c : Column) {name : Expr} (h : c.name.Respelled name) :
    Respelled (.column c) (.column { c with name })
  | unique (k : UniqueKey) {columns : List Expr}
    (h : List.Forall₂ Expr.Respelled k.columns columns) :
    Respelled (.unique k) (.unique { k with columns })
  | index (x : TableIndex) {columns : List Expr}
    (h : List.Forall₂ Expr.Respelled x.columns columns) :
    Respelled (.index x) (.index { x with columns })
  | dialect (i : NodeInfo) (kind : ε) {parts parts' inner inner' : List Expr}
    (h : List.Forall₂ Expr.Respelled parts parts')
    (hinner : List.Forall₂ Expr.Respelled inner inner') :
    Respelled (.dialect i kind parts inner) (.dialect i kind parts' inner')

/-- What a lookup for a column sees of an element. -/
def TableElement.columnKey? (e : TableElement ε) : Option (List Char) :=
  (e.column?.bind (·.name.simpleName?)).map lookupKey

/-- What a lookup for a key column sees of a list of expressions. -/
def lookupKeys (es : List Expr) : List (List Char) :=
  es.filterMap fun e => e.identifier?.map lookupKey

theorem lookupKeys_eq {es es' : List Expr} (h : List.Forall₂ Expr.Respelled es es') :
    lookupKeys es = lookupKeys es' := by
  induction h with
  | nil => rfl
  | cons he _ ih =>
    unfold lookupKeys at ih ⊢
    rw [List.filterMap_cons, List.filterMap_cons, he.identifier?_eq, ih]

section

variable [ElementDialect ε]

/-- What a lookup for a key column sees of an element. -/
def TableElement.keyKeys (e : TableElement ε) : List (List Char) := lookupKeys (e.keyColumns?.getD [])

namespace TableElement.Respelled

variable {e e' : TableElement ε}

omit [ElementDialect ε] in
theorem columnKey?_eq (h : Respelled e e') : e.columnKey? = e'.columnKey? := by
  cases h with
  | column c h => exact h.simpleName?_eq
  | same | unique | index | dialect => rfl

theorem keyKeys_eq (h : Respelled e e') : e.keyKeys = e'.keyKeys := by
  cases h with
  | same | column => rfl
  | unique k h => exact lookupKeys_eq h
  | index x h => exact lookupKeys_eq h
  | dialect i kind h hinner =>
    rw [keyKeys, keyKeys, keyColumns?, keyColumns?]
    cases ElementDialect.keys kind with
    | none => rfl
    | parts => exact lookupKeys_eq h
    | inner => exact lookupKeys_eq hinner

end TableElement.Respelled

/-! ## Lookups -/

namespace CreateTable

omit [ElementDialect ε] in
theorem isColumnNamed_delimiter (q : String) (e : TableElement ε) :
    isColumnNamed Normalizer.delimiter q e = decide (e.columnKey? = some (lookupKey q)) := by
  rw [Bool.eq_iff_iff, isColumnNamed_iff, decide_eq_true_iff, TableElement.columnKey?,
    Option.map_eq_some_iff]
  exact exists_congr fun name => and_congr_right fun _ => beq_iff_eq

theorem hasKeyNamed_delimiter (q : String) (e : TableElement ε) :
    hasKeyNamed Normalizer.delimiter q e = decide (lookupKey q ∈ e.keyKeys) := by
  rw [Bool.eq_iff_iff, hasKeyNamed_iff, decide_eq_true_iff, TableElement.keyKeys, lookupKeys,
    ← List.map_filterMap, List.mem_map]
  exact exists_congr fun name => and_congr_right fun _ => beq_iff_eq

/-- Lists that agree in what a lookup sees are left at the same place. -/
theorem findIdx?_eq {α : Type} {R : α → α → Prop} {p p' : α → Bool} {as bs : List α}
    (h : List.Forall₂ R as bs) (hp : ∀ a b, R a b → p a = p' b) :
    as.findIdx? p = bs.findIdx? p' := by
  induction h with
  | nil => rfl
  | cons hab _ ih => rw [List.findIdx?_cons, List.findIdx?_cons, hp _ _ hab, ih]

/-- The lookups for a column and for a key column end at these places, or nowhere, and find what
stands there. -/
structure FindsAt (c : CreateTable ε) (n : Normalizer) (q : String) (column key : Option Nat) :
    Prop where
  columnIdx : c.columnIdx? n q = column
  findColumn : (c.findColumn? n q).map TableElement.column = column.bind fun i => c.elements[i]?
  keyIdx : c.keyIdx? n q = key
  findIndex : c.findIndex? n q = key.bind fun i => c.elements[i]?

theorem findsAt (c : CreateTable ε) (n : Normalizer) (q : String) :
    c.FindsAt n q (c.columnIdx? n q) (c.keyIdx? n q) where
  columnIdx := rfl
  findColumn := by
    rw [columnIdx?, ← find?_eq_at_findIdx?, findColumn?]
    cases hfind : c.elements.find? (isColumnNamed n q) with
    | none => rfl
    | some e =>
      obtain ⟨name, hname, -⟩ := isColumnNamed_iff.mp (List.find?_some hfind)
      cases e with
      | column col => rfl
      | unique | index | check | dialect => cases hname
  keyIdx := rfl
  findIndex := find?_eq_at_findIdx? _ _

/-- The lookups see neither case nor delimiters: for two spellings of a query, in two statements
that differ in the spelling of column names and key columns, they end at the same places. -/
theorem lookups_ignore_spelling {c c' : CreateTable ε} {q q' : String}
    (hc : List.Forall₂ TableElement.Respelled c.elements c'.elements) (hq : Respelled q q') :
    ∃ column key : Option Nat, c.FindsAt Normalizer.delimiter q column key ∧
      c'.FindsAt Normalizer.delimiter q' column key := by
  have hcolumn : c.columnIdx? Normalizer.delimiter q = c'.columnIdx? Normalizer.delimiter q' := by
    refine findIdx?_eq hc fun e e' he => ?_
    rw [isColumnNamed_delimiter, isColumnNamed_delimiter, he.columnKey?_eq, hq.lookupKey_eq]
  have hkey : c.keyIdx? Normalizer.delimiter q = c'.keyIdx? Normalizer.delimiter q' := by
    refine findIdx?_eq hc fun e e' he => ?_
    rw [hasKeyNamed_delimiter, hasKeyNamed_delimiter, he.keyKeys_eq, hq.lookupKey_eq]
  refine ⟨_, _, c.findsAt _ q, ?_⟩
  rw [hcolumn, hkey]
  exact c'.findsAt _ q'

/-- A name with the one letter whose lower case is two characters long, in four spellings. -/
theorem lookups_ignore_spelling_dotted :
    let info : NodeInfo := { id := ⟨1⟩ }
    let name (s : String) : Expr := .identifier info s
    let statement (column key : String) : CreateTable ElementKind :=
      { info, elements := [.check { info, expr := name "x" }, .column { info, name := name column },
          .dialect info (.fullText false) [] [name key]] }
    let c := statement "\u0130]D" "[\u0130]]D]"
    let c' := statement "`\u0130]D`" "[\u0130]]d]"
    let q := "'\u0130]d'"
    let q' := "i\u0307]D"
    c.FindsAt Normalizer.delimiter q (some 1) (some 2) ∧
      c'.FindsAt Normalizer.delimiter q' (some 1) (some 2) := by
  intro info name statement c c' q q'
  have hbare : Undelimited "\u0130]D" := .inr (.inl fun style => by cases style <;> decide)
  have hbare' : Undelimited "i\u0307]D" := .inr (.inl fun style => by cases style <;> decide)
  have hquery : Respelled q q' :=
    .inr ⟨"\u0130]d", _, by decide +kernel, .quoted .single _, .bare hbare'⟩
  have hcolumn : Respelled "\u0130]D" "`\u0130]D`" :=
    .inr ⟨_, "\u0130]D", by decide +kernel, .bare hbare, .quoted .backtick _⟩
  have hkey : Respelled "[\u0130]]D]" "[\u0130]]d]" := .inl (by decide +kernel)
  have hc : List.Forall₂ TableElement.Respelled c.elements c'.elements :=
    .cons (.same _) (.cons (.column { info, name := name "\u0130]D" } (.identifier info info hcolumn))
      (.cons (.dialect info (ElementKind.fullText false) .nil
        (.cons (.identifier info info hkey) .nil)) .nil))
  obtain ⟨column, key, hfinds, hfinds'⟩ := lookups_ignore_spelling hc hquery
  have hplace : c.columnIdx? Normalizer.delimiter q = some 1 := by decide +kernel
  have hplace' : c.keyIdx? Normalizer.delimiter q = some 2 := by decide +kernel
  rw [hplace.symm.trans hfinds.columnIdx, hplace'.symm.trans hfinds.keyIdx]
  exact ⟨hfinds, hfinds'⟩

end CreateTable

end

end SqlTree
