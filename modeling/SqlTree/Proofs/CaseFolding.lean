import Mathlib.Data.List.Basic
import SqlTree.Lookup

/-! # Lookups under the two normalizers

Lookups compare ignoring case, and a letter in lower case stays as it is. So it makes no difference
whether a normalizer goes to lower case before, but for one letter: in a whole text a capital sigma
at the end of a word takes its final form, and taken for itself it does not. Two names that are equal
under one normalizer are equal under the other exactly if such sigmas stand at the same places in
both. -/

namespace SqlTree

namespace Text

/-! ## The case table

The lower-case letter of a letter has no lower-case letter of its own. The table is checked run by
run, not letter by letter. -/

namespace CaseRun

variable {r q : CaseRun} {n m : Nat}

/-- Where the lower-case letters of the run start; they end at `high`. -/
def low (r : CaseRun) : Nat := (r.first + r.offset).toNat

def high (r : CaseRun) : Nat := (r.last + r.offset).toNat

/-- The lower-case letters of `r` are none of the letters of `q`: they lie outside of it, or every
one lies between two of its letters. -/
def apart (r q : CaseRun) : Bool :=
  !(Nat.ble q.first r.high && Nat.ble r.low q.last) ||
    ((r.stride == 2 || r.first == r.last) && q.stride == 2 && (r.low + q.first) % 2 == 1)

/-- The lower-case letters of the run are characters. -/
def proper (r : CaseRun) : Bool :=
  decide (0 ≤ r.first + r.offset) &&
    (decide (r.high < 0xD800) || (decide (0xDFFF < r.low) && decide (r.high < 0x110000)))

theorem covers_iff :
    r.covers n = true ↔ r.first ≤ n ∧ n ≤ r.last ∧ (n - r.first) % r.stride = 0 := by
  simp [covers, and_assoc]

theorem not_covers_of_apart (hproper : r.proper = true) (h : r.apart q = true)
    (hn : r.covers n = true) (hm : (m : Int) = n + r.offset) : q.covers m = false := by
  rw [← Bool.not_eq_true]
  intro hq
  obtain ⟨hfirst, hlast, hstride⟩ := covers_iff.mp hn
  obtain ⟨hfirst', hlast', hstride'⟩ := covers_iff.mp hq
  simp only [proper, Bool.and_eq_true, decide_eq_true_eq] at hproper
  have hlow : (r.low : Int) = r.first + r.offset := Int.toNat_of_nonneg hproper.1
  have hhigh : m ≤ r.high := by
    rw [high]
    omega
  -- A letter in both would lie in the range of both, so what is left is that it falls between two.
  have hmeet : (Nat.ble q.first r.high && Nat.ble r.low q.last) = true := by
    rw [Bool.and_eq_true, Nat.ble_eq, Nat.ble_eq]
    omega
  rw [apart, hmeet] at h
  simp only [Bool.not_true, Bool.false_or, Bool.and_eq_true, Bool.or_eq_true, beq_iff_eq] at h
  obtain ⟨⟨htwo | hsingle, htwo'⟩, hodd⟩ := h
  · rw [htwo] at hstride
    rw [htwo'] at hstride'
    omega
  · rw [htwo'] at hstride'
    omega

theorem isValidChar_of_proper (hproper : r.proper = true) (hn : r.covers n = true)
    (hm : (m : Int) = n + r.offset) : m.isValidChar := by
  obtain ⟨hfirst, hlast, -⟩ := covers_iff.mp hn
  simp only [proper, Bool.or_eq_true, Bool.and_eq_true, decide_eq_true_eq] at hproper
  rw [low, high] at hproper
  unfold Nat.isValidChar
  omega

end CaseRun

/-- The one letter with a lower case of two characters. -/
def dotted : CaseRun := ⟨0x130, 0x130, 1, 0⟩

theorem lowercaseRuns_proper :
    lowercaseRuns.all (fun r => r.proper && r.apart dotted) = true := by
  decide +kernel

theorem lowercaseRuns_apart : lowercaseRuns.all (fun r => lowercaseRuns.all r.apart) = true := by
  decide +kernel

/-! ## Lower case stays lower case -/

theorem lowerChar_eq_self {c : Char} (hc : c ≠ '\u0130')
    (h : ∀ q ∈ lowercaseRuns, q.covers c.toNat = false) : lowerChar c = [c] := by
  have hnone : lowercaseRuns.find? (·.covers c.toNat) = none :=
    List.find?_eq_none.mpr fun q hq => by simp [h q hq]
  rw [lowerChar, if_neg hc, hnone]

/-- The lower-case letter of a letter of a run is the character of the number `offset` further
on. -/
theorem exists_lowered {r : CaseRun} (hr : r ∈ lowercaseRuns) {c : Char}
    (hc : r.covers c.toNat = true) : ∃ m : Nat, (m : Int) = c.toNat + r.offset ∧
      (Char.ofNat (c.toNat + r.offset).toNat).toNat = m := by
  have hproper := List.all_eq_true.mp lowercaseRuns_proper r hr
  rw [Bool.and_eq_true] at hproper
  obtain ⟨m, hm⟩ : ∃ m : Nat, (m : Int) = c.toNat + r.offset := by
    refine ⟨(c.toNat + r.offset).toNat, Int.toNat_of_nonneg ?_⟩
    obtain ⟨hfirst, -, -⟩ := CaseRun.covers_iff.mp hc
    simp only [CaseRun.proper, Bool.and_eq_true, decide_eq_true_eq] at hproper
    omega
  have hvalid := CaseRun.isValidChar_of_proper hproper.1 hc hm
  refine ⟨m, hm, ?_⟩
  rw [← hm, Int.toNat_natCast, Char.ofNat, dif_pos hvalid]
  rfl

theorem lowerChar_of_run {r : CaseRun} (hr : r ∈ lowercaseRuns) {c : Char}
    (hc : r.covers c.toNat = true) :
    lowerChar (Char.ofNat (c.toNat + r.offset).toNat) =
      [Char.ofNat (c.toNat + r.offset).toNat] := by
  have hproper := List.all_eq_true.mp lowercaseRuns_proper r hr
  have hapart := List.all_eq_true.mp (List.all_eq_true.mp lowercaseRuns_apart r hr)
  rw [Bool.and_eq_true] at hproper
  obtain ⟨hproper, hdotted⟩ := hproper
  obtain ⟨m, hm, hnat⟩ := exists_lowered hr hc
  refine lowerChar_eq_self ?_ fun q hq => ?_
  · intro heq
    have hcovers := CaseRun.not_covers_of_apart hproper hdotted hc hm
    rw [← hnat, heq] at hcovers
    exact absurd hcovers (by decide)
  · rw [hnat]
    exact CaseRun.not_covers_of_apart hproper (hapart q hq) hc hm

theorem lowerChar_fixed {c d : Char} (h : d ∈ lowerChar c) : lowerChar d = [d] := by
  rw [lowerChar] at h
  split at h
  next =>
    rcases List.mem_cons.mp h with rfl | h
    · decide +kernel
    · obtain rfl := List.mem_singleton.mp h
      decide +kernel
  next hc =>
    split at h
    next r hr =>
      obtain rfl := List.mem_singleton.mp h
      have hcovers := List.find?_some hr
      exact lowerChar_of_run (List.mem_of_find?_eq_some hr) hcovers
    next hnone =>
      obtain rfl := List.mem_singleton.mp h
      refine lowerChar_eq_self hc fun q hq => ?_
      simpa using List.find?_eq_none.mp hnone q hq

theorem lowerEach_cons (c : Char) (cs : List Char) :
    lowerEach (c :: cs) = lowerChar c ++ lowerEach cs := List.flatMap_cons

theorem lowerEach_append (as bs : List Char) :
    lowerEach (as ++ bs) = lowerEach as ++ lowerEach bs := List.flatMap_append

theorem lowerEach_lowerChar (c : Char) : lowerEach (lowerChar c) = lowerChar c := by
  rw [lowerEach, List.flatMap_congr fun d hd => lowerChar_fixed hd, List.flatMap_singleton']

theorem lowerEach_lowerFrom (before cs : List Char) :
    lowerEach (lowerFrom before cs) = lowerFrom before cs := by
  induction cs generalizing before with
  | nil => rfl
  | cons c cs ih =>
    rw [lowerFrom, lowerEach_append, ih]
    congr 1
    split
    next =>
      rw [lowerSigma]
      split <;> decide +kernel
    next => exact lowerEach_lowerChar c

/-! ## The final sigma -/

/-- The lower case of the rest of a text, every character taken for itself, where `before` is what
was read, backwards. Beside each stands whether it comes from a capital sigma at the end of a word:
after a letter with a case, and before none. -/
def markFrom (before : List Char) : List Char → List (Char × Bool)
  | [] => []
  | c :: rest =>
    (if c = capitalSigma then [('\u03C3', meetsCased before && !meetsCased rest)]
      else (lowerChar c).map fun d => (d, false)) ++
      markFrom (c :: before) rest

/-- A marked letter takes its final form. -/
def finalForm (x : Char × Bool) : Char := if x.2 then '\u03C2' else x.1

theorem map_fst_markFrom (before cs : List Char) :
    (markFrom before cs).map (·.1) = lowerEach cs := by
  induction cs generalizing before with
  | nil => rfl
  | cons c cs ih =>
    rw [markFrom, List.map_append, ih, lowerEach_cons]
    congr 1
    split
    next hc =>
      have hsigma : lowerChar capitalSigma = ['\u03C3'] := by decide +kernel
      rw [hc, hsigma]
      rfl
    next => rw [List.map_map, Function.comp_def, List.map_id']

theorem map_finalForm_markFrom (before cs : List Char) :
    (markFrom before cs).map finalForm = lowerFrom before cs := by
  induction cs generalizing before with
  | nil => rfl
  | cons c cs ih =>
    rw [markFrom, List.map_append, ih, lowerFrom]
    congr 1
    split
    next => rfl
    next =>
      rw [List.map_map]
      exact List.map_id' _

/-- What is marked is a small sigma. -/
theorem fst_of_markFrom {before cs : List Char} {x : Char × Bool} (hx : x ∈ markFrom before cs)
    (hmark : x.2 = true) : x.1 = '\u03C3' := by
  induction cs generalizing before with
  | nil => cases hx
  | cons c cs ih =>
    rw [markFrom, List.mem_append] at hx
    rcases hx with hx | hx
    · split at hx
      next =>
        obtain rfl := List.mem_singleton.mp hx
        rfl
      next =>
        obtain ⟨d, -, rfl⟩ := List.mem_map.mp hx
        cases hmark
    · exact ih hx

section

variable {x y : Char × Bool}

theorem eq_of_letter_of_form (hx : x.2 = true → x.1 = '\u03C3') (hy : y.2 = true → y.1 = '\u03C3')
    (hletter : x.1 = y.1) (hform : finalForm x = finalForm y) : x = y := by
  have hne : '\u03C2' ≠ '\u03C3' := by decide
  obtain ⟨c, marked⟩ := x
  obtain ⟨d, marked'⟩ := y
  obtain rfl : c = d := hletter
  match marked, marked' with
  | false, false | true, true => rfl
  | true, false => exact absurd (hform.trans (hx rfl)) hne
  | false, true => exact absurd (hform.symm.trans (hy rfl)) hne

theorem eq_of_form_of_mark (hx : x.2 = true → x.1 = '\u03C3') (hy : y.2 = true → y.1 = '\u03C3')
    (hform : finalForm x = finalForm y) (hmark : x.2 = y.2) : x = y := by
  obtain ⟨c, marked⟩ := x
  obtain ⟨d, marked'⟩ := y
  obtain rfl : marked = marked' := hmark
  cases marked with
  | false => exact Prod.ext hform rfl
  | true => exact Prod.ext ((hx rfl).trans (hy rfl).symm) rfl

end

/-- Two functions that tell the items of two lists apart tell the lists apart as well. -/
theorem eq_of_map_eq_map {α β γ : Type} {f : α → β} {g : α → γ} {as bs : List α}
    (h : ∀ a ∈ as, ∀ b ∈ bs, f a = f b → g a = g b → a = b) (hf : as.map f = bs.map f)
    (hg : as.map g = bs.map g) : as = bs := by
  induction as generalizing bs with
  | nil => exact (List.map_eq_nil_iff.mp hf.symm).symm
  | cons a as ih =>
    cases bs with
    | nil => cases hf
    | cons b bs =>
      obtain ⟨hfhead, hftail⟩ := List.cons.inj hf
      obtain ⟨hghead, hgtail⟩ := List.cons.inj hg
      have hhead := h a List.mem_cons_self b List.mem_cons_self hfhead hghead
      have htail := ih (fun a ha b hb => h a (.tail _ ha) b (.tail _ hb)) hftail hgtail
      rw [hhead, htail]

/-- Names that are equal ignoring case, once a normalizer has brought them to its form. -/
def sameUnder (n : Normalizer) (a b : String) : Bool := equalIgnoringCase (n a) (n b)

/-- For each letter in the lower case of a name, inside its delimiters, whether it comes from a
capital sigma at the end of a word. -/
def finalSigmas (name : String) : List Bool := (markFrom [] (strip name).toList).map (·.2)

/-- If the names are equal under one of the two normalizers, then capital sigmas at the end of a word
stand at the same places in both. -/
def SigmasAgree (a b : String) : Prop :=
  sameUnder Normalizer.caseFold a b ∨ sameUnder Normalizer.delimiter a b →
    finalSigmas a = finalSigmas b

theorem sameUnder_delimiter_iff {a b : String} : sameUnder Normalizer.delimiter a b = true ↔
    (markFrom [] (strip a).toList).map (·.1) = (markFrom [] (strip b).toList).map (·.1) := by
  rw [sameUnder, equalIgnoringCase, beq_iff_eq, map_fst_markFrom, map_fst_markFrom]
  rfl

theorem sameUnder_caseFold_iff {a b : String} : sameUnder Normalizer.caseFold a b = true ↔
    (markFrom [] (strip a).toList).map finalForm =
      (markFrom [] (strip b).toList).map finalForm := by
  rw [sameUnder, equalIgnoringCase, beq_iff_eq, map_finalForm_markFrom, map_finalForm_markFrom,
    Normalizer.caseFold, Normalizer.caseFold, lowercase, lowercase, String.toList_ofList,
    String.toList_ofList, lowerEach_lowerFrom, lowerEach_lowerFrom]

/-- The two normalizers tell the same of two names exactly if their final sigmas agree. Any two of
letter, final form and mark give the third, so if two of them are equal all along, all are. -/
theorem sameUnder_eq_iff {a b : String} :
    sameUnder Normalizer.caseFold a b = sameUnder Normalizer.delimiter a b ↔ SigmasAgree a b := by
  rw [Bool.eq_iff_iff, SigmasAgree, sameUnder_caseFold_iff, sameUnder_delimiter_iff, finalSigmas,
    finalSigmas]
  constructor
  · intro hiff hone
    have hboth := hone.elim (fun h => And.intro h (hiff.mp h)) fun h => And.intro (hiff.mpr h) h
    refine congrArg (List.map (·.2)) (eq_of_map_eq_map (fun x hx y hy => ?_) hboth.2 hboth.1)
    exact eq_of_letter_of_form (fst_of_markFrom hx) (fst_of_markFrom hy)
  · intro hagree
    constructor
    · intro hform
      refine congrArg (List.map Prod.fst) (eq_of_map_eq_map (fun x hx y hy => ?_) hform
        (hagree (.inl hform)))
      exact eq_of_form_of_mark (fst_of_markFrom hx) (fst_of_markFrom hy)
    · intro hletter
      refine congrArg (List.map finalForm) (eq_of_map_eq_map (fun x _ y _ => ?_) hletter
        (hagree (.inr hletter)))
      exact Prod.ext

end Text

/-! ## Up to the first item -/

section

variable {α β : Type} {p p' : α → Bool}

/-- The items of a list up to the first that passes a test, that one included. -/
def upTo (p : α → Bool) : List α → List α
  | [] => []
  | a :: as => if p a then [a] else a :: upTo p as

theorem upTo_append (p : α → Bool) (as bs : List α) :
    upTo p (as ++ bs) = if as.any p then upTo p as else as ++ upTo p bs := by
  induction as with
  | nil => rfl
  | cons a as ih =>
    rw [List.cons_append, upTo, upTo, ih, List.any_cons]
    cases p a with
    | true => rfl
    | false => cases as.any p <;> rfl

/-- Two tests find their first item at one place exactly if no item up to there tells them apart. -/
theorem findIdx?_eq_iff {as : List α} :
    as.findIdx? p' = as.findIdx? p ↔ ∀ a ∈ upTo p as, p' a = p a := by
  induction as with
  | nil => simp [upTo]
  | cons a as ih =>
    rw [List.findIdx?_cons, List.findIdx?_cons, upTo]
    cases hp : p a with
    | true => cases hp' : p' a <;> simp [hp, hp']
    | false =>
      have hlater : some 0 ≠ (as.findIdx? p).map fun i => i + 1 := by
        cases as.findIdx? p <;> simp
      have hshift : Function.Injective (Option.map fun i : Nat => i + 1) :=
        Option.map_injective fun _ _ => Nat.succ.inj
      cases hp' : p' a with
      | true =>
        refine iff_of_false hlater fun h => ?_
        have htold : p' a = p a := h a List.mem_cons_self
        rw [hp, hp'] at htold
        cases htold
      | false => simp [hp, hp', ← ih, hshift.eq_iff]

theorem any_eq_of_upTo {as : List α} (h : ∀ a ∈ upTo p as, p' a = p a) : as.any p' = as.any p := by
  rw [← List.findIdx?_isSome, ← List.findIdx?_isSome, findIdx?_eq_iff.mpr h]

variable {q : β → Bool}

/-- Two tests of lists agree as far as the first list that passes, if they agree on all the items
that are looked at until then. -/
theorem any_eq_of_upTo_flatMap {f : β → List α} (hq : ∀ b, q b = (f b).any p) {bs : List β}
    (h : ∀ a ∈ upTo p (bs.flatMap f), p' a = p a) : ∀ b ∈ upTo q bs, (f b).any p' = q b := by
  induction bs with
  | nil => exact fun b hb => nomatch hb
  | cons b bs ih =>
    rw [List.flatMap_cons, upTo_append, ← hq] at h
    rw [upTo]
    cases hb : q b with
    | true =>
      rw [hb, if_pos rfl] at h
      rw [if_pos rfl, List.forall_mem_singleton, hq]
      exact any_eq_of_upTo h
    | false =>
      rw [hb, if_neg Bool.false_ne_true, List.forall_mem_append] at h
      rw [if_neg Bool.false_ne_true, List.forall_mem_cons, hq]
      refine ⟨?_, ih h.2⟩
      rw [Bool.eq_iff_iff, List.any_eq_true, List.any_eq_true]
      exact exists_congr fun a => and_congr_right fun ha => by rw [h.1 a ha]

theorem filterMap_upTo {f : β → Option α} (hq : ∀ b, q b = (f b).any p) (bs : List β) :
    (upTo q bs).filterMap f = upTo p (bs.filterMap f) := by
  induction bs with
  | nil => rfl
  | cons b bs ih =>
    rw [upTo, hq, List.filterMap_cons]
    cases hb : f b with
    | none => simp [hb, ih]
    | some a => cases ha : p a <;> simp [hb, ha, ih, upTo]

end

/-! ## Lookups -/

open Text

namespace CreateTable

variable {ε : Type} [ElementDialect ε]

/-- The names that a query for a column is compared with. -/
def columnNames (c : CreateTable ε) : List String :=
  c.elements.filterMap fun e => e.column?.bind (·.name.simpleName?)

/-- The names that a query for a key column is compared with. -/
def keyNames (c : CreateTable ε) : List String :=
  c.elements.flatMap fun e => (e.keyColumns?.getD []).filterMap (·.identifier?)

omit [ElementDialect ε] in
theorem isColumnNamed_eq (n : Normalizer) (q : String) (e : TableElement ε) :
    isColumnNamed n q e = (e.column?.bind (·.name.simpleName?)).any (sameUnder n · q) := by
  unfold isColumnNamed Column.computeAlias
  cases e.column? with
  | none => rfl
  | some c =>
    rw [Option.bind_some, Option.bind_some]
    cases c.name.simpleName? <;> rfl

omit [ElementDialect ε] in
theorem isColumnNamed_iff {n : Normalizer} {q : String} {e : TableElement ε} :
    isColumnNamed n q e = true ↔ ∃ name, e.column?.bind (·.name.simpleName?) = some name ∧
      equalIgnoringCase (n name) (n q) = true := by
  rw [isColumnNamed_eq, Option.any_eq_true]
  rfl

theorem hasKeyNamed_eq (n : Normalizer) (q : String) (e : TableElement ε) :
    hasKeyNamed n q e =
      ((e.keyColumns?.getD []).filterMap (·.identifier?)).any (sameUnder n · q) := by
  unfold hasKeyNamed
  cases e.keyColumns? <;> rfl

theorem hasKeyNamed_iff {n : Normalizer} {q : String} {e : TableElement ε} :
    hasKeyNamed n q e = true ↔ ∃ name ∈ (e.keyColumns?.getD []).filterMap (·.identifier?),
      equalIgnoringCase (n name) (n q) = true := by
  rw [hasKeyNamed_eq, List.any_eq_true]
  rfl

theorem find?_eq_at_findIdx? {α : Type} (p : α → Bool) (as : List α) :
    as.find? p = (as.findIdx? p).bind fun i => as[i]? := by
  rw [List.find?_eq_getElem?_findIdx, List.findIdx?_eq_guard_findIdx_lt]
  by_cases h : as.findIdx p < as.length <;> simp [Option.guard, h]

/-- Under the two normalizers a query leads to the same column exactly if its final sigmas agree with
those of every name that it is compared with. If they agree with those of the key columns that it is
compared with, it leads to the same element as well. -/
theorem lookups_agree (c : CreateTable ε) (q : String) :
    (c.columnIdx? Normalizer.caseFold q = c.columnIdx? Normalizer.delimiter q ↔
      ∀ name ∈ upTo (sameUnder Normalizer.delimiter · q) c.columnNames, SigmasAgree name q) ∧
    (c.columnIdx? Normalizer.caseFold q = c.columnIdx? Normalizer.delimiter q →
      c.findColumn? Normalizer.caseFold q = c.findColumn? Normalizer.delimiter q) ∧
    ((∀ name ∈ upTo (sameUnder Normalizer.delimiter · q) c.keyNames, SigmasAgree name q) →
      c.keyIdx? Normalizer.caseFold q = c.keyIdx? Normalizer.delimiter q ∧
        c.findIndex? Normalizer.caseFold q = c.findIndex? Normalizer.delimiter q) := by
  refine ⟨?_, fun hplace => ?_, fun hkeys => ?_⟩
  · rw [columnIdx?, columnIdx?, findIdx?_eq_iff, columnNames,
      ← filterMap_upTo (isColumnNamed_eq Normalizer.delimiter q), List.forall_mem_filterMap]
    refine forall₂_congr fun e _ => ?_
    rw [isColumnNamed_eq, isColumnNamed_eq]
    cases e.column?.bind (·.name.simpleName?) with
    | none => simp
    | some name => simp [sameUnder_eq_iff]
  · rw [findColumn?, findColumn?, find?_eq_at_findIdx?, find?_eq_at_findIdx?]
    exact congrArg (fun place => (Option.bind place fun i => c.elements[i]?).bind _) hplace
  · have hplace : c.keyIdx? Normalizer.caseFold q = c.keyIdx? Normalizer.delimiter q := by
      refine findIdx?_eq_iff.mpr fun e he => ?_
      rw [hasKeyNamed_eq Normalizer.caseFold]
      exact any_eq_of_upTo_flatMap (hasKeyNamed_eq Normalizer.delimiter q)
        (fun name hname => sameUnder_eq_iff.mpr (hkeys name hname)) e he
    refine ⟨hplace, ?_⟩
    rw [findIndex?, findIndex?, find?_eq_at_findIdx?, find?_eq_at_findIdx?]
    exact congrArg (Option.bind · fun i => c.elements[i]?) hplace

/-- A query with a final sigma finds the name that has one at the same place. -/
theorem lookups_agree_final :
    let info : NodeInfo := { id := ⟨1⟩ }
    let name : Expr := .identifier info "\u0391\u03A3"
    let c : CreateTable ElementKind :=
      { info,
        elements := [.column { info, name := .identifier info "id" }, .column { info, name },
          .unique { info, columns := [name] }] }
    let q := "\u03B1\u03A3"
    c.columnIdx? Normalizer.caseFold q = c.columnIdx? Normalizer.delimiter q ∧
      c.findIndex? Normalizer.caseFold q = c.findIndex? Normalizer.delimiter q ∧
      c.columnIdx? Normalizer.delimiter q = some 1 ∧ c.keyIdx? Normalizer.delimiter q = some 2 := by
  intro info name c q
  have hid : SigmasAgree "id" q := by
    rintro (h | h)
    · exact absurd h (by decide +kernel)
    · exact absurd h (by decide +kernel)
  have hname : SigmasAgree "\u0391\u03A3" q := fun _ => by decide +kernel
  obtain ⟨hcolumn, -, hindex⟩ := c.lookups_agree q
  have hcolumns : upTo (sameUnder Normalizer.delimiter · q) c.columnNames =
      ["id", "\u0391\u03A3"] := by
    decide +kernel
  have hkeys : upTo (sameUnder Normalizer.delimiter · q) c.keyNames = ["\u0391\u03A3"] := by
    decide +kernel
  refine ⟨hcolumn.mpr ?_, (hindex ?_).2, by decide +kernel, by decide +kernel⟩
  · rw [hcolumns]
    simp [hid, hname]
  · rw [hkeys]
    simp [hname]

/-- A sigma that ends a word is found as a small sigma under one normalizer only. -/
theorem lookups_differ_final :
    let info : NodeInfo := { id := ⟨1⟩ }
    let name : Expr := .identifier info "\u0391\u03A3"
    let c : CreateTable ElementKind :=
      { info, elements := [.column { info, name }, .unique { info, columns := [name] }] }
    let q := "\u03B1\u03C3"
    (c.findColumn? Normalizer.delimiter q).isSome ∧ (c.findColumn? Normalizer.caseFold q).isNone ∧
      (c.findIndex? Normalizer.delimiter q).isSome ∧
      (c.findIndex? Normalizer.caseFold q).isNone := by
  intro info name c q
  exact ⟨by decide +kernel, by decide +kernel, by decide +kernel, by decide +kernel⟩

end CreateTable

end SqlTree
