import SqlTree.Node.Value
import SqlTree.Proofs.Decimals

/-! # Literals that read back

The text of a literal tells its value. A text or a run of bytes can be read back from the front of
what it is written into, the form of a literal shows in its characters, and the digits of a number
tell the number. Only NULL and the NaNs, which have no word of their own, are written alike. -/

namespace SqlTree

/-! ## Texts -/

/-- Reads up to the closing quote: two quotes stand for one, a single one closes. Gives what was read
and what is left. -/
def readQuoted : List Char → Option (List Char × List Char)
  | [] => none
  | '\x27' :: '\x27' :: rest => (readQuoted rest).map fun p => ('\x27' :: p.1, p.2)
  | '\x27' :: rest => some ([], rest)
  | c :: rest => (readQuoted rest).map fun p => (c :: p.1, p.2)

/-- Reads a text between single quotes. -/
def readText : List Char → Option (String × List Char)
  | '\x27' :: rest => (readQuoted rest).map fun p => (String.ofList p.1, p.2)
  | _ => none

theorem readQuoted_close {rest : List Char} (h : rest.head? ≠ some '\x27') :
    readQuoted ('\x27' :: rest) = some ([], rest) := by
  rw [readQuoted]
  intro rest' hrest
  exact h (by rw [hrest]; rfl)

theorem readQuoted_cons {c : Char} (h : c ≠ '\x27') (rest : List Char) :
    readQuoted (c :: rest) = (readQuoted rest).map fun p => (c :: p.1, p.2) := by
  rw [readQuoted.eq_def]
  split <;> simp_all

theorem readQuoted_escapeQuotes (cs : List Char) {rest : List Char} (h : rest.head? ≠ some '\x27') :
    readQuoted (escapeQuotes cs ++ '\x27' :: rest) = some (cs, rest) := by
  induction cs with
  | nil => exact readQuoted_close h
  | cons c cs ih =>
    rw [escapeQuotes] at ih ⊢
    rw [List.flatMap_cons, List.append_assoc]
    split
    next hc =>
      subst hc
      simp only [List.cons_append, List.nil_append, readQuoted, ih, Option.map_some]
    next hc =>
      rw [List.singleton_append, readQuoted_cons hc, ih, Option.map_some]

theorem readText_render (s : String) (rest : List Char) (h : rest.head? ≠ some '\x27') :
    readText ((Value.text s).render.toList ++ rest) = some (s, rest) := by
  rw [Value.render, String.toList_ofList, List.cons_append, List.append_assoc, List.singleton_append,
    readText, readQuoted_escapeQuotes _ h, Option.map_some, String.ofList_toList]

/-! ## Bytes -/

/-- The value of a hexadecimal digit. -/
def hexValue? (c : Char) : Option Nat :=
  if '0' ≤ c ∧ c ≤ '9' then some (c.toNat - 48)
  else if 'A' ≤ c ∧ c ≤ 'F' then some (c.toNat - 55)
  else none

/-- Reads pairs of hexadecimal digits up to the closing quote. -/
def readBytes : List Char → Option (List UInt8 × List Char)
  | '\x27' :: rest => some ([], rest)
  | a :: b :: rest => do
    let high ← hexValue? a
    let low ← hexValue? b
    let (bytes, left) ← readBytes rest
    return (UInt8.ofNat (16 * high + low) :: bytes, left)
  | _ => none

/-- Reads a run of bytes. -/
def readBlob : List Char → Option (List UInt8 × List Char)
  | 'X' :: '\x27' :: rest => readBytes rest
  | _ => none

/-- The hexadecimal digit of a number below sixteen. -/
def hexDigit (n : Nat) : Char := Char.ofNat (if n < 10 then 48 + n else 55 + n)

theorem hexByte_eq (b : UInt8) : hexByte b = [hexDigit (b.toNat / 16), hexDigit (b.toNat % 16)] :=
  rfl

theorem hexDigit_ne_quote : ∀ n < 16, hexDigit n ≠ '\x27' := by decide

theorem hexValue?_hexDigit : ∀ n < 16, hexValue? (hexDigit n) = some n := by decide

theorem readBytes_hexByte (b : UInt8) (rest : List Char) :
    readBytes (hexByte b ++ rest) = (readBytes rest).map fun p => (b :: p.1, p.2) := by
  have hhigh : b.toNat / 16 < 16 := by
    have := b.toNat_lt
    omega
  have hlow : b.toNat % 16 < 16 := Nat.mod_lt _ (by decide)
  have hbyte : UInt8.ofNat (16 * (b.toNat / 16) + b.toNat % 16) = b := by
    rw [Nat.div_add_mod, UInt8.ofNat_toNat]
  have hquote := hexDigit_ne_quote _ hhigh
  rw [hexByte_eq, List.cons_append, List.singleton_append, readBytes]
  · rw [hexValue?_hexDigit _ hhigh, hexValue?_hexDigit _ hlow]
    cases readBytes rest with
    | none => rfl
    | some p => exact congrArg (fun a => some (a :: p.1, p.2)) hbyte
  · exact hquote

theorem readBytes_render (bytes : List UInt8) (rest : List Char) :
    readBytes (bytes.flatMap hexByte ++ '\x27' :: rest) = some (bytes, rest) := by
  induction bytes with
  | nil => rfl
  | cons b bytes ih =>
    rw [List.flatMap_cons, List.append_assoc, readBytes_hexByte, ih, Option.map_some]

theorem readBlob_render (bytes : List UInt8) (rest : List Char) :
    readBlob ((Value.blob bytes).render.toList ++ rest) = some (bytes, rest) := by
  rw [Value.render, String.toList_ofList, List.cons_append, List.cons_append, List.append_assoc,
    List.singleton_append, readBlob, readBytes_render]

/-! ## Numbers

A number is written as a minus sign, if it has one, and a text that starts with a digit. -/

/-- A text with a minus sign or without. -/
def signed (negative : Bool) (cs : List Char) : List Char := if negative then '-' :: cs else cs

/-- The text starts with a digit. -/
def StartsWithDigit (cs : List Char) : Prop := ∃ c rest, cs = c :: rest ∧ c.isDigit = true

theorem startsWithDigit_of_all {cs : List Char} (hne : cs ≠ []) (h : ∀ c ∈ cs, c.isDigit = true) :
    StartsWithDigit cs := by
  obtain ⟨c, rest, rfl⟩ := List.exists_cons_of_ne_nil hne
  exact ⟨c, rest, rfl, h c List.mem_cons_self⟩

/-- A digit is no sign, so the sign and what it stands before are known. -/
theorem signed_inj {b b' : Bool} {cs cs' : List Char} (hcs : StartsWithDigit cs)
    (hcs' : StartsWithDigit cs') (h : signed b cs = signed b' cs') : b = b' ∧ cs = cs' := by
  obtain ⟨c, rest, rfl, hc⟩ := hcs
  obtain ⟨c', rest', rfl, hc'⟩ := hcs'
  have hminus {d : Char} (hd : d.isDigit = true) : d ≠ '-' := by
    rintro rfl
    exact absurd hd (by decide)
  match b, b' with
  | false, false => exact ⟨rfl, h⟩
  | true, true => exact ⟨rfl, (List.cons.inj h).2⟩
  | false, true => exact absurd (List.cons.inj h).1 (hminus hc)
  | true, false => exact absurd (List.cons.inj h).1.symm (hminus hc')

theorem render_integer (n : Int64) : (Value.integer n).render.toList =
    signed (decide (n.toInt < 0)) (Nat.toDigits 10 n.toInt.natAbs) := by
  rw [Value.render, Int.toString_eq_repr, Int.repr_eq_if, signed]
  by_cases h : n.toInt < 0
  · have habs : (-n.toInt).toNat = n.toInt.natAbs := by omega
    rw [if_neg (by omega), if_pos (by simpa using h), habs, String.toList_append, Nat.toList_repr]
    rfl
  · have habs : n.toInt.toNat = n.toInt.natAbs := by omega
    rw [if_pos (by omega), if_neg (by simpa using h), habs, Nat.toList_repr]

namespace Binary64

theorem rank_infinite {x : Binary64} (h : x.isInfinite = true) : x.rank = 2047 * 2 ^ 52 := by
  simp only [isInfinite, Bool.and_eq_true, decide_eq_true_iff] at h
  rw [rank, h.1, h.2, Nat.add_zero]

/-- The text of a number that is not a NaN, without its sign. -/
def unsigned (x : Binary64) : List Char :=
  if x.isInfinite then ['9', 'e', '9', '9', '9'] else x.shortest.positional

theorem render_eq_signed {x : Binary64} (h : x.isNaN = false) :
    x.render.toList = signed x.isNegative x.unsigned := by
  unfold render unsigned signed
  rw [h]
  cases x.isNegative <;> cases x.isInfinite <;> simp

theorem render_nan {x : Binary64} (h : x.isNaN = true) : x.render = "NULL" := if_pos h

theorem unsigned_infinite {x : Binary64} (h : x.isInfinite = true) :
    x.unsigned = ['9', 'e', '9', '9', '9'] := if_pos h

theorem unsigned_finite {x : Binary64} (h : x.isInfinite = false) :
    x.unsigned = x.shortest.positional := if_neg (by simp [h])

theorem startsWithDigit_unsigned (x : Binary64) : StartsWithDigit x.unsigned := by
  unfold unsigned
  split
  · exact ⟨'9', _, rfl, by decide⟩
  · obtain ⟨p, hp, -⟩ := x.shortest.exists_positional
    obtain ⟨c, rest, hc⟩ := List.exists_cons_of_ne_nil p.nonempty
    rw [hp, Decimal.Numeral.text, hc]
    exact ⟨c, _, rfl, p.digits c (by simp [hc])⟩

end Binary64

/-! ## Forms -/

/-- The forms of a literal. -/
inductive LiteralForm
  | null | integer | real | infinite | text | blob
deriving DecidableEq

/-- The form that the characters of a literal show. -/
def LiteralForm.ofChars (cs : List Char) : LiteralForm :=
  if cs.head? = some '\x27' then text
  else if cs.head? = some 'X' then blob
  else if cs.head? = some 'N' then null
  else if 'e' ∈ cs then infinite
  else if '.' ∈ cs then real
  else integer

namespace Value

/-- The value is NULL or a NaN. -/
def writtenNull : Value → Bool
  | null => true
  | real x => x.isNaN
  | _ => false

/-- The form in which a value is written. -/
def form : Value → LiteralForm
  | null => .null
  | integer _ => .integer
  | real x => if x.isNaN then .null else if x.isInfinite then .infinite else .real
  | text _ => .text
  | blob _ => .blob

end Value

theorem LiteralForm.ofChars_signed (b : Bool) {cs : List Char} (h : StartsWithDigit cs) :
    ofChars (signed b cs) =
      if 'e' ∈ cs then infinite else if '.' ∈ cs then real else integer := by
  obtain ⟨c, rest, rfl, hc⟩ := h
  have hhead (d : Char) (hd : d.isDigit = false) (hminus : d ≠ '-') :
      (signed b (c :: rest)).head? ≠ some d := by
    have hcd : c ≠ d := by
      rintro rfl
      rw [hc] at hd
      cases hd
    cases b
    · simpa [signed] using hcd
    · simpa [signed] using hminus.symm
  have hmem (d : Char) (hminus : d ≠ '-') : d ∈ signed b (c :: rest) ↔ d ∈ c :: rest := by
    cases b
    · rfl
    · simp [signed, hminus]
  rw [ofChars, if_neg (hhead _ (by decide) (by decide)), if_neg (hhead _ (by decide) (by decide)),
    if_neg (hhead _ (by decide) (by decide))]
  simp only [hmem 'e' (by decide), hmem '.' (by decide)]

namespace Value

theorem form_integer (n : Int64) :
    LiteralForm.ofChars (integer n).render.toList = .integer := by
  have hdigits (c : Char) (hc : c ∈ Nat.toDigits 10 n.toInt.natAbs) : c.isDigit = true :=
    Nat.isDigit_of_mem_toDigits (by decide) (by decide) hc
  have hnot (c : Char) (hc : c.isDigit = false) : c ∉ Nat.toDigits 10 n.toInt.natAbs := fun hmem =>
    Bool.false_ne_true (hc.symm.trans (hdigits c hmem))
  rw [render_integer, LiteralForm.ofChars_signed _ (startsWithDigit_of_all (by simp) hdigits),
    if_neg (hnot 'e' (by decide)), if_neg (hnot '.' (by decide))]

theorem form_real (x : Binary64) : LiteralForm.ofChars (real x).render.toList = (real x).form := by
  change LiteralForm.ofChars x.render.toList = _
  rw [form]
  cases hnan : x.isNaN with
  | true =>
    rw [Binary64.render_nan hnan, if_pos rfl]
    decide
  | false =>
    rw [Binary64.render_eq_signed hnan, LiteralForm.ofChars_signed _ x.startsWithDigit_unsigned]
    cases hinf : x.isInfinite with
    | true =>
      rw [Binary64.unsigned_infinite hinf]
      decide
    | false =>
      obtain ⟨p, hp, -⟩ := x.shortest.exists_positional
      have he : 'e' ∉ p.text := fun hmem =>
        (Decimal.Numeral.mem_text hmem).elim (absurd · (by decide)) (absurd · (by decide))
      have hpoint : '.' ∈ p.text := List.mem_append_right _ List.mem_cons_self
      rw [Binary64.unsigned_finite hinf, hp, if_neg he, if_pos hpoint]
      rfl

/-- The characters of a literal show its form. -/
theorem ofChars_render (v : Value) : LiteralForm.ofChars v.render.toList = v.form := by
  cases v with
  | null => decide
  | integer n => exact form_integer n
  | real x => exact form_real x
  | text s => rw [render, String.toList_ofList]; rfl
  | blob bytes => rw [render, String.toList_ofList]; rfl

/-! ## Literals of one form -/

theorem integer_eq_of_render {n m : Int64} (h : (integer n).render = (integer m).render) :
    n = m := by
  have hstarts (n : Int64) : StartsWithDigit (Nat.toDigits 10 n.toInt.natAbs) :=
    startsWithDigit_of_all (by simp) fun c => Nat.isDigit_of_mem_toDigits (by decide) (by decide)
  rw [← String.toList_inj, render_integer, render_integer] at h
  obtain ⟨hsign, hdigits⟩ := signed_inj (hstarts n) (hstarts m) h
  have habs := congrArg (Nat.ofDigitChars 10 · 0) hdigits
  simp only [Nat.ofDigitChars_ten_toDigits] at habs
  rw [decide_eq_decide] at hsign
  exact Int64.toInt_inj.mp (by omega)

/-- A real that is not a NaN is known by its text: an infinity by its sign, any other by its sign
and its digits. -/
theorem real_eq_of_render {x y : Binary64} (hx : x.isNaN = false) (hy : y.isNaN = false)
    (hform : x.isInfinite = y.isInfinite) (h : (real x).render = (real y).render) : x = y := by
  change x.render = y.render at h
  rw [← String.toList_inj, Binary64.render_eq_signed hx, Binary64.render_eq_signed hy] at h
  obtain ⟨hsign, hdigits⟩ :=
    signed_inj x.startsWithDigit_unsigned y.startsWithDigit_unsigned h
  refine Binary64.eq_of_rank_eq hsign ?_
  cases hinf : x.isInfinite with
  | true =>
    rw [Binary64.rank_infinite hinf, Binary64.rank_infinite (hform ▸ hinf)]
  | false =>
    rw [Binary64.unsigned_finite hinf, Binary64.unsigned_finite (hform ▸ hinf)] at hdigits
    exact Binary64.rank_eq_of_positional_eq hdigits

theorem text_eq_of_render {s t : String} (h : (text s).render = (text t).render) : s = t := by
  have hs := readText_render s [] (by simp)
  have ht := readText_render t [] (by simp)
  rw [h, ht] at hs
  exact (congrArg Prod.fst (Option.some.inj hs)).symm

theorem blob_eq_of_render {bs cs : List UInt8} (h : (blob bs).render = (blob cs).render) :
    bs = cs := by
  have hb := readBlob_render bs []
  rw [h, readBlob_render cs []] at hb
  exact (congrArg Prod.fst (Option.some.inj hb)).symm

theorem render_of_writtenNull {v : Value} (h : v.writtenNull = true) : v.render = "NULL" := by
  cases v with
  | null => rfl
  | real x => exact Binary64.render_nan h
  | integer | text | blob => cases h

/-- A value that is not written as NULL is known by its text. -/
theorem eq_of_render_eq {a b : Value} (hnull : a.writtenNull = false) (h : a.render = b.render) :
    a = b := by
  -- Equal texts show one form, so only values of the same form are left to compare.
  have hform : a.form = b.form := by rw [← ofChars_render, h, ofChars_render]
  cases a <;> cases b
  case integer.integer n m => rw [integer_eq_of_render h]
  case real.real x y =>
    have hx : x.isNaN = false := hnull
    obtain ⟨hy, hinf⟩ : y.isNaN = false ∧ x.isInfinite = y.isInfinite := by grind [form]
    rw [real_eq_of_render hx hy hinf h]
  case text.text s t => rw [text_eq_of_render h]
  case blob.blob bytes bytes' => rw [blob_eq_of_render h]
  all_goals grind [form, writtenNull]

end Value

/-! ## Reading back -/

/-- A text is read back from the front of what follows it, as long as no quote follows, and so is a
run of bytes. Two values have the same text only if they are equal, or if each of them is NULL or a
NaN. -/
theorem literals_read_back :
    (∀ (s : String) (rest : List Char), rest.head? ≠ some '\x27' →
      readText ((Value.text s).render.toList ++ rest) = some (s, rest)) ∧
    (∀ (bytes : List UInt8) (rest : List Char),
      readBlob ((Value.blob bytes).render.toList ++ rest) = some (bytes, rest)) ∧
    ∀ a b : Value, a.render = b.render ↔ a = b ∨ a.writtenNull = true ∧ b.writtenNull = true := by
  refine ⟨readText_render, readBlob_render, fun a b => ⟨fun h => ?_, ?_⟩⟩
  · cases ha : a.writtenNull with
    | false => exact .inl (Value.eq_of_render_eq ha h)
    | true =>
      cases hb : b.writtenNull with
      | false => exact .inl (Value.eq_of_render_eq hb h.symm).symm
      | true => exact .inr ⟨rfl, rfl⟩
  · rintro (rfl | ⟨ha, hb⟩)
    · rfl
    · rw [Value.render_of_writtenNull ha, Value.render_of_writtenNull hb]

/-- A text of quotes only with a comma after it, the two zeros, the real and the integer one, and the
real that is not a number. -/
theorem literals_read_back_quotes :
    readText ((Value.text "\x27\x27").render.toList ++ [',']) = some ("\x27\x27", [',']) ∧
      (Value.real ⟨0⟩).render ≠ (Value.real ⟨0x8000000000000000⟩).render ∧
      (Value.real ⟨0x3FF0000000000000⟩).render ≠ (Value.integer 1).render ∧
      (Value.real ⟨0x7FF8000000000000⟩).render = Value.null.render := by
  obtain ⟨htext, -, hvalues⟩ := literals_read_back
  refine ⟨htext _ _ (by decide), ?_, ?_, (hvalues _ _).mpr (.inr (by decide))⟩
  · exact fun h => absurd ((hvalues _ _).mp h) (by decide)
  · exact fun h => absurd ((hvalues _ _).mp h) (by decide)

end SqlTree
