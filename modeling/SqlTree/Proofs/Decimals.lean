import Mathlib.Algebra.Order.Ring.Nat
import Mathlib.Tactic.Ring
import SqlTree.Number.Shortest
import SqlTree.Proofs.Delimited

/-! # Decimals that read back

The decimals that read as a number lie between the half-way points to its neighbours. Two numbers
share no decimal: neighbours meet at a half-way point, and it belongs to the one of the two with the
even significand. So the decimal that is written for a number tells which number it is. -/

namespace SqlTree

namespace Binary64

/-! ## The parts of a number -/

theorem exponent_eq (x : Binary64) : x.exponent = x.bits.toNat / 2 ^ 52 % 2048 := by
  rw [exponent, Nat.shiftRight_eq_div_pow]

theorem fraction_eq (x : Binary64) : x.fraction = x.bits.toNat % 2 ^ 52 := by
  rw [fraction, Nat.one_shiftLeft]

theorem isNegative_iff {x : Binary64} : x.isNegative = true ↔ x.bits.toNat / 2 ^ 63 = 1 := by
  rw [isNegative, decide_eq_true_iff, Nat.shiftRight_eq_div_pow]

theorem fraction_lt (x : Binary64) : x.fraction < 2 ^ 52 := by
  rw [fraction_eq]
  exact Nat.mod_lt _ (Nat.two_pow_pos 52)

/-- The place of a magnitude among all magnitudes, in rising order. -/
def rank (x : Binary64) : Nat := x.exponent * 2 ^ 52 + x.fraction

theorem rank_eq (x : Binary64) : x.rank = x.bits.toNat % 2 ^ 63 := by
  rw [rank, exponent_eq, fraction_eq]
  omega

theorem rank_lt (x : Binary64) : x.rank < 2 ^ 63 := by
  rw [rank_eq]
  exact Nat.mod_lt _ (Nat.two_pow_pos 63)

theorem eq_of_rank_eq {x y : Binary64} (hsign : x.isNegative = y.isNegative)
    (hrank : x.rank = y.rank) : x = y := by
  have hx := x.bits.toNat_lt
  have hy := y.bits.toNat_lt
  rw [rank_eq, rank_eq] at hrank
  rw [Bool.eq_iff_iff, isNegative_iff, isNegative_iff] at hsign
  have hbits : x.bits.toNat = y.bits.toNat := by omega
  cases x
  cases y
  exact congrArg mk (UInt64.toNat_inj.mp hbits)

/-- The number without a sign at a place among the magnitudes. -/
def ofRank (n : Nat) : Binary64 := ⟨UInt64.ofNat n⟩

theorem rank_ofRank {n : Nat} (h : n < 2 ^ 63) : (ofRank n).rank = n := by
  have hbits : (ofRank n).bits.toNat = n := UInt64.toNat_ofNat_of_lt (show n < 2 ^ 64 by omega)
  rw [rank_eq, hbits, Nat.mod_eq_of_lt h]

/-! ## Half-way points -/

theorem significand_eq (x : Binary64) :
    x.significand = if x.exponent = 0 then x.fraction else 2 ^ 52 + x.fraction := by
  rw [significand, Nat.one_shiftLeft]

theorem significand_mod_two (x : Binary64) : x.significand % 2 = x.rank % 2 := by
  rw [significand_eq, rank]
  split <;> omega

theorem upper_eq (x : Binary64) : x.upper = (2 * x.significand + 1) * 2 ^ x.scale := by
  rw [upper, Nat.shiftLeft_eq]

/-- Where neighbours stand twice as close on one side, and elsewhere. -/
theorem lower_eq (x : Binary64) :
    x.lower = if x.fraction = 0 ∧ 1 < x.exponent then (4 * x.significand - 1) * 2 ^ (x.scale - 1)
      else (2 * x.significand - 1) * 2 ^ x.scale := by
  rw [lower, Nat.shiftLeft_eq, Nat.shiftLeft_eq]

/-- A number and the next one meet half-way. -/
theorem upper_eq_lower {x y : Binary64} (h : y.rank = x.rank + 1) : x.upper = y.lower := by
  have hx := x.fraction_lt
  have hy := y.fraction_lt
  rw [rank, rank] at h
  rw [upper_eq, lower_eq, significand_eq, significand_eq, scale, scale]
  by_cases hcarry : x.fraction + 1 = 2 ^ 52
  · obtain ⟨hexponent, hfraction⟩ : y.exponent = x.exponent + 1 ∧ y.fraction = 0 := by omega
    rw [hexponent, hfraction]
    by_cases hsub : x.exponent = 0
    · simp only [hsub]
      norm_num
      omega
    · have hnormal : x.exponent - 1 = x.exponent + 1 - 1 - 1 := by omega
      rw [if_neg hsub, if_pos ⟨rfl, by omega⟩, if_neg (by omega), hnormal]
      congr 1
      omega
  · obtain ⟨hexponent, hfraction⟩ : y.exponent = x.exponent ∧ y.fraction = x.fraction + 1 := by
      omega
    have hplain : ¬ (y.fraction = 0 ∧ 1 < y.exponent) := by omega
    rw [if_neg hplain, hexponent, hfraction]
    congr 1
    split <;> omega

theorem magnitude_eq (x : Binary64) : x.magnitude = 2 * x.significand * 2 ^ x.scale := by
  rw [magnitude, Nat.shiftLeft_eq]

theorem magnitude_lt_upper (x : Binary64) : x.magnitude < x.upper := by
  rw [magnitude_eq, upper_eq]
  exact Nat.mul_lt_mul_of_pos_right (by omega) (Nat.two_pow_pos _)

theorem lower_lt_magnitude {x : Binary64} (h : x.significand ≠ 0) : x.lower < x.magnitude := by
  rw [magnitude_eq, lower_eq]
  split
  next hpower =>
    have hscale : x.scale = x.scale - 1 + 1 := by
      rw [scale]
      omega
    rw [hscale, Nat.pow_succ]
    calc (4 * x.significand - 1) * 2 ^ (x.scale - 1)
        < (4 * x.significand) * 2 ^ (x.scale - 1) :=
          Nat.mul_lt_mul_of_pos_right (by omega) (Nat.two_pow_pos _)
      _ = 2 * x.significand * (2 ^ (x.scale - 1) * 2) := by ring
  next => exact Nat.mul_lt_mul_of_pos_right (by omega) (Nat.two_pow_pos _)

theorem lower_le_magnitude (x : Binary64) : x.lower ≤ x.magnitude := by
  by_cases h : x.significand = 0
  · rw [lower_eq, h]
    split <;> simp
  · exact (lower_lt_magnitude h).le

theorem lower_lt_upper (x : Binary64) : x.lower < x.upper :=
  Nat.lt_of_le_of_lt x.lower_le_magnitude x.magnitude_lt_upper

/-- What reads as a number is not above what reads as a greater one. -/
theorem upper_le_lower {x y : Binary64} (h : x.rank < y.rank) : x.upper ≤ y.lower := by
  obtain ⟨k, hk⟩ := Nat.exists_eq_add_of_lt h
  induction k generalizing y with
  | zero => exact (upper_eq_lower hk).le
  | succ k ih =>
    -- By way of the number just before `y`.
    have hy := y.rank_lt
    have hz := rank_ofRank (show x.rank + k + 1 < 2 ^ 63 by omega)
    calc x.upper ≤ (ofRank (x.rank + k + 1)).lower := ih (by omega) hz
      _ ≤ (ofRank (x.rank + k + 1)).upper := (lower_lt_upper _).le
      _ = y.lower := upper_eq_lower (by omega)

theorem upper_lt_lower {x y : Binary64} (h : x.rank + 1 < y.rank) : x.upper < y.lower := by
  have hy := y.rank_lt
  have hz := rank_ofRank (show x.rank + 1 < 2 ^ 63 by omega)
  calc x.upper = (ofRank (x.rank + 1)).lower := upper_eq_lower hz
    _ < (ofRank (x.rank + 1)).upper := lower_lt_upper _
    _ ≤ y.lower := upper_le_lower (by omega)

end Binary64

namespace Decimal

/-! ## Reading a decimal -/

theorem tenTo_eq (n : Nat) : tenTo n = 10 ^ n := rfl

theorem parts_pos (d : Decimal) : 0 < d.parts := Nat.pow_pos (by decide)

theorem readsAs_iff {d : Decimal} {x : Binary64} :
    d.readsAs x = true ↔ x.lower * d.parts ≤ d.units ∧ d.units ≤ x.upper * d.parts ∧
      (x.significand % 2 = 1 → x.lower * d.parts ≠ d.units ∧ d.units ≠ x.upper * d.parts) := by
  unfold readsAs
  split <;> simp only [Bool.and_eq_true, decide_eq_true_iff] <;> omega

theorem not_readsAs_both {d : Decimal} {x y : Binary64} (h : x.rank < y.rank)
    (hx : d.readsAs x = true) : d.readsAs y = false := by
  rw [← Bool.not_eq_true]
  intro hy
  obtain ⟨-, hupper, hodd⟩ := readsAs_iff.mp hx
  obtain ⟨hlower, -, hodd'⟩ := readsAs_iff.mp hy
  by_cases hnext : y.rank = x.rank + 1
  · -- Both would take the point where they meet, but one of the two is odd.
    rw [Binary64.upper_eq_lower hnext] at hupper hodd
    have hparity := x.significand_mod_two
    have hparity' := y.significand_mod_two
    have hmeet : y.lower * d.parts = d.units := Nat.le_antisymm hlower hupper
    by_cases hxodd : x.significand % 2 = 1
    · exact (hodd hxodd).2 hmeet.symm
    · exact (hodd' (by omega)).1 hmeet
  · have hgap : x.upper < y.lower := Binary64.upper_lt_lower (by omega)
    have hcross := Nat.mul_lt_mul_of_pos_right hgap d.parts_pos
    omega

/-- A decimal reads as one magnitude only. -/
theorem rank_eq_of_readsAs {d : Decimal} {x y : Binary64} (hx : d.readsAs x = true)
    (hy : d.readsAs y = true) : x.rank = y.rank := by
  rcases Nat.lt_trichotomy x.rank y.rank with hlt | heq | hgt
  · exact absurd hy (by rw [not_readsAs_both hlt hx]; decide)
  · exact heq
  · exact absurd hx (by rw [not_readsAs_both hgt hy]; decide)

/-- The two decimals are the same number. -/
def SameValue (d e : Decimal) : Prop := d.units * e.parts = e.units * d.parts

theorem SameValue.readsAs {d e : Decimal} (h : SameValue d e) {x : Binary64}
    (hd : d.readsAs x = true) : e.readsAs x = true := by
  have hdpos := d.parts_pos
  have hepos := e.parts_pos
  -- Compare over both denominators at once.
  have hle (a : Nat) : a * d.parts ≤ d.units ↔ a * e.parts ≤ e.units :=
    calc a * d.parts ≤ d.units
      _ ↔ a * d.parts * e.parts ≤ d.units * e.parts := (Nat.mul_le_mul_right_iff hepos).symm
      _ ↔ a * e.parts * d.parts ≤ e.units * d.parts := by rw [h, Nat.mul_right_comm]
      _ ↔ a * e.parts ≤ e.units := Nat.mul_le_mul_right_iff hdpos
  have hge (a : Nat) : d.units ≤ a * d.parts ↔ e.units ≤ a * e.parts :=
    calc d.units ≤ a * d.parts
      _ ↔ d.units * e.parts ≤ a * d.parts * e.parts := (Nat.mul_le_mul_right_iff hepos).symm
      _ ↔ e.units * d.parts ≤ a * e.parts * d.parts := by rw [h, Nat.mul_right_comm]
      _ ↔ e.units ≤ a * e.parts := Nat.mul_le_mul_right_iff hdpos
  have heq (a : Nat) : a * d.parts = d.units ↔ a * e.parts = e.units := by
    rw [Nat.le_antisymm_iff, Nat.le_antisymm_iff, hle, hge]
  obtain ⟨hlower, hupper, hodd⟩ := readsAs_iff.mp hd
  refine readsAs_iff.mpr ⟨(hle _).mp hlower, (hge _).mp hupper, fun hx => ?_⟩
  obtain ⟨hne, hne'⟩ := hodd hx
  exact ⟨fun h => hne ((heq _).mpr h), fun h => hne' ((heq _).mpr h.symm).symm⟩

/-! ## Positional notation -/

theorem dropZeros_value (digits places : Nat) :
    digits * 10 ^ (dropZeros digits places).2 = (dropZeros digits places).1 * 10 ^ places := by
  fun_induction dropZeros digits places with
  | case1 digits => rfl
  | case2 digits n hzero ih =>
    have hdigits : digits = digits / 10 * 10 := by omega
    rw [Nat.pow_succ, ← Nat.mul_assoc, ← ih, Nat.mul_right_comm, ← hdigits]
  | case3 digits n => rfl

/-- Digits, a point and digits. -/
structure Numeral where
  before : List Char
  after : List Char
  nonempty : before ≠ []
  digits : ∀ c ∈ before ++ after, c.isDigit = true

namespace Numeral

def text (p : Numeral) : List Char := p.before ++ '.' :: p.after

/-- The digits as a whole number, and the count of those after the point. -/
def value (p : Numeral) : Decimal :=
  ⟨Nat.ofDigitChars 10 (p.before ++ p.after) 0, -p.after.length⟩

theorem dot_not_mem (p : Numeral) : '.' ∉ p.before := fun hmem =>
  absurd (p.digits '.' (List.mem_append_left _ hmem)) (by decide)

/-- The point stands where the first digits end, so the text tells the value. -/
theorem value_eq_of_text_eq {p p' : Numeral} (h : p.text = p'.text) : p.value = p'.value := by
  obtain ⟨hbefore, hafter⟩ := (append_end_inj p.dot_not_mem p'.dot_not_mem).mp h
  rw [value, value, hbefore, hafter]

theorem mem_text {p : Numeral} {c : Char} (h : c ∈ p.text) : c.isDigit = true ∨ c = '.' := by
  rcases List.mem_append.mp h with h | h
  · exact .inl (p.digits c (List.mem_append_left _ h))
  · rcases List.mem_cons.mp h with h | h
    · exact .inr h
    · exact .inl (p.digits c (List.mem_append_right _ h))

/-- Digits with a point before the last `places` of them. -/
def ofPlaces (ds : List Char) (places : Nat) (h : places < ds.length)
    (hdigits : ∀ c ∈ ds, c.isDigit = true) : Numeral where
  before := ds.take (ds.length - places)
  after := ds.drop (ds.length - places)
  nonempty := List.ne_nil_of_length_pos (by rw [List.length_take]; omega)
  digits := by rwa [List.take_append_drop]

theorem digits_ofPlaces {ds : List Char} {places : Nat} (h : places < ds.length)
    (hdigits : ∀ c ∈ ds, c.isDigit = true) :
    (ofPlaces ds places h hdigits).value.digits = Nat.ofDigitChars 10 ds 0 :=
  congrArg (Nat.ofDigitChars 10 · 0) (List.take_append_drop _ ds)

theorem length_after_ofPlaces {ds : List Char} {places : Nat} (h : places < ds.length)
    (hdigits : ∀ c ∈ ds, c.isDigit = true) :
    (ofPlaces ds places h hdigits).after.length = places := by
  rw [ofPlaces, List.length_drop]
  omega

end Numeral

/-- Digits with zeros in front, so that there are at least `length` of them. -/
def padded (length digits : Nat) : List Char :=
  List.replicate (length - (Nat.toDigits 10 digits).length) '0' ++ Nat.toDigits 10 digits

theorem le_length_padded (length digits : Nat) : length ≤ (padded length digits).length := by
  rw [padded, List.length_append, List.length_replicate]
  omega

theorem ofDigitChars_padded (length digits : Nat) :
    Nat.ofDigitChars 10 (padded length digits) 0 = digits := by
  rw [padded, Nat.ofDigitChars_append, Nat.ofDigitChars_replicate_zero, Nat.mul_zero,
    Nat.ofDigitChars_ten_toDigits]

theorem isDigit_of_mem_padded {length digits : Nat} {c : Char} (h : c ∈ padded length digits) :
    c.isDigit = true := by
  rcases List.mem_append.mp h with h | h
  · rw [List.eq_of_mem_replicate h]
    decide
  · exact Nat.isDigit_of_mem_toDigits (by decide) (by decide) h

/-- The number `digits / 10 ^ places` is written as digits with a point, of the same value. -/
theorem exists_withPoint (digits places : Nat) : ∃ p : Numeral, withPoint digits places = p.text ∧
    p.value.digits * 10 ^ places = digits * 10 ^ p.after.length := by
  have hvalue := dropZeros_value digits places
  unfold withPoint
  generalize dropZeros digits places = kept at hvalue ⊢
  obtain ⟨digits', places'⟩ := kept
  dsimp only at hvalue ⊢
  split
  next hzero =>
    -- No digits are left after the point, so one zero is written there.
    refine ⟨⟨Nat.toDigits 10 digits', ['0'], Nat.toDigits_ne_nil, ?_⟩, rfl, ?_⟩
    · intro c hc
      rcases List.mem_append.mp hc with hc | hc
      · exact Nat.isDigit_of_mem_toDigits (by decide) (by decide) hc
      · rw [List.mem_singleton.mp hc]
        decide
    · have hread : Nat.ofDigitChars 10 (Nat.toDigits 10 digits' ++ ['0']) 0 = 10 * digits' := by
        rw [Nat.ofDigitChars_append, Nat.ofDigitChars_ten_toDigits]
        rfl
      rw [hzero, Nat.pow_zero, Nat.mul_one] at hvalue
      rw [Numeral.value, hread, hvalue, List.length_singleton, Nat.pow_one]
      ring
  next =>
    have hlength : places' < (padded (places' + 1) digits').length := le_length_padded _ _
    refine ⟨.ofPlaces (padded (places' + 1) digits') places' hlength fun c => isDigit_of_mem_padded,
      rfl, ?_⟩
    rw [Numeral.digits_ofPlaces, ofDigitChars_padded, Numeral.length_after_ofPlaces, hvalue]

-- For any number of places: with a literal for `k` the powers would be computed.
theorem shiftLeft_mul_comm (a b k : Nat) : a <<< k * b = (a * b) <<< k := by
  rw [Nat.shiftLeft_eq, Nat.shiftLeft_eq, Nat.mul_right_comm]

/-- A decimal in positional notation is digits with a point, of the same value. -/
theorem exists_positional (d : Decimal) :
    ∃ p : Numeral, d.positional = p.text ∧ SameValue d p.value := by
  obtain ⟨p, htext, hvalue⟩ :=
    exists_withPoint (d.digits * tenTo d.exponent.toNat) (-d.exponent).toNat
  refine ⟨p, htext, ?_⟩
  have hexponent : p.value.exponent.toNat = 0 := Int.toNat_neg_natCast _
  have hplaces : (-p.value.exponent).toNat = p.after.length := by
    rw [Numeral.value, Int.neg_neg, Int.toNat_natCast]
  unfold SameValue units parts
  rw [hexponent, hplaces, shiftLeft_mul_comm, shiftLeft_mul_comm, tenTo_eq p.after.length, ← hvalue,
    tenTo_eq 0, Nat.pow_zero, Nat.mul_one, tenTo_eq]

end Decimal

namespace Binary64

/-! ## The decimal that is written -/

/-- The exact magnitude reads as the number. -/
theorem readsAs_of_units_eq {x : Binary64} {d : Decimal} (h : d.units = x.magnitude * d.parts) :
    d.readsAs x = true := by
  have hpos := d.parts_pos
  rw [Decimal.readsAs_iff, h]
  refine ⟨Nat.mul_le_mul_right _ x.lower_le_magnitude,
    Nat.mul_le_mul_right _ x.magnitude_lt_upper.le, fun hodd => ⟨?_, ?_⟩⟩
  · have hlt : x.lower < x.magnitude := lower_lt_magnitude (by omega)
    exact (Nat.mul_lt_mul_of_pos_right hlt hpos).ne
  · exact (Nat.mul_lt_mul_of_pos_right x.magnitude_lt_upper hpos).ne

theorem shiftLeft_pow_five (m k : Nat) : (m * Nat.pow 5 k) <<< k = m * tenTo k := by
  rw [Nat.shiftLeft_eq, Nat.pow_eq, Nat.mul_assoc, ← Nat.mul_pow, Decimal.tenTo_eq]

theorem exactDecimal_readsAs (x : Binary64) : x.exactDecimal.readsAs x = true := by
  refine readsAs_of_units_eq ?_
  unfold Decimal.units Decimal.parts exactDecimal
  rw [show (-1075 : Int).toNat = 0 from rfl, show (- -1075 : Int).toNat = 1075 from rfl,
    Decimal.tenTo_eq 0, Nat.pow_zero, Nat.mul_one]
  generalize 1075 = k
  exact shiftLeft_pow_five x.magnitude k

theorem decimalOfLength?_readsAs {x : Binary64} {n : Nat} {d : Decimal}
    (h : x.decimalOfLength? n = some d) : d.readsAs x = true := by
  unfold decimalOfLength? at h
  dsimp only at h
  split at h
  next habove =>
    obtain rfl := Option.some.inj h
    exact ((Bool.and_eq_true _ _).mp habove).1
  next =>
    split at h
    next hbelow =>
      obtain rfl := Option.some.inj h
      exact hbelow
    next => cases h

theorem shortest_readsAs (x : Binary64) : x.shortest.readsAs x = true := by
  unfold shortest
  cases hfind : (List.range 17).findSome? fun i => x.decimalOfLength? (i + 1) with
  | none => exact x.exactDecimal_readsAs
  | some d =>
    obtain ⟨i, -, hi⟩ := List.exists_of_findSome?_eq_some hfind
    exact decimalOfLength?_readsAs hi

/-- The digits that are written tell the magnitude. -/
theorem rank_eq_of_positional_eq {x y : Binary64}
    (h : x.shortest.positional = y.shortest.positional) : x.rank = y.rank := by
  obtain ⟨p, hp, hvalue⟩ := x.shortest.exists_positional
  obtain ⟨p', hp', hvalue'⟩ := y.shortest.exists_positional
  have hsame : p.value = p'.value :=
    Decimal.Numeral.value_eq_of_text_eq (by rw [← hp, h, hp'])
  have hx := hvalue.readsAs x.shortest_readsAs
  have hy := hvalue'.readsAs y.shortest_readsAs
  rw [← hsame] at hy
  exact Decimal.rank_eq_of_readsAs hx hy

end Binary64

end SqlTree
