import SqlTree.Number.Binary64

/-! # The shortest decimal of a number

Of the decimals that read back as a number the one with the fewest digits is written; of two, the
one nearer to it, and the larger if they are equally near. -/

namespace SqlTree

/-- A power of ten. -/
def tenTo (n : Nat) : Nat := Nat.pow 10 n

/-- The decimal `digits * 10 ^ exponent`. -/
structure Decimal where
  digits : Nat
  exponent : Int
deriving DecidableEq

namespace Decimal

/-- The decimal in units of 2 ^ -1075 is `units / parts`. -/
def units (d : Decimal) : Nat := (d.digits * tenTo d.exponent.toNat) <<< 1075

def parts (d : Decimal) : Nat := tenTo (-d.exponent).toNat

/-- The decimal reads back as the magnitude of `x`: it lies between the half-way points, which
belong to the number with the even significand. -/
def readsAs (d : Decimal) (x : Binary64) : Bool :=
  if x.significand % 2 = 0 then x.lower * d.parts ≤ d.units && d.units ≤ x.upper * d.parts
  else x.lower * d.parts < d.units && d.units < x.upper * d.parts

/-! ## Positional notation -/

/-- Drops up to `n` zeros at the end of a number of tenths, hundredths, …; the count is what is
left of the places. -/
def dropZeros : Nat → Nat → Nat × Nat
  | digits, 0 => (digits, 0)
  | digits, n + 1 => if digits % 10 = 0 then dropZeros (digits / 10) n else (digits, n + 1)

/-- The digits with a point before the last `places` of them, at least one digit on either side. -/
def withPoint (digits places : Nat) : List Char :=
  let (digits, places) := dropZeros digits places
  if places = 0 then Nat.toDigits 10 digits ++ ['.', '0']
  else
    let ds := Nat.toDigits 10 digits
    let ds := List.replicate (places + 1 - ds.length) '0' ++ ds
    ds.take (ds.length - places) ++ '.' :: ds.drop (ds.length - places)

/-- The decimal without an exponent, and always with a point. -/
def positional (d : Decimal) : List Char :=
  withPoint (d.digits * tenTo d.exponent.toNat) (-d.exponent).toNat

end Decimal

namespace Binary64

/-- The decimal exponent of the digit before the first one: the magnitude is below `10 ^ ceiling`,
and at least a tenth of it. -/
def ceiling (x : Binary64) : Int :=
  (Nat.toDigits 10 ((x.magnitude * tenTo 400) >>> 1075)).length - 400

/-- The largest decimal of `n` digits that is not above the magnitude. -/
def floorDecimal (x : Binary64) (n : Nat) : Decimal :=
  let e := x.ceiling - n
  ⟨x.magnitude * tenTo (-e).toNat / (tenTo e.toNat <<< 1075), e⟩

/-- Of the decimals of `n` digits around the magnitude, the one to write, if one reads back. -/
def decimalOfLength? (x : Binary64) (n : Nat) : Option Decimal :=
  let below := x.floorDecimal n
  let above : Decimal := ⟨below.digits + 1, below.exponent⟩
  let aboveIsNearer := below.units + above.units ≤ 2 * x.magnitude * below.parts
  if above.readsAs x && (aboveIsNearer || !below.readsAs x) then some above
  else if below.readsAs x then some below
  else none

/-- The magnitude in full: every number has a finite decimal. -/
def exactDecimal (x : Binary64) : Decimal := ⟨x.magnitude * Nat.pow 5 1075, -1075⟩

/-- The shortest decimal that reads back as the magnitude. Seventeen digits always suffice. -/
def shortest (x : Binary64) : Decimal :=
  ((List.range 17).findSome? fun i => x.decimalOfLength? (i + 1)).getD x.exactDecimal

end Binary64

end SqlTree
