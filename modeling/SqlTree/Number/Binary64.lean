/-! # Binary floating point

A number is given by its 64 bits: a sign, an exponent of 11 bits and a fraction of 52. Magnitudes
are counted in units of 2 ^ -1075, half of the smallest number, so that every number and every
point half-way between two neighbours is a natural number of units. -/

namespace SqlTree

/-- A floating-point number, told from others by its bits. -/
structure Binary64 where
  bits : UInt64
deriving DecidableEq

namespace Binary64

def isNegative (x : Binary64) : Bool := x.bits.toNat >>> 63 = 1

def exponent (x : Binary64) : Nat := (x.bits.toNat >>> 52) % 2048

def fraction (x : Binary64) : Nat := x.bits.toNat % (1 <<< 52)

def isNaN (x : Binary64) : Bool := x.exponent = 2047 && x.fraction ≠ 0

def isInfinite (x : Binary64) : Bool := x.exponent = 2047 && x.fraction = 0

/-- The whole number that the exponent scales: below exponent 1 there is no leading bit. -/
def significand (x : Binary64) : Nat :=
  if x.exponent = 0 then x.fraction else (1 <<< 52) + x.fraction

/-- How far the significand is scaled; exponents 0 and 1 scale alike. -/
def scale (x : Binary64) : Nat := x.exponent - 1

/-- The magnitude in units. -/
def magnitude (x : Binary64) : Nat := (2 * x.significand) <<< x.scale

/-- Half-way to the next number away from zero, in units. -/
def upper (x : Binary64) : Nat := (2 * x.significand + 1) <<< x.scale

/-- Half-way to the next number toward zero, in units. Below a power of two the neighbours stand
twice as close. -/
def lower (x : Binary64) : Nat :=
  if x.fraction = 0 ∧ 1 < x.exponent then (4 * x.significand - 1) <<< (x.scale - 1)
  else (2 * x.significand - 1) <<< x.scale

end Binary64

end SqlTree
