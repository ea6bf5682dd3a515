import SqlTree.Number.Shortest

/-! # Literal values

A value is NULL, an integer, a real, a text or a run of bytes. Two reals are the same value if they
have the same bits, so a NaN is itself and the two zeros differ. -/

namespace SqlTree

inductive Value
  | null
  | integer (n : Int64)
  | real (x : Binary64)
  | text (s : String)
  | blob (bytes : List UInt8)
deriving DecidableEq

/-! ## The text of a value -/

/-- A real in positional notation. There is no word for a NaN, so it is written as NULL; an
infinity is written as a number too large to be finite. -/
def Binary64.render (x : Binary64) : String :=
  let sign := if x.isNegative then "-" else ""
  if x.isNaN then "NULL"
  else if x.isInfinite then sign ++ "9e999"
  else sign ++ String.ofList x.shortest.positional

/-- The text between single quotes: a quote inside is written twice. -/
def escapeQuotes (cs : List Char) : List Char :=
  cs.flatMap fun c => if c = '\x27' then ['\x27', '\x27'] else [c]

/-- A byte as two hexadecimal digits. -/
def hexByte (b : UInt8) : List Char :=
  let digit (n : Nat) : Char := Char.ofNat (if n < 10 then 48 + n else 55 + n)
  [digit (b.toNat / 16), digit (b.toNat % 16)]

def Value.render : Value → String
  | null => "NULL"
  | integer n => toString n.toInt
  | real x => x.render
  | text s => String.ofList ('\x27' :: (escapeQuotes s.toList ++ ['\x27']))
  | blob bytes => String.ofList ('X' :: '\x27' :: (bytes.flatMap hexByte ++ ['\x27']))

end SqlTree
