import SqlTree.Blueprint.Reader

/-! # Reading choices from bytes

A reader of choices that takes small numbers, words and texts from a run of bytes. Numbers come from
the front and lengths from the back; where the bytes run out, zeros are read. -/

namespace SqlTree

/-- Why a choice cannot be made: there is nothing to choose from. -/
inductive ReadError
  | emptyChoose

/-- A computation that takes bytes from a run. -/
abbrev ByteReader := Reading (List UInt8) ReadError

namespace ByteReader

/-- Takes up to `n` bytes from the front. -/
def take (n : Nat) : ByteReader (List UInt8) := fun bytes => .ok (bytes.take n, bytes.drop n)

/-- The number with the given bytes, the first one counting most. -/
def bigEndian (bytes : List UInt8) : Nat := bytes.foldl (fun acc b => acc * 256 + b.toNat) 0

/-- The number with the given bytes, the first one counting least. -/
def littleEndian (bytes : List UInt8) : Nat := bytes.foldr (fun b acc => b.toNat + acc * 256) 0

/-- A number from `low` to `high`, read from one byte; there are at most 256 of them. -/
def inRange (low high : Nat) : ByteReader Nat := do
  return low + bigEndian (← take 1) % (high - low + 1)

/-- An item of a list. -/
def choose {α : Type} : List α → ByteReader α
  | [] => throw .emptyChoose
  | first :: rest => do return ((first :: rest)[← inRange 0 rest.length]?).getD first

/-- True in `part` of `whole` cases. -/
def ratio (part whole : Nat) : ByteReader Bool := do
  return (← inRange 1 whole) ≤ part

/-- The lowest bit of one byte. -/
def bool : ByteReader Bool := do return littleEndian (← take 1) % 2 = 1

/-- An integer of eight bytes. -/
def int64 : ByteReader Int64 := do return Int64.ofNat (littleEndian (← take 8))

/-- An integer, if a first bit says so. -/
def int64? : ByteReader (Option Int64) := do
  if ← bool then return some (← int64) else return none

/-- A place in a list of `n` items, from a word of four bytes scaled down. -/
def ordinal (n : Nat) : ByteReader Nat := do return (littleEndian (← take 4) * n) >>> 32

def joinKind : ByteReader JoinKind := do
  return (JoinKind.all[← ordinal JoinKind.all.length]?).getD default

/-- The size of a text, at most the number of bytes that are left. It is read from the last byte,
or the last two where more than 256 are left. -/
def size : ByteReader Nat := fun bytes =>
  match bytes.length with
  | 0 => .ok (0, [])
  | 1 => .ok (0, [])
  | n =>
    let m := if n ≤ 256 then n - 1 else n - 2
    let last := bytes.drop m
    let number := if 256 < n ∧ m ≤ 255 then bigEndian (last.take 1) else bigEndian last
    .ok (number % (m + 1), bytes.take m)

/-- The characters at the front that are well encoded, and how many bytes they take. -/
def decodeUtf8 : Nat → List UInt8 → List Char × Nat
  | 0, _ => ([], 0)
  | fuel + 1, bytes =>
    match ByteArray.utf8DecodeChar? (bytes.take 4).toByteArray 0 with
    | none => ([], 0)
    | some c =>
      let (cs, n) := decodeUtf8 fuel (bytes.drop c.utf8Size)
      (c :: cs, c.utf8Size + n)

/-- A text: of as many bytes as its size says, those that are well encoded up to the first fault. -/
def text : ByteReader String := do
  let n ← size
  let bytes := (← get).take n
  let (cs, used) := decodeUtf8 n bytes
  let _ ← take used
  return String.ofList cs

instance : ChoiceReader (List UInt8) ReadError where
  start := id
  bool := bool
  ratio := ratio
  inRange := inRange
  choose := choose
  text := text
  int64? := int64?
  joinKind := joinKind

end ByteReader

end SqlTree
