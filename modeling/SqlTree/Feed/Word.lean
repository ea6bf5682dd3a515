/-! # Words fed to a hash

The hash of a value is computed from a sequence of words. A text is fed as its bytes and a byte
that occurs in no text, a list as its length and its items, a choice as its number and what
belongs to it. -/

namespace SqlTree

inductive Word
  | byte (b : UInt8)
  | count (n : Nat)
  | integer (n : Int64)
  | bits (n : UInt64)
  | flag (b : Bool)
deriving DecidableEq

namespace Feed

def text (s : String) : List Word :=
  (s.toList.flatMap String.utf8EncodeChar).map Word.byte ++ [.byte 0xFF]

def list {α : Type} (feed : α → List Word) (as : List α) : List Word :=
  .count as.length :: as.flatMap feed

def option {α : Type} (feed : α → List Word) : Option α → List Word
  | none => [.count 0]
  | some a => .count 1 :: feed a

end Feed

end SqlTree
