import SqlTree.Text.PrintTable
import SqlTree.Text.Ranges

/-! # Quoted texts

Inside double quotes every character can be seen: a quote or a backslash stands after a backslash,
and a character without a picture of its own is written by a letter or by its number. -/

namespace SqlTree.Text

/-- A mark that is drawn onto the character before it. -/
def isMark (c : Char) : Bool := inRanges markRanges c

/-- A letter that keeps a place empty. -/
def isFiller (c : Char) : Bool := inRanges fillerRanges c

/-- A character with a picture, be it an empty one. -/
def isPrintable (c : Char) : Bool := !inRanges unprintableRanges c

/-- A character that is seen for itself, wherever it stands. -/
def isSeen (c : Char) : Bool := isPrintable c && !isMark c && !isFiller c

/-- The character by its number, in lower-case hexadecimal digits between braces. -/
def numberEscape (c : Char) : List Char :=
  ['\\', 'u', '\x7b'] ++ Nat.toDigits 16 c.toNat ++ ['\x7d']

/-- The letter of the short escape of a character that has one. -/
def shortEscape? (c : Char) : Option Char :=
  if c = '\x00' then some '0'
  else if c = '\t' then some 't'
  else if c = '\r' then some 'r'
  else if c = '\n' then some 'n'
  else if c = '\\' ∨ c = '\x22' then some c
  else none

/-- One character inside the quotes. -/
def escapeChar (c : Char) : List Char :=
  match shortEscape? c with
  | some letter => ['\\', letter]
  | none => if isSeen c then [c] else numberEscape c

/-- The text in double quotes. -/
def quoted (s : String) : String :=
  String.ofList ('\x22' :: (s.toList.flatMap escapeChar ++ ['\x22']))

end SqlTree.Text
