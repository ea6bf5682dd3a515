import SqlTree.Text.CaseTable
import SqlTree.Text.Ranges

/-! # Lower case

A character becomes the characters of its lower case. In a whole text the sigma is the one letter
that looks around: at the end of a word it takes its final form. -/

namespace SqlTree.Text

/-- The lower case of one character. Only U+0130 becomes two: `i` and a dot above. -/
def lowerChar (c : Char) : List Char :=
  if c = '\u0130' then ['i', '\u0307']
  else
    match lowercaseRuns.find? (·.covers c.toNat) with
    | some r => [Char.ofNat (c.toNat + r.offset).toNat]
    | none => [c]

/-- The lower case of every character, each taken for itself. -/
def lowerEach (cs : List Char) : List Char := cs.flatMap lowerChar

/-- A letter with a case. -/
def isCased (c : Char) : Bool := inRanges casedRanges c

/-- A character that is passed over in the search for a cased neighbour. -/
def isIgnorable (c : Char) : Bool := inRanges ignorableRanges c

/-- The first character that is not passed over is a letter with a case. -/
def meetsCased (cs : List Char) : Bool := (cs.dropWhile isIgnorable).head?.any isCased

/-- The capital sigma. -/
def capitalSigma : Char := '\u03A3'

/-- The lower case of a sigma between two texts, the one before it read backwards: the final form
after a letter and before none. -/
def lowerSigma (before after : List Char) : Char :=
  if meetsCased before && !meetsCased after then '\u03C2' else '\u03C3'

/-- The lower case of the rest of a text, where `before` is what was read, backwards. -/
def lowerFrom (before : List Char) : List Char → List Char
  | [] => []
  | c :: rest =>
    (if c = capitalSigma then [lowerSigma before rest] else lowerChar c) ++
      lowerFrom (c :: before) rest

/-- The lower case of a text. -/
def lowercase (s : String) : String := String.ofList (lowerFrom [] s.toList)

/-- Two texts with the same lower case, character by character. Here a sigma does not look
around. -/
def equalIgnoringCase (a b : String) : Bool := lowerEach a.toList == lowerEach b.toList

end SqlTree.Text
