import SqlTree.Blueprint
import SqlTree.Blueprint.Reader

/-! # Blueprints from bytes

A run of bytes is read as a blueprint, unless the reader fails. Joins nest at most six deep, and the
lists in a blueprint are short. -/

namespace SqlTree.Blueprint

open ChoiceReader

/-- How deep joins nest in a blueprint that is read from bytes. -/
def maxNesting : Nat := 6

section

variable {ρ ε : Type} [ChoiceReader ρ ε]

/-- What is read, if a first bit says so. -/
def readOption {α : Type} (item : Reading ρ ε α) : Reading ρ ε (Option α) := do
  if ← bool then return some (← item) else return none

/-- A name: one of a few that are good at tripping lookups, or any text. -/
def readName : Reading ρ ε String := do
  if ← bool then choose ["id", "Id", "orders", "\"Orders\"", "`users`", "[t1]", "p0"] else text

/-- As many names as said. -/
def readNames : Nat → Reading ρ ε (List String)
  | 0 => return []
  | n + 1 => do
    let name ← readName
    return name :: (← readNames n)

/-- At most `max` names. -/
def readNamesUpTo (max : Nat) : Reading ρ ε (List String) := do readNames (← inRange 0 max)

def readTable : Reading ρ ε Blueprint := do
  let path ← readNames (← inRange 1 3)
  let alias? ← readOption readName
  let partitions ← readNamesUpTo 3
  let hints ← readNamesUpTo 2
  return table path alias? partitions hints (← int64?)

/-- A blueprint in which joins nest at most as deep as said. Three of five are tables. -/
def read : Nat → Reading ρ ε Blueprint
  | 0 => readTable
  | n + 1 => do
    if ← ratio 3 5 then readTable
    else
      let left ← read n
      let kind ← joinKind
      let right ← read n
      let on ← readOption do
        let l ← readName
        return (l, ← readName)
      let columns ← readNamesUpTo 3
      let natural ← bool
      return join left kind right on columns natural (← readOption readName)

end

/-- The blueprint that a reader makes of a run of bytes, if it does not fail. -/
def decode (ρ : Type) {ε : Type} [ChoiceReader ρ ε] (bytes : List UInt8) : Except ε Blueprint :=
  (read maxNesting).run' (start bytes : ρ)

end SqlTree.Blueprint
