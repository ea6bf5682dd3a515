import SqlTree.Node.Keyword

/-! # Readers of choices

A blueprint can be put together from choices that a reader makes on the grounds of some bytes. What
is known of a reader is which choices it can be asked for, and that it keeps to a range. -/

namespace SqlTree

/-- A computation that asks a reader for choices. It can fail. -/
abbrev Reading (ρ ε : Type) := StateT ρ (Except ε)

/-- Readers with states `ρ`. Whatever they are asked for, they may give an error instead. -/
class ChoiceReader (ρ : Type) (ε : outParam Type) where
  /-- A reader that has all the bytes before it. -/
  start : List UInt8 → ρ
  bool : Reading ρ ε Bool
  /-- True in `part` of `whole` cases. -/
  ratio (part whole : Nat) : Reading ρ ε Bool
  /-- A number from `low` to `high`. -/
  inRange (low high : Nat) : Reading ρ ε Nat
  /-- An item of a list. -/
  choose : List String → Reading ρ ε String
  text : Reading ρ ε String
  int64? : Reading ρ ε (Option Int64)
  joinKind : Reading ρ ε JoinKind

/-- The law of readers: a number that is asked for from a range lies in it. -/
class LawfulChoiceReader (ρ : Type) {ε : Type} [ChoiceReader ρ ε] : Prop where
  inRange_mem {low high n : Nat} {r r' : ρ} : low ≤ high →
    (ChoiceReader.inRange low high).run r = .ok (n, r') → low ≤ n ∧ n ≤ high

end SqlTree
