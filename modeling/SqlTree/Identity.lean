/-! # Identities of nodes

Every node has an identity. Identities are drawn from a supply, which never gives the same one
twice: the ones it gives rise, and some numbers may be left out, as when several users draw from
one counter. -/

namespace SqlTree

/-- What tells a node from every other node. -/
structure NodeId where
  val : Nat
deriving DecidableEq, Hashable

/-- A supply of identities: `nth` lists them in rising order, and the first `drawn` are taken.
That the list rises without end, `increasing`, stands for a counter of 64 bits that does not wrap
around. -/
structure Supply where
  nth : Nat → NodeId
  drawn : Nat
  increasing : ∀ i j, i < j → (nth i).val < (nth j).val

namespace Supply

/-- The supply that counts 1, 2, 3, … -/
def counting : Supply where
  nth n := ⟨n + 1⟩
  drawn := 0
  increasing _ _ h := Nat.succ_lt_succ h

/-- Takes the next identity. -/
def draw (s : Supply) : NodeId × Supply :=
  (s.nth s.drawn, { s with drawn := s.drawn + 1 })

end Supply

/-- A computation that draws identities. -/
abbrev Fresh := StateM Supply

/-- Draws one identity. -/
def freshId : Fresh NodeId := Supply.draw

end SqlTree
