import SqlTree.Error

/-! # Depth: levels below the root, and their ceiling -/

namespace SqlTree

/-- How many levels below the root a walk is, and how many it may be. -/
structure Depth where
  current : Nat
  limit : Nat
deriving DecidableEq

namespace Depth

/-- The ceiling where none is given. -/
def defaultLimit : Nat := 256

def root (limit : Nat) : Depth := ⟨0, limit⟩

/-- One level further down, unless the ceiling is reached. -/
def descend (d : Depth) : Except TreeError Depth :=
  if d.current < d.limit then .ok { d with current := d.current + 1 }
  else .error (.depthLimitExceeded d.limit)

/-- The depths on the way down, and the error that ends it before `n` levels, if any. -/
def descents (d : Depth) : Nat → List Depth × Except TreeError Depth
  | 0 => ([], .ok d)
  | n + 1 =>
    match d.descend with
    | .error e => ([], .error e)
    | .ok below => (below :: (below.descents n).1, (below.descents n).2)

end Depth

end SqlTree
