import Std.Data.HashMap
import SqlTree.Walk.Visitor

/-! # The parent index: owners found by a walk

Besides the links that the nodes carry, the owner of every walked node can be worked out by a walk:
it is the innermost node that is still open when the node is entered. -/

namespace SqlTree

/-- The owners found so far, and the nodes that are open, the innermost one first. -/
structure ParentIndex where
  parents : Std.HashMap NodeId NodeId := ∅
  stack : List NodeId := []

namespace ParentIndex

def empty : ParentIndex := {}

def enter (x : ParentIndex) (i : NodeInfo) : ParentIndex :=
  { parents := match x.stack with
      | owner :: _ => x.parents.insert i.id owner
      | [] => x.parents
    stack := i.id :: x.stack }

def leave (x : ParentIndex) : ParentIndex := { x with stack := x.stack.tail }

/-- The visitor that fills an index. -/
def visitor (α : Type) : Visitor α ParentIndex where
  enter i x := x.enter i
  leave _ x := x.leave

/-- The index of a whole tree, under the default ceiling. -/
def build {α : Type} (t : Outline α) : Except TreeError ParentIndex :=
  match t.walkFrom (visitor α) Depth.defaultLimit empty with
  | (.ok (), x) => .ok x
  | (.error e, _) => .error e

def parentOf? (x : ParentIndex) (n : NodeId) : Option NodeId := x.parents[n]?

/-- At most `k` owners on the way up. -/
def ancestorsUpTo (x : ParentIndex) : Nat → NodeId → List NodeId
  | 0, _ => []
  | k + 1, n =>
    match x.parentOf? n with
    | none => []
    | some p => p :: ancestorsUpTo x k p

/-- The owners of a node, from the nearest up to the root. No way up is longer than the number of
links. -/
def ancestors (x : ParentIndex) (n : NodeId) : List NodeId := x.ancestorsUpTo x.parents.size n

def size (x : ParentIndex) : Nat := x.parents.size

def isEmpty (x : ParentIndex) : Bool := x.parents.isEmpty

end ParentIndex

end SqlTree
