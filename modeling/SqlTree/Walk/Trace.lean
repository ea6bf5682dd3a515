import SqlTree.Walk.Visitor

/-! # Traces: what happened in a walk -/

namespace SqlTree

/-- A step of a walk. -/
inductive Event (α : Type)
  | enter (info : NodeInfo)
  | visit (subject : α)
  | finish (subject : α)
  | leave (info : NodeInfo)

/-- The events of a walk, the last one first, and counts of them. -/
structure Trace (α : Type) where
  events : List (Event α) := []
  visits : Nat := 0
  finishes : Nat := 0
  entered : Nat := 0
  left : Nat := 0
  maxOpen : Nat := 0

namespace Trace

variable {α : Type}

/-- The infos of the nodes that were entered, in order. -/
def enteredInfos (t : Trace α) : List NodeInfo :=
  t.events.reverse.filterMap fun
    | .enter i => some i
    | _ => none

/-- The visitor that records every step. The children of a node are skipped if `skip` says so of
the number of its visit, counted from 1, and the node. -/
def recorder (skip : Nat → α → Bool) : Visitor α (Trace α) where
  enter i t :=
    { t with
      events := .enter i :: t.events, entered := t.entered + 1
      maxOpen := max t.maxOpen (t.entered + 1 - t.left) }
  visit a t :=
    (!skip (t.visits + 1) a, { t with events := .visit a :: t.events, visits := t.visits + 1 })
  finish a t := { t with events := .finish a :: t.events, finishes := t.finishes + 1 }
  leave i t := { t with events := .leave i :: t.events, left := t.left + 1 }

end Trace

end SqlTree
