import SqlTree.Walk.Depth
import SqlTree.Walk.Outline

/-! # Walks

A walk enters a node, asks the visitor whether to go on, walks the children in order if so, then
ends the visit and leaves the node. Every child lies one level further down; where the ceiling is
reached no more children are entered, and all nodes that were entered are still left. -/

namespace SqlTree

/-- What a visitor with state `σ` does at the nodes of a walk. By default nothing is done and no
children are skipped. -/
structure Visitor (α σ : Type) where
  enter : NodeInfo → σ → σ := fun _ s => s
  visit : α → σ → Bool × σ := fun _ s => (true, s)
  finish : α → σ → σ := fun _ s => s
  leave : NodeInfo → σ → σ := fun _ s => s

/-- How a walk ends. -/
abbrev Outcome := Except TreeError Unit

namespace Outline

variable {α σ : Type}

mutual

/-- Walks the node at a depth. -/
def walk (v : Visitor α σ) (d : Depth) : Outline α → σ → Outcome × σ
  | node i a children, s =>
    let (goOn, s) := v.visit a (v.enter i s)
    let (outcome, s) := if goOn then walkChildren v d children s else (.ok (), s)
    (outcome, v.leave i (v.finish a s))

/-- Walks the children of a node at a depth, up to the first that fails. -/
def walkChildren (v : Visitor α σ) (d : Depth) : List (Outline α) → σ → Outcome × σ
  | [], s => (.ok (), s)
  | child :: rest, s =>
    match d.descend with
    | .error e => (.error e, s)
    | .ok below =>
      match child.walk v below s with
      | (.ok (), s) => walkChildren v d rest s
      | (.error e, s) => (.error e, s)

end

/-- Walks a tree from its root under a ceiling. -/
def walkFrom (v : Visitor α σ) (limit : Nat) (t : Outline α) (s : σ) : Outcome × σ :=
  t.walk v (.root limit) s

end Outline

end SqlTree
