import SqlTree.Node.Any

/-! # Replacing an expression by its identity

A table source replaces one of the expressions that stand directly in it. The expression that goes
is handed back as a root; where none has the identity, the target is handed back as it came. -/

namespace SqlTree

/-- What a replacement hands back. -/
inductive Replacement
  | replaced (previous : Expr)
  | noMatch (target : Expr)

namespace Replacement

def isReplaced : Replacement → Bool
  | replaced _ => true
  | noMatch _ => false

/-- The expression that is handed back. -/
def inner : Replacement → Expr
  | replaced e | noMatch e => e

/-- Tries a second place if there was no match in the first. The owner is carried along. -/
def orElse {α : Type} (r : α × Replacement) (next : α → Expr → α × Replacement) :
    α × Replacement :=
  match r with
  | (a, replaced e) => (a, replaced e)
  | (a, noMatch target) => next a target

end Replacement

/-- Replaces the expression in a slot of `owner`. -/
def replaceSlot (owner : NodeId) (slot : Option Expr) (id : NodeId) (target : Expr) :
    Option Expr × Replacement :=
  match slot with
  | some e =>
    if nodeId e = id then (some (adopt owner target), .replaced (release e))
    else (slot, .noMatch target)
  | none => (slot, .noMatch target)

/-- Replaces the first expression of a list of `owner` that has the identity. -/
def replaceIn (owner : NodeId) (es : List Expr) (id : NodeId) (target : Expr) :
    List Expr × Replacement :=
  match es with
  | [] => ([], .noMatch target)
  | e :: rest =>
    if nodeId e = id then (adopt owner target :: rest, .replaced (release e))
    else
      let (rest, outcome) := replaceIn owner rest id target
      (e :: rest, outcome)

def SourceHeader.replaceFlashback (h : SourceHeader) (id : NodeId) (target : Expr) :
    SourceHeader × Replacement :=
  let (slot, outcome) := replaceSlot h.info.id h.flashback id target
  ({ h with flashback := slot }, outcome)

/-- Replaces the flashback expression of any table source. -/
def replaceFlashback {α : Type} [HasHeader α] (a : α) (id : NodeId) (target : Expr) :
    α × Replacement :=
  let (h, outcome) := (header a).replaceFlashback id target
  (setHeader h a, outcome)

/-- In a table: its expression, a partition or the flashback expression. -/
def TableRef.replace (t : TableRef) (id : NodeId) (target : Expr) : TableRef × Replacement :=
  let inExpr (t : TableRef) (target : Expr) : TableRef × Replacement :=
    let (slot, outcome) := replaceSlot (nodeId t) t.expr id target
    ({ t with expr := slot }, outcome)
  let inPartitions (t : TableRef) (target : Expr) : TableRef × Replacement :=
    let (es, outcome) := replaceIn (nodeId t) t.partitions id target
    ({ t with partitions := es }, outcome)
  Replacement.orElse (Replacement.orElse (inExpr t target) inPartitions)
    fun t target => replaceFlashback t id target

/-- In a join: its condition, a USING column or the flashback expression. -/
def Join.replace {σ : Type} (j : Join σ) (id : NodeId) (target : Expr) : Join σ × Replacement :=
  let inCondition (j : Join σ) (target : Expr) : Join σ × Replacement :=
    let (slot, outcome) := replaceSlot (nodeId j) j.condition id target
    ({ j with condition := slot }, outcome)
  let inColumns (j : Join σ) (target : Expr) : Join σ × Replacement :=
    let (es, outcome) := replaceIn (nodeId j) j.columns id target
    ({ j with columns := es }, outcome)
  Replacement.orElse (Replacement.orElse (inCondition j target) inColumns)
    fun j target => replaceFlashback j id target

/-- In a source of a dialect's kind only the flashback expression is replaced. -/
def TableSource.replace {δ : Type} (s : TableSource δ) (id : NodeId) (target : Expr) :
    TableSource δ × Replacement :=
  match s with
  | table t =>
    let (t, outcome) := t.replace id target
    (table t, outcome)
  | join j =>
    let (j, outcome) := j.replace id target
    (join j, outcome)
  | dialect h kind parts =>
    let (h, outcome) := h.replaceFlashback id target
    (dialect h kind parts, outcome)

/-! ## Any node -/

/-- Replaces an expression in a node, if the node is a table source. -/
def Node.replace? {δ ε : Type} (id : NodeId) (target : Expr) :
    Node δ ε → Option (Node δ ε × Replacement)
  | table t =>
    let (t, outcome) := t.replace id target
    some (table t, outcome)
  | join j =>
    let (j, outcome) := j.replace id target
    some (join j, outcome)
  | source s =>
    let (s, outcome) := s.replace id target
    some (source s, outcome)
  | _ => none

/-- Replaces the flashback expression of a node, if the node is a table source. -/
def Node.replaceFlashback? {δ ε : Type} (id : NodeId) (target : Expr) :
    Node δ ε → Option (Node δ ε × Replacement)
  | table t =>
    let (t, outcome) := SqlTree.replaceFlashback t id target
    some (table t, outcome)
  | join j =>
    let (j, outcome) := SqlTree.replaceFlashback j id target
    some (join j, outcome)
  | source s =>
    let (s, outcome) := SqlTree.replaceFlashback s id target
    some (source s, outcome)
  | _ => none

end SqlTree
