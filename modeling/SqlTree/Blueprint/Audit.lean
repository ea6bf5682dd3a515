import SqlTree.Blueprint.Decode
import SqlTree.Clone
import SqlTree.Feed
import SqlTree.Walk.ParentIndex

/-! # The audit of a table source

The audit copies a source and walks it, and checks that the copy is equal, fresh and detached, that
the way a source is presented does not count, that walks are balanced, and that the links in the
nodes agree with the owners that a walk finds. -/

namespace SqlTree

/-- What an audit can find wrong. -/
inductive Violation
  | cloneFailed (e : TreeError)
  | cloneDiffers
  | cloneFeedDiffers
  | cloneKeepsIdentity
  | cloneHasOwner
  | presentationCounts
  | presentationIsFed
  | hintNotAdded
  | partitionIgnored
  | unmatchedLeave
  | walkFailed (e : TreeError)
  | unbalancedWalk
  | unbalancedVisits
  | moreVisitsThanNodes
  | indexSize
  | staleLink (id : NodeId)

def Violation.message : Violation → String
  | cloneFailed e => "built-in table sources clone: " ++ e.detail
  | cloneDiffers => "clone must be structurally equal"
  | cloneFeedDiffers => "clone must have the same digest"
  | cloneKeepsIdentity => "clone must get a fresh identity"
  | cloneHasOwner => "clone must start detached"
  | presentationCounts => "alias and hints must not affect equality"
  | presentationIsFed => "alias and hints must not affect the digest"
  | hintNotAdded => "the hint must be there"
  | partitionIgnored => "partitions must affect equality"
  | unmatchedLeave => "leave without matching enter"
  | walkFailed e => "shapes stay below the depth ceiling: " ++ e.detail
  | unbalancedWalk => "unbalanced enter/leave"
  | unbalancedVisits => "unbalanced visit/end visit"
  | moreVisitsThanNodes => "more visits than nodes"
  | indexSize => "every node but the root must have an owner"
  | staleLink id => "stale parent link on #" ++ toString id.val

/-! ## Balance -/

/-- What the balance visitor keeps: the open nodes, whether a node was left that was not the
innermost open one, counts, and the links of the nodes it met. -/
structure Balance where
  stack : List NodeId := []
  crossed : Bool := false
  entered : Nat := 0
  visits : Nat := 0
  finishes : Nat := 0
  links : List (NodeId × Option NodeId) := []

/-- The visitor that checks that nodes are left in the order opposite to that in which they are
entered. It counts the visits to tables and joins. -/
def Balance.visitor {δ ε : Type} : Visitor (Subject δ ε) Balance where
  enter i b :=
    { b with
      entered := b.entered + 1, stack := i.id :: b.stack, links := b.links ++ [(i.id, i.parent)] }
  leave i b := { b with stack := b.stack.tail, crossed := b.crossed || b.stack.head? ≠ some i.id }
  visit
    | .table _, b | .join _, b => (true, { b with visits := b.visits + 1 })
    | _, b => (true, b)
  finish
    | .table _, b | .join _, b => { b with finishes := b.finishes + 1 }
    | _, b => b

/-! ## The checks -/

/-- A computation that draws identities and stops at the first violation. -/
abbrev Auditing := ExceptT Violation Fresh

def ensure {m : Type → Type} [Monad m] [MonadExcept Violation m] (condition : Bool)
    (v : Violation) : m Unit :=
  if condition then return else throw v

variable {δ η : Type} [SourceDialect δ] [DecidableEq η]

/-- Checks the copy of a source. Of the words that sources feed only their digest is compared. -/
def auditClone (digest : List Word → η) (s copy : TableSource δ) : Auditing Unit := do
  ensure (copy.same s) .cloneDiffers
  ensure (digest copy.feed = digest s.feed) .cloneFeedDiffers
  ensure (nodeId copy ≠ nodeId s) .cloneKeepsIdentity
  ensure (parent? copy).isNone .cloneHasOwner
  let hint ← Hint.new "FUZZ"
  let dressed := setHeader (((header copy).setAlias (some "fuzz_alias")).1.addHint hint) copy
  ensure (dressed.same s) .presentationCounts
  ensure (digest dressed.feed = digest s.feed) .presentationIsFed
  ensure ((header dressed).hints.length = (header s).hints.length + 1) .hintNotAdded
  if let .table t := dressed then
    let partition ← Expr.newIdentifier "fuzz_partition"
    ensure (!(TableSource.table (t.addPartition partition) : TableSource δ).same s)
      .partitionIgnored

/-- Checks the walk of a source and the index that a walk fills. -/
def auditWalk (s : TableSource δ) : Except Violation Unit := do
  let outline : Outline (Subject δ Empty) := s.outline
  let (outcome, b) := outline.walkFrom Balance.visitor Depth.defaultLimit {}
  ensure (!b.crossed) .unmatchedLeave
  outcome.mapError .walkFailed
  ensure b.stack.isEmpty .unbalancedWalk
  ensure (b.visits = b.finishes) .unbalancedVisits
  ensure (b.visits ≤ b.entered) .moreVisitsThanNodes
  let index ← (ParentIndex.build outline).mapError .walkFailed
  ensure (index.size + 1 = b.entered) .indexSize
  match (b.links.drop 1).find? fun (id, parent) => index.parentOf? id ≠ parent with
  | some (id, _) => throw (.staleLink id)
  | none => return

/-- Audits a source, with a digest of the words that sources feed: first its copy, then its walk. -/
def auditWith (digest : List Word → η) (s : TableSource δ) : Auditing Unit := do
  let copy ← (s.tryClone Depth.defaultLimit).adapt .cloneFailed
  auditClone digest s copy
  auditWalk s

/-- The strictest audit: it compares the words themselves. -/
def audit (s : TableSource δ) : Auditing Unit := auditWith id s

/-- Audits what the blueprint that is read from bytes builds. Bytes that are no blueprint to the
reader are passed over. -/
def auditBytes (ρ : Type) {ε : Type} [ChoiceReader ρ ε] (digest : List Word → η)
    (bytes : List UInt8) : Auditing Unit :=
  match Blueprint.decode ρ bytes with
  | .error _ => return
  | .ok b => do
    let s : TableSource δ ← b.build
    auditWith digest s

end SqlTree
