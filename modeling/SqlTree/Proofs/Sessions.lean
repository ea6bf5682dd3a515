import SqlTree.Feed
import SqlTree.Lookup
import SqlTree.Render
import SqlTree.Proofs.Ownership
import SqlTree.Proofs.Rewalks

/-! # Sessions

A session works through commands one by one. It owns live trees, holds identities that it was told,
and keeps parent indexes. A command names trees, identities and indexes by their places and carries
nothing that contains an identity, so the same commands can be run from any supply. -/

namespace SqlTree

variable {δ ε : Type}

/-! ## Replies -/

/-- What a command says without naming an identity. -/
inductive Verdict
  | refused
  | done
  | failed (e : TreeError)
  | replaced
  | noMatch
  | flag (b : Bool)
  | count (n : Nat)
  | place (i : Option Nat)
  | text (s : Option String)
  | attribute (v : Option AttributeValue)
  | words (ws : List Word)

/-- The answer to a command: a verdict, and the nodes, identities and events that it tells of. -/
structure Reply (δ ε : Type) where
  verdict : Verdict
  nodes : List (Node δ ε) := []
  ids : List NodeId := []
  events : List (Event (Subject δ ε)) := []

namespace Reply

/-- A reply without identities. -/
def plain (v : Verdict) : Reply δ ε := { verdict := v }

/-- A reply that hands over nodes. -/
def handing (v : Verdict) (ns : List (Node δ ε)) : Reply δ ε := { verdict := v, nodes := ns }

/-- A reply that tells identities. -/
def telling (ids : List NodeId) : Reply δ ε := { verdict := .done, ids }

end Reply

def Outcome.verdict : Outcome → Verdict
  | .ok () => .done
  | .error e => .failed e

def Replacement.verdict : Replacement → Verdict
  | replaced _ => .replaced
  | noMatch _ => .noMatch

def Handback.verdict : Handback δ ε → Verdict
  | text s => .text s
  | nothing | node _ | nodes _ => .done

/-! ## Operands

An operation is given nodes and takes each of them as a node of one kind. -/

namespace Node

def expr? : Node δ ε → Option Expr
  | expr e => some e
  | _ => none

def dataType? : Node δ ε → Option DataType
  | dataType t => some t
  | _ => none

def hint? : Node δ ε → Option Hint
  | hint h => some h
  | _ => none

def select? : Node δ ε → Option Select
  | select s => some s
  | _ => none

def table? : Node δ ε → Option TableRef
  | table t => some t
  | _ => none

def parameter? : Node δ ε → Option Parameter
  | parameter p => some p
  | _ => none

def create? : Node δ ε → Option (CreateTable ε)
  | create c => some c
  | _ => none

variable {α : Type} (as? : Node δ ε → Option α)

/-- The only node that is given. -/
def one? : List (Node δ ε) → Option α
  | [n] => as? n
  | _ => none

/-- What is given for a slot: one node or none. -/
def slot? : List (Node δ ε) → Option (Option α)
  | [] => some none
  | [n] => (as? n).map some
  | _ => none

end Node

open Node

/-! ## Constructors and edits by name -/

/-- The constructors, without the nodes that they are given. -/
inductive Maker (δ ε : Type)
  | plain (c : { c : Construction δ ε // c.given = [] })
  | property (name : String)
  | binary (op : BinaryOperator)
  | table
  | join (kind : JoinKind)
  | dialectSource (kind : δ)
  | column
  | unique (primaryKey : Bool)
  | index
  | check
  /-- The first of the expressions, as many as `parts`, become the parts of the element. -/
  | dialectElement (kind : ε) (parts : Nat)

def Maker.construction? : Maker δ ε → List (Node δ ε) → Option (Construction δ ε)
  | plain c, [] => some c
  | property name, ns => (one? expr? ns).map (.property · name)
  | binary op, [l, r] => do return .binary (← l.expr?) op (← r.expr?)
  | table, ns => (one? expr? ns).map .table
  | join kind, l :: r :: ns => do return .join (← l.source?) kind (← r.source?) (← slot? expr? ns)
  | dialectSource kind, ns => (ns.mapM expr?).map (.dialectSource kind)
  | column, ns => (one? expr? ns).map .column
  | unique primaryKey, ns => (ns.mapM expr?).map (.unique · primaryKey)
  | index, n :: ns => do return .index (← n.expr?) (← ns.mapM expr?)
  | check, ns => (one? expr? ns).map .check
  | dialectElement kind parts, ns =>
    (ns.mapM expr?).map fun es => .dialectElement kind (es.take parts) (es.drop parts)
  | _, _ => none

/-- The edits, without the nodes that they are given. -/
inductive Editor (δ ε : Type)
  | plain (e : { e : Edit δ ε // e.given = [] })
  | addHint
  | setHints
  | setFlashback
  | setExpr
  | addPartition
  | setLeft
  | setRight
  | setCondition
  | addUsing
  | setName
  | setSource
  | addElement
  | setInherits
  | setSelect
  | setDataType
  | setDefaultValue
  | addColumn
  | addArgument
  | setCursor
  | addParameter
  | setParameters

def Editor.edit? (ns : List (Node δ ε)) : Editor δ ε → Option (Edit δ ε)
  | plain e => if ns.isEmpty then some e else none
  | addHint => (one? hint? ns).map .addHint
  | setHints => (ns.mapM hint?).map .setHints
  | setFlashback => (slot? expr? ns).map .setFlashback
  | setExpr => (slot? expr? ns).map .setExpr
  | addPartition => (one? expr? ns).map .addPartition
  | setLeft => (slot? source? ns).map .setLeft
  | setRight => (slot? source? ns).map .setRight
  | setCondition => (slot? expr? ns).map .setCondition
  | addUsing => (one? expr? ns).map .addUsing
  | setName => (slot? expr? ns).map .setName
  | setSource => (slot? table? ns).map .setSource
  | addElement => (one? element? ns).map .addElement
  | setInherits => (slot? table? ns).map .setInherits
  | setSelect => (slot? select? ns).map .setSelect
  | setDataType => (slot? dataType? ns).map .setDataType
  | setDefaultValue => (slot? expr? ns).map .setDefaultValue
  | addColumn => (one? expr? ns).map .addColumn
  | addArgument => (one? expr? ns).map .addArgument
  | setCursor => (slot? expr? ns).map .setCursor
  | addParameter => (one? parameter? ns).map .addParameter
  | setParameters => (ns.mapM parameter?).map .setParameters

/-! ## Operations on trees -/

/-- What can be done to a node where it stands. -/
inductive Work (δ ε : Type)
  | edit (e : Editor δ ε)
  | replace
  | replaceFlashback
  | setParent
  | putAttribute (key : String) (v : AttributeValue)
  | eraseAttribute (key : String)
  | modifyAttribute (t : AttributeType Scalar) (key : String)
      (f : t.Carrier Scalar.Carrier → t.Carrier Scalar.Carrier)

namespace Work

/-- A node after a replacement, with the expression that is handed back. -/
def replacing (r : Node δ ε × Replacement) : Node δ ε × List (Node δ ε) × Verdict :=
  (r.1, [.expr r.2.inner], r.2.verdict)

/-- A node after work that is given no nodes. -/
def alone (given : List (Node δ ε)) (n : Node δ ε) (v : Verdict) :
    Option (Node δ ε × List (Node δ ε) × Verdict) :=
  if given.isEmpty then some (n, [], v) else none

/-- The changed node, the nodes that are handed back and a verdict; none if the work does not fit
the node or what is given. -/
def apply (ids : List NodeId) (given : List (Node δ ε)) (n : Node δ ε) :
    Work δ ε → Fresh (Option (Node δ ε × List (Node δ ε) × Verdict))
  | edit e =>
    match e.edit? given with
    | none => return none
    | some e => do return (← n.edit e).map fun (n, back) => (n, back.toList, back.verdict)
  | replace => return do
    let id ← ids.head?
    let target ← one? expr? given
    return replacing (← n.replace? id target)
  | replaceFlashback => return do
    let id ← ids.head?
    let target ← one? expr? given
    return replacing (← n.replaceFlashback? id target)
  | setParent => return alone given (SqlTree.setParent ids.head? n) .done
  | putAttribute key v =>
    let r := (attributes n).insert key v
    return alone given (setAttributes r.1 n) (.attribute r.2)
  | eraseAttribute key =>
    let r := (attributes n).erase key
    return alone given (setAttributes r.1 n) (.attribute r.2)
  | modifyAttribute t key f =>
    let r := (attributes n).modify t key f
    return alone given (setAttributes r.1 n) (.attribute (r.1.find? key))

end Work

/-- The operations that make, change or consume trees. -/
inductive Deed (δ ε : Type)
  | make (m : Maker δ ε)
  | work (focus : Focus) (w : Work δ ε)
  | toSource
  | toElement
  | toInner
  | drop

/-- The trees that an operation leaves in the place of those that it takes, and its reply; none if
it does not fit them. -/
def Deed.perform (ids : List NodeId) :
    Deed δ ε → List (Node δ ε) → Fresh (Option (List (Node δ ε) × Reply δ ε))
  | make m, ns =>
    match m.construction? ns with
    | none => return none
    | some c => do
      let made ← c.build
      return some (made, .handing .done made)
  | work f w, n :: given =>
    match n.part? f with
    | none => return none
    | some part => do
      return (← w.apply ids given part).map fun (part, back, verdict) =>
        (part.setPart f n :: back, .handing verdict back)
  | toSource, [n] => return n.source?.map fun s => ([.source s], .plain .done)
  | toElement, [n] => return n.element?.map fun e => ([.element e], .plain .done)
  | toInner, [n] => return some ([n.inner], .plain .done)
  | drop, [_] => return some ([], .plain .done)
  | _, _ => return none

/-! ## Nodes inside trees -/

namespace Node

/-- The nodes of a table source that no walk goes to. -/
def apart : Node δ ε → List (Node δ ε)
  | table t => ofHeader t.header
  | join j => ofHeader j.header
  | source s => ofHeader (header s)
  | _ => []
where
  ofHeader (h : SourceHeader) : List (Node δ ε) :=
    h.hints.map .hint ++ ofSlot .expr h.flashback

/-- The nodes that can be reached from a node in one step: the one inside it and its children. -/
def reach (n : Node δ ε) : List (Node δ ε) := n.inner :: (n.walked ++ n.apart)

/-- The node at the end of a path. -/
def at? : List Nat → Node δ ε → Option (Node δ ε)
  | [], n => some n
  | i :: path, n => n.reach[i]?.bind (at? path)

end Node

/-! ## Questions -/

/-- The name by which a node is known, for the kinds that have one. -/
def Node.knownAs? (f : Text.Normalizer) : Node δ ε → Option (Option String)
  | table t => some (t.computeAlias f)
  | source s => some (s.computeAlias f)
  | column c => some (c.computeAlias f)
  | create c => some (c.computeName f)
  | _ => none

/-- The questions about nodes. -/
inductive Query
  | info
  | readAttribute (key : String)
  | same
  | feed
  | render
  | knownAs (f : Text.Normalizer)
  | findColumn (f : Text.Normalizer) (name : String)
  | findIndex (f : Text.Normalizer) (name : String)

namespace Query

variable [SourceDialect δ] [ElementDialect ε]

/-- The answer to a question about one node. -/
def about? (n : Node δ ε) : Query → Option (Reply δ ε)
  | info => some (.telling (nodeId n :: (parent? n).toList))
  | readAttribute key => some (.plain (.attribute ((attributes n).find? key)))
  | same => none
  | feed => n.feed?.map fun ws => .plain (.words ws)
  | render => some (.plain (.text n.render))
  | knownAs f => (n.knownAs? f).map fun s => .plain (.text s)
  | findColumn f name => n.create?.map fun c =>
    .handing (.place (c.columnIdx? f name)) (ofSlot .column (c.findColumn? f name))
  | findIndex f name => n.create?.map fun c =>
    .handing (.place (c.keyIdx? f name)) (ofSlot .element (c.findIndex? f name))

def answer? (q : Query) : List (Node δ ε) → Option (Reply δ ε)
  | [n] => q.about? n
  | [m, n] =>
    match q with
    | same => (m.same? n).map fun b => .plain (.flag b)
    | _ => none
  | _ => none

end Query

inductive IndexQuery
  | parentOf
  /-- The first owners on the way up. -/
  | ancestors (k : Nat)
  | size
  | isEmpty

def IndexQuery.answer? (x : ParentIndex) : IndexQuery → List NodeId → Option (Reply δ ε)
  | parentOf, [n] => some (.telling (x.parentOf? n).toList)
  | ancestors k, [n] => some (.telling (x.ancestorsUpTo k n))
  | size, [] => some (.plain (.count x.size))
  | isEmpty, [] => some (.plain (.flag x.isEmpty))
  | _, _ => none

/-- A visitor that may tell identities apart, also from those that it is given at the start, but
sees nothing else of them. -/
structure BlindVisitor (δ ε : Type) where
  State : Type
  visitor : Visitor (Subject δ ε) State
  start : List NodeId → State
  Alike : (NodeId → NodeId) → State → State → Prop
  start_alike : ∀ ρ ids, Alike ρ (start ids) (start (rename ρ ids))
  inStep : ∀ ρ, Function.Injective ρ → visitor.InStep ρ (Alike ρ) visitor

/-- The visitor that skips what is below the nodes that it is given. -/
def BlindVisitor.pruning : BlindVisitor δ ε where
  State := List NodeId × Bool
  visitor :=
    { enter := fun i s => (s.1, s.1.contains i.id)
      visit := fun _ s => (!s.2, s) }
  start ids := (ids, false)
  Alike ρ s t := t = (rename ρ s.1, s.2)
  start_alike _ _ := rfl
  inStep ρ hρ :=
    { enter := by
        rintro i s _ rfl
        have hcontains : (s.1.map ρ).contains (ρ i.id) = s.1.contains i.id := by
          rw [Bool.eq_iff_iff, List.contains_iff_mem, List.contains_iff_mem,
            List.mem_map_of_injective hρ]
        exact congrArg (Prod.mk (s.1.map ρ)) hcontains
      visit := by
        rintro a s _ rfl
        exact ⟨rfl, rfl⟩
      finish := fun _ _ _ h => h
      leave := fun _ _ _ h => h }

/-! ## Commands -/

/-- The live trees, the identities that were told and the parent indexes. -/
structure Session (δ ε : Type) where
  live : List (Node δ ε) := []
  held : List NodeId := []
  indexes : List ParentIndex := []

/-- Takes what is at the places out of a list, one after the other. -/
def take? {α : Type} : List Nat → List α → Option (List α × List α)
  | [], as => some ([], as)
  | k :: ks, as => do
    let a ← as[k]?
    let (taken, rest) ← take? ks (as.eraseIdx k)
    return (a :: taken, rest)

/-- Where a node is: the place of its tree and the path to it. -/
structure Spot where
  place : Nat
  path : List Nat

/-- The commands. Nodes, identities and indexes are named by where they are in the session. -/
inductive Command (δ ε : Type)
  | perform (d : Deed δ ε) (places ids : List Nat)
  | clone (limit : Nat) (spot : Spot)
  | draw
  | equal (i j : Nat)
  | ask (q : Query) (spots : List Spot)
  | walk (v : BlindVisitor δ ε) (d : Depth) (spot : Spot) (ids : List Nat)
  | newIndex
  | buildIndex (spot : Spot)
  | walkIndex (d : Depth) (index : Nat) (spot : Spot)
  | askIndex (q : IndexQuery) (index : Nat) (ids : List Nat)

namespace Session

def node? (x : Session δ ε) (spot : Spot) : Option (Node δ ε) :=
  x.live[spot.place]?.bind (·.at? spot.path)

def ids? (x : Session δ ε) (ks : List Nat) : Option (List NodeId) := ks.mapM (x.held[·]?)

/-- The trees at the places, the other trees, and the identities that an operation is given. -/
def operands? (x : Session δ ε) (places ids : List Nat) :
    Option ((List (Node δ ε) × List (Node δ ε)) × List NodeId) := do
  return (← take? places x.live, ← x.ids? ids)

/-- The session that does not take a command. -/
def refuse (x : Session δ ε) : Session δ ε × Reply δ ε := (x, .plain .refused)

/-- The session after a reply that tells identities. -/
def told (x : Session δ ε) (r : Reply δ ε) : Session δ ε × Reply δ ε :=
  ({ x with held := x.held ++ r.ids }, r)

/-- The session after an operation, which may not have fitted what was taken. -/
def performed (x : Session δ ε) (rest : List (Node δ ε)) :
    Option (List (Node δ ε) × Reply δ ε) → Session δ ε × Reply δ ε
  | some (made, reply) => ({ x with live := made ++ rest }, reply)
  | none => x.refuse

/-- The session with a copy, unless the attempt to copy failed. -/
def copied (x : Session δ ε) : Except TreeError (Node δ ε) → Session δ ε × Reply δ ε
  | .ok c => ({ x with live := c :: x.live }, .handing .done [c])
  | .error e => (x, .plain (.failed e))

/-- The session with a new index, unless the walk that built it failed. -/
def built (x : Session δ ε) : Except TreeError ParentIndex → Session δ ε × Reply δ ε
  | .ok i => ({ x with indexes := x.indexes ++ [i] }, .plain .done)
  | .error e => (x, .plain (.failed e))

/-- The session after a walk that went on filling an index. -/
def indexed (x : Session δ ε) (i : Nat) (r : Outcome × ParentIndex) : Session δ ε × Reply δ ε :=
  ({ x with indexes := x.indexes.set i r.2 }, .plain r.1.verdict)

variable [SourceDialect δ] [ElementDialect ε]

/-- The reply to a walk with a visitor. -/
def walked (v : BlindVisitor δ ε) (d : Depth) (n : Node δ ε) (ids : List NodeId) : Reply δ ε :=
  let r := n.outline.walk v.visitor.recorded d (v.start ids, [])
  { verdict := r.1.verdict, events := r.2.2 }

/-- What a command that draws nothing does; none if it does not apply. -/
def answer? (x : Session δ ε) : Command δ ε → Option (Session δ ε × Reply δ ε)
  | .equal i j => do
    return x.told (.plain (.flag (decide ((← x.held[i]?) = (← x.held[j]?)))))
  | .ask q spots => do return x.told (← q.answer? (← spots.mapM x.node?))
  | .walk v d spot ids => do return x.told (walked v d (← x.node? spot) (← x.ids? ids))
  | .newIndex => some (x.built (.ok .empty))
  | .buildIndex spot => do return x.built (ParentIndex.build (← x.node? spot).outline)
  | .walkIndex d i spot => do
    let n ← x.node? spot
    return x.indexed i (n.outline.walk (ParentIndex.visitor _) d (← x.indexes[i]?))
  | .askIndex q i ids => do return x.told (← q.answer? (← x.indexes[i]?) (← x.ids? ids))
  | .perform .. | .clone .. | .draw => none

/-- Carries out a command. One that does not apply changes nothing. -/
def step (x : Session δ ε) : Command δ ε → Fresh (Session δ ε × Reply δ ε)
  | .perform d places ids =>
    match x.operands? places ids with
    | some ((ns, rest), ids) => do return x.performed rest (← d.perform ids ns)
    | none => return x.refuse
  | .clone limit spot =>
    match (x.node? spot).bind (·.tryClone? limit) with
    | some copy => do return x.copied (← copy.run)
    | none => return x.refuse
  | .draw => do return x.told (.telling [← freshId])
  | c => return (x.answer? c).getD x.refuse

section

variable {x : Session δ ε} {d : Deed δ ε} {places ids : List Nat} {limit : Nat} {spot : Spot}

theorem step_perform_none (h : x.operands? places ids = none) :
    x.step (.perform d places ids) = return x.refuse := by
  rw [step, h]

theorem step_perform_some {ns rest : List (Node δ ε)} {told : List NodeId}
    (h : x.operands? places ids = some ((ns, rest), told)) :
    x.step (.perform d places ids) = do return x.performed rest (← d.perform told ns) := by
  rw [step, h]

theorem step_clone_none (h : (x.node? spot).bind (·.tryClone? limit) = none) :
    x.step (.clone limit spot) = return x.refuse := by
  rw [step, h]

theorem step_clone_some {copy : Cloning (Node δ ε)}
    (h : (x.node? spot).bind (·.tryClone? limit) = some copy) :
    x.step (.clone limit spot) = do return x.copied (← copy.run) := by
  rw [step, h]

end

/-- Carries out commands one after the other. The result lists the session after each of them, with
the reply. -/
def run (x : Session δ ε) : List (Command δ ε) → Fresh (List (Session δ ε × Reply δ ε))
  | [] => return []
  | c :: cs => do
    let r ← x.step c
    return r :: (← run r.1 cs)

end Session

end SqlTree
