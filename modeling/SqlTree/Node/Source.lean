import SqlTree.Node.DataType
import SqlTree.Node.Verbatim

/-! # Table sources

What stands in a FROM clause: a table named by an expression, a join of two sources, or a source of
a kind that a dialect adds. All of them have a header with an alias, hints and a flashback
expression. -/

namespace SqlTree

/-! ## The header -/

/-- What every table source has: its info and how it is presented. -/
structure SourceHeader where
  info : NodeInfo
  alias? : Option String := none
  hints : List Hint := []
  flashback : Option Expr := none

namespace SourceHeader

instance : HasInfo SourceHeader where
  info := SourceHeader.info
  setInfo i h := { h with info := i }

def new : Fresh SourceHeader := do return { info := ← newInfo }

def setAlias (h : SourceHeader) (a : Option String) : SourceHeader × Option String :=
  ({ h with alias? := a }, h.alias?)

def addHint (h : SourceHeader) (hint : Hint) : SourceHeader :=
  { h with hints := h.hints ++ [adopt h.info.id hint] }

def setHints (h : SourceHeader) (hints : List Hint) : SourceHeader × List Hint :=
  ({ h with hints := hints.map (adopt h.info.id) }, h.hints.map release)

def setFlashback (h : SourceHeader) (e : Option Expr) : SourceHeader × Option Expr :=
  let (slot, previous) := swap h.info.id h.flashback e
  ({ h with flashback := slot }, previous)

end SourceHeader

/-- The kinds of node that are table sources. -/
class HasHeader (α : Type) where
  header : α → SourceHeader
  setHeader : SourceHeader → α → α

export HasHeader (header setHeader)

/-! ## Tables -/

/-- A table named by an expression, possibly only some partitions of it. A name resolved against a
catalog is kept in `schemaObject`. -/
structure TableRef where
  header : SourceHeader
  expr : Option Expr := none
  partitions : List Expr := []
  schemaObject : Option String := none

namespace TableRef

instance : HasHeader TableRef where
  header := TableRef.header
  setHeader h t := { t with header := h }

instance : HasInfo TableRef where
  info t := t.header.info
  setInfo i t := { t with header := { t.header with info := i } }

/-- A table source that names no table yet. -/
def empty : Fresh TableRef := do return { header := ← SourceHeader.new }

def setExpr (t : TableRef) (e : Option Expr) : TableRef × Option Expr :=
  let (slot, previous) := swap (nodeId t) t.expr e
  ({ t with expr := slot }, previous)

def addPartition (t : TableRef) (e : Expr) : TableRef :=
  { t with partitions := t.partitions ++ [adopt (nodeId t) e] }

def setSchemaObject (t : TableRef) (name : Option String) : TableRef :=
  { t with schemaObject := name }

def new (e : Expr) : Fresh TableRef := do return ((← empty).setExpr (some e)).1

/-- The expression, if it is a name. -/
def name? (t : TableRef) : Option Expr := t.expr.filter (·.isName)

end TableRef

/-! ## Joins -/

/-- A join of two sources of type `σ`. Either side may still be missing. -/
structure Join (σ : Type) where
  header : SourceHeader
  left : Option σ := none
  kind : JoinKind := .join
  right : Option σ := none
  condition : Option Expr := none
  columns : List Expr := []
  natural : Bool := false

namespace Join

variable {σ : Type}

instance : HasHeader (Join σ) where
  header := Join.header
  setHeader h j := { j with header := h }

instance : HasInfo (Join σ) where
  info j := j.header.info
  setInfo i j := { j with header := { j.header with info := i } }

/-- A join without sides. -/
def empty : Fresh (Join σ) := do return { header := ← SourceHeader.new }

def setLeft [HasInfo σ] (j : Join σ) (s : Option σ) : Join σ × Option σ :=
  let (slot, previous) := swap (nodeId j) j.left s
  ({ j with left := slot }, previous)

def setRight [HasInfo σ] (j : Join σ) (s : Option σ) : Join σ × Option σ :=
  let (slot, previous) := swap (nodeId j) j.right s
  ({ j with right := slot }, previous)

def setKind (j : Join σ) (k : JoinKind) : Join σ := { j with kind := k }

def setCondition (j : Join σ) (e : Option Expr) : Join σ × Option Expr :=
  let (slot, previous) := swap (nodeId j) j.condition e
  ({ j with condition := slot }, previous)

/-- Adds a column to the USING list. -/
def addColumn (j : Join σ) (e : Expr) : Join σ :=
  { j with columns := j.columns ++ [adopt (nodeId j) e] }

def setNatural (j : Join σ) (b : Bool) : Join σ := { j with natural := b }

/-- A join of two sources, with a condition or none. -/
def new [HasInfo σ] (left : σ) (kind : JoinKind) (right : σ) (condition : Option Expr) :
    Fresh (Join σ) := do
  let j := (← empty).setKind kind
  let j := (j.setLeft (some left)).1
  let j := (j.setRight (some right)).1
  return (j.setCondition condition).1

/-- The sides that are there, the left one first. -/
def sides (j : Join σ) : List σ := j.left.toList ++ j.right.toList

end Join

/-! ## Sources -/

/-- A table source. One of a dialect has a kind, taken from `δ`, and may keep expressions of its
own, its parts; it does not become their owner. -/
inductive TableSource (δ : Type)
  | table (t : TableRef)
  | join (j : Join (TableSource δ))
  | dialect (header : SourceHeader) (kind : δ) (parts : List Expr)

/-- A join as a node of its own. -/
abbrev JoinSource (δ : Type) := Join (TableSource δ)

namespace TableSource

variable {δ : Type}

instance : HasHeader (TableSource δ) where
  header
    | table t => t.header
    | join j => j.header
    | dialect h _ _ => h
  setHeader h
    | table t => table { t with header := h }
    | join j => join { j with header := h }
    | dialect _ k ps => dialect h k ps

instance : HasInfo (TableSource δ) where
  info s := (header s).info
  setInfo i s := setHeader { header s with info := i } s

/-- A source of a dialect's kind. -/
def newDialect (kind : δ) (parts : List Expr) : Fresh (TableSource δ) := do
  return dialect (← SourceHeader.new) kind parts

def isTable : TableSource δ → Bool
  | table _ => true
  | _ => false

def join? : TableSource δ → Option (JoinSource δ)
  | join j => some j
  | _ => none

end TableSource

end SqlTree
