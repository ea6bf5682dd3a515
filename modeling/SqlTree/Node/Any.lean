import SqlTree.Node.CreateTable
import SqlTree.Node.Parameter

/-! # Nodes of every kind -/

namespace SqlTree

/-- A node of any kind. A table or a join can stand by itself or as a table source, and a column, a
key, an index or a check by itself or as an element. -/
inductive Node (δ ε : Type)
  | expr (e : Expr)
  | dataType (t : DataType)
  | hint (h : Hint)
  | select (s : Select)
  | table (t : TableRef)
  | join (j : JoinSource δ)
  | source (s : TableSource δ)
  | create (c : CreateTable ε)
  | column (c : Column)
  | unique (k : UniqueKey)
  | index (x : TableIndex)
  | check (c : Check)
  | element (e : TableElement ε)
  | parameter (p : Parameter)

variable {δ ε : Type}

instance : HasInfo (Node δ ε) where
  info
    | .expr a => info a
    | .dataType a => info a
    | .hint a => info a
    | .select a => info a
    | .table a => info a
    | .join a => info a
    | .source a => info a
    | .create a => info a
    | .column a => info a
    | .unique a => info a
    | .index a => info a
    | .check a => info a
    | .element a => info a
    | .parameter a => info a
  setInfo i
    | .expr a => .expr (setInfo i a)
    | .dataType a => .dataType (setInfo i a)
    | .hint a => .hint (setInfo i a)
    | .select a => .select (setInfo i a)
    | .table a => .table (setInfo i a)
    | .join a => .join (setInfo i a)
    | .source a => .source (setInfo i a)
    | .create a => .create (setInfo i a)
    | .column a => .column (setInfo i a)
    | .unique a => .unique (setInfo i a)
    | .index a => .index (setInfo i a)
    | .check a => .check (setInfo i a)
    | .element a => .element (setInfo i a)
    | .parameter a => .parameter (setInfo i a)

/-- The node of an element: one of a built-in kind stands by itself. -/
def TableElement.toNode : TableElement ε → Node δ ε
  | column c => .column c
  | unique k => .unique k
  | index x => .index x
  | check c => .check c
  | e => .element e

namespace Node

/-- The node as a table source. -/
def source? : Node δ ε → Option (TableSource δ)
  | table t => some (.table t)
  | join j => some (.join j)
  | source s => some s
  | _ => none

/-- The node as an element of a table definition. -/
def element? : Node δ ε → Option (TableElement ε)
  | column c => some (.column c)
  | unique k => some (.unique k)
  | index x => some (.index x)
  | check c => some (.check c)
  | element e => some e
  | _ => none

end Node

end SqlTree
