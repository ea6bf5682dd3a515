import SqlTree.Node.DataType

/-! # Elements of a table definition

Columns, keys, indexes and checks, and the elements that a dialect adds. -/

namespace SqlTree

/-! ## Columns -/

structure Column where
  info : NodeInfo
  name : Expr
  dataType : Option DataType := none
  defaultValue : Option Expr := none
  notNull : Bool := false
  primaryKey : Bool := false

namespace Column

instance : HasInfo Column where
  info := Column.info
  setInfo i c := { c with info := i }

def new (name : Expr) : Fresh Column := do
  let i ← newInfo
  return { info := i, name := adopt i.id name }

def setName (c : Column) (e : Expr) : Column × Expr :=
  ({ c with name := adopt c.info.id e }, release c.name)

def setDataType (c : Column) (t : Option DataType) : Column × Option DataType :=
  let (slot, previous) := swap c.info.id c.dataType t
  ({ c with dataType := slot }, previous)

def setDefaultValue (c : Column) (e : Option Expr) : Column × Option Expr :=
  let (slot, previous) := swap c.info.id c.defaultValue e
  ({ c with defaultValue := slot }, previous)

def setNotNull (c : Column) (b : Bool) : Column := { c with notNull := b }

def setPrimaryKey (c : Column) (b : Bool) : Column := { c with primaryKey := b }

end Column

/-! ## Keys, indexes and checks -/

/-- A unique or primary key. -/
structure UniqueKey where
  info : NodeInfo
  name : Option Expr := none
  columns : List Expr := []
  primaryKey : Bool := false

namespace UniqueKey

instance : HasInfo UniqueKey where
  info := UniqueKey.info
  setInfo i k := { k with info := i }

def addColumn (k : UniqueKey) (e : Expr) : UniqueKey :=
  { k with columns := k.columns ++ [adopt k.info.id e] }

def new (columns : List Expr) (primaryKey : Bool) : Fresh UniqueKey := do
  return columns.foldl addColumn { info := ← newInfo, primaryKey }

def setName (k : UniqueKey) (e : Option Expr) : UniqueKey × Option Expr :=
  let (slot, previous) := swap k.info.id k.name e
  ({ k with name := slot }, previous)

end UniqueKey

/-- A named index. -/
structure TableIndex where
  info : NodeInfo
  name : Expr
  columns : List Expr := []
  unique : Bool := false

namespace TableIndex

instance : HasInfo TableIndex where
  info := TableIndex.info
  setInfo i x := { x with info := i }

def new (name : Expr) (columns : List Expr) : Fresh TableIndex := do
  let i ← newInfo
  return { info := i, name := adopt i.id name, columns := columns.map (adopt i.id) }

def addColumn (x : TableIndex) (e : Expr) : TableIndex :=
  { x with columns := x.columns ++ [adopt x.info.id e] }

def setUnique (x : TableIndex) (b : Bool) : TableIndex := { x with unique := b }

end TableIndex

/-- A condition on the rows. -/
structure Check where
  info : NodeInfo
  name : Option Expr := none
  expr : Expr

namespace Check

instance : HasInfo Check where
  info := Check.info
  setInfo i c := { c with info := i }

def new (e : Expr) : Fresh Check := do
  let i ← newInfo
  return { info := i, expr := adopt i.id e }

def setName (c : Check) (e : Option Expr) : Check × Option Expr :=
  let (slot, previous) := swap c.info.id c.name e
  ({ c with name := slot }, previous)

end Check

/-! ## Elements -/

/-- An element. One of a dialect has a kind, taken from `ε`, and may keep expressions of its own,
without becoming their owner: parts, which are walked, and inner ones, which are not. -/
inductive TableElement (ε : Type)
  | column (c : Column)
  | unique (k : UniqueKey)
  | index (x : TableIndex)
  | check (c : Check)
  | dialect (info : NodeInfo) (kind : ε) (parts inner : List Expr)

namespace TableElement

variable {ε : Type}

instance : HasInfo (TableElement ε) where
  info
    | column c => c.info
    | unique k => k.info
    | index x => x.info
    | check c => c.info
    | dialect i _ _ _ => i
  setInfo i
    | column c => column { c with info := i }
    | unique k => unique { k with info := i }
    | index x => index { x with info := i }
    | check c => check { c with info := i }
    | dialect _ k ps es => dialect i k ps es

/-- An element of a dialect's kind. -/
def newDialect (kind : ε) (parts inner : List Expr) : Fresh (TableElement ε) := do
  return dialect (← newInfo) kind parts inner

def column? : TableElement ε → Option Column
  | column c => some c
  | _ => none

end TableElement

end SqlTree
