import SqlTree.Node.DataType

/-! # Parameters of routines

A parameter may be a cursor, with a name and parameters of its own. -/

namespace SqlTree

structure Parameter where
  info : NodeInfo
  name : Option Expr := none
  dataType : Option DataType := none
  defaultValue : Option Expr := none
  direction : Direction := .default
  noCopy : Bool := false
  constant : Bool := false
  cursor : Option Expr := none
  parameters : List Parameter := []

namespace Parameter

instance : HasInfo Parameter where
  info := Parameter.info
  setInfo i p := { p with info := i }

/-- A parameter of which nothing is known yet. -/
def empty : Fresh Parameter := do return { info := ← newInfo }

def setName (p : Parameter) (e : Option Expr) : Parameter × Option Expr :=
  let (slot, previous) := swap p.info.id p.name e
  ({ p with name := slot }, previous)

def setDataType (p : Parameter) (t : Option DataType) : Parameter × Option DataType :=
  let (slot, previous) := swap p.info.id p.dataType t
  ({ p with dataType := slot }, previous)

def setDefaultValue (p : Parameter) (e : Option Expr) : Parameter × Option Expr :=
  let (slot, previous) := swap p.info.id p.defaultValue e
  ({ p with defaultValue := slot }, previous)

def setDirection (p : Parameter) (d : Direction) : Parameter := { p with direction := d }

def setNoCopy (p : Parameter) (b : Bool) : Parameter := { p with noCopy := b }

def setConstant (p : Parameter) (b : Bool) : Parameter := { p with constant := b }

def setCursor (p : Parameter) (e : Option Expr) : Parameter × Option Expr :=
  let (slot, previous) := swap p.info.id p.cursor e
  ({ p with cursor := slot }, previous)

def addParameter (p : Parameter) (q : Parameter) : Parameter :=
  { p with parameters := p.parameters ++ [adopt p.info.id q] }

def setParameters (p : Parameter) (qs : List Parameter) : Parameter × List Parameter :=
  ({ p with parameters := qs.map (adopt p.info.id) }, p.parameters.map release)

/-- The parameter is a cursor. -/
def isCursor (p : Parameter) : Bool := p.cursor.isSome || !p.parameters.isEmpty

end Parameter

end SqlTree
