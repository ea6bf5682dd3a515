import SqlTree.Node.Any

/-! # Edits

An edit is one change to one node. It takes over the nodes that it is given and hands back the ones
that it takes out, as roots. Which edits a node takes depends on its kind. -/

namespace SqlTree

/-- The changes that can be made to a node. -/
inductive Edit (δ ε : Type)
  -- any table source
  | setAlias (a : Option String)
  | addHint (h : Hint)
  | setHints (hs : List Hint)
  | setFlashback (e : Option Expr)
  -- tables
  | setExpr (e : Option Expr)
  | addPartition (e : Expr)
  | setSchemaObject (name : Option String)
  -- joins
  | setLeft (s : Option (TableSource δ))
  | setRight (s : Option (TableSource δ))
  | setJoinKind (k : JoinKind)
  | setCondition (e : Option Expr)
  | addUsing (e : Expr)
  | setNatural (b : Bool)
  -- whatever has a name
  | setName (e : Option Expr)
  -- table definitions
  | setSource (t : Option TableRef)
  | setIfNotExists (b : Bool)
  | setTableKind (k : TableKind)
  | addElement (e : TableElement ε)
  | removeElement (i : Nat)
  | swapElements (i j : Nat)
  | setInherits (t : Option TableRef)
  | setSelect (s : Option Select)
  | addComments (comments : List String)
  -- columns, parameters
  | setDataType (t : Option DataType)
  | setDefaultValue (e : Option Expr)
  | setNotNull (b : Bool)
  | setPrimaryKey (b : Bool)
  -- keys and indexes
  | addColumn (e : Expr)
  | setUnique (b : Bool)
  -- data types
  | addArgument (e : Expr)
  -- parameters
  | setCursor (e : Option Expr)
  | setDirection (d : Direction)
  | setNoCopy (b : Bool)
  | setConstant (b : Bool)
  | addParameter (p : Parameter)
  | setParameters (ps : List Parameter)

/-- What an edit hands back. -/
inductive Handback (δ ε : Type)
  | nothing
  | node (n : Node δ ε)
  | nodes (ns : List (Node δ ε))
  | text (s : Option String)

variable {δ ε : Type}

/-- What was in a slot, handed back. -/
def Handback.slot {α : Type} (wrap : α → Node δ ε) : Option α → Handback δ ε
  | none => .nothing
  | some a => .node (wrap a)

/-- A changed node and what the change hands back; none if the node does not take the edit. -/
abbrev Edited (δ ε α : Type) := Option (α × Handback δ ε)

/-- A change that hands back nothing. -/
def edited {α : Type} (a : α) : Edited δ ε α := some (a, .nothing)

/-- A change that hands back what was in a slot. -/
def editedSlot {α β : Type} (wrap : β → Node δ ε) (r : α × Option β) : Edited δ ε α :=
  some (r.1, .slot wrap r.2)

def SourceHeader.edit (h : SourceHeader) : Edit δ ε → Edited δ ε SourceHeader
  | .setAlias a => some ((h.setAlias a).1, .text (h.setAlias a).2)
  | .addHint x => edited (h.addHint x)
  | .setHints xs => some ((h.setHints xs).1, .nodes ((h.setHints xs).2.map .hint))
  | .setFlashback e => editedSlot .expr (h.setFlashback e)
  | _ => none

/-- Edits the header of a table source. -/
def editHeader {α : Type} [HasHeader α] (a : α) (e : Edit δ ε) : Edited δ ε α :=
  ((header a).edit e).map fun (h, back) => (setHeader h a, back)

def TableRef.edit (t : TableRef) : Edit δ ε → Edited δ ε TableRef
  | .setExpr e => editedSlot .expr (t.setExpr e)
  | .addPartition e => edited (t.addPartition e)
  | .setSchemaObject n => edited (t.setSchemaObject n)
  | e => editHeader t e

def JoinSource.edit (j : JoinSource δ) : Edit δ ε → Edited δ ε (JoinSource δ)
  | .setLeft s => editedSlot .source (j.setLeft s)
  | .setRight s => editedSlot .source (j.setRight s)
  | .setJoinKind k => edited (j.setKind k)
  | .setCondition e => editedSlot .expr (j.setCondition e)
  | .addUsing e => edited (j.addColumn e)
  | .setNatural b => edited (j.setNatural b)
  | e => editHeader j e

def Column.edit (c : Column) : Edit δ ε → Edited δ ε Column
  | .setName (some e) => some ((c.setName e).1, .node (.expr (c.setName e).2))
  | .setDataType t => editedSlot .dataType (c.setDataType t)
  | .setDefaultValue e => editedSlot .expr (c.setDefaultValue e)
  | .setNotNull b => edited (c.setNotNull b)
  | .setPrimaryKey b => edited (c.setPrimaryKey b)
  | _ => none

def UniqueKey.edit (k : UniqueKey) : Edit δ ε → Edited δ ε UniqueKey
  | .setName e => editedSlot .expr (k.setName e)
  | .addColumn e => edited (k.addColumn e)
  | _ => none

def TableIndex.edit (x : TableIndex) : Edit δ ε → Edited δ ε TableIndex
  | .addColumn e => edited (x.addColumn e)
  | .setUnique b => edited (x.setUnique b)
  | _ => none

def Check.edit (c : Check) : Edit δ ε → Edited δ ε Check
  | .setName e => editedSlot .expr (c.setName e)
  | _ => none

def DataType.edit (t : DataType) : Edit δ ε → Edited δ ε DataType
  | .addArgument e => edited (t.addArgument e)
  | _ => none

def Parameter.edit (p : Parameter) : Edit δ ε → Edited δ ε Parameter
  | .setName e => editedSlot .expr (p.setName e)
  | .setDataType t => editedSlot .dataType (p.setDataType t)
  | .setDefaultValue e => editedSlot .expr (p.setDefaultValue e)
  | .setCursor e => editedSlot .expr (p.setCursor e)
  | .setDirection d => edited (p.setDirection d)
  | .setNoCopy b => edited (p.setNoCopy b)
  | .setConstant b => edited (p.setConstant b)
  | .addParameter q => edited (p.addParameter q)
  | .setParameters qs =>
    some ((p.setParameters qs).1, .nodes ((p.setParameters qs).2.map .parameter))
  | _ => none

/-- Naming a table makes a new table source, so it draws identities. -/
def CreateTable.edit (c : CreateTable ε) : Edit δ ε → Fresh (Edited δ ε (CreateTable ε))
  | .setName (some e) => do return editedSlot .table (← c.setName e)
  | .setSource t => return editedSlot .table (c.setSource t)
  | .setIfNotExists b => return edited (c.setIfNotExists b)
  | .setTableKind k => return edited (c.setKind k)
  | .addElement e => return edited (c.addElement e)
  | .removeElement i => return editedSlot TableElement.toNode (c.removeElement i)
  | .swapElements i j => return edited (c.swapElements i j)
  | .setInherits t => return editedSlot .table (c.setInherits t)
  | .setSelect s => return editedSlot .select (c.setSelect s)
  | .addComments cs => return edited (c.addBodyComments cs)
  | _ => return none

namespace Node

/-- Edits a node. -/
def edit (e : Edit δ ε) : Node δ ε → Fresh (Edited δ ε (Node δ ε))
  | dataType a => return (a.edit e).map fun (a, back) => (dataType a, back)
  | table a => return (a.edit e).map fun (a, back) => (table a, back)
  | join a => return (JoinSource.edit a e).map fun (a, back) => (join a, back)
  | source a => return (editHeader a e).map fun (a, back) => (source a, back)
  | create a => do return (← a.edit e).map fun (a, back) => (create a, back)
  | column a => return (a.edit e).map fun (a, back) => (column a, back)
  | unique a => return (a.edit e).map fun (a, back) => (unique a, back)
  | index a => return (a.edit e).map fun (a, back) => (index a, back)
  | check a => return (a.edit e).map fun (a, back) => (check a, back)
  | parameter a => return (a.edit e).map fun (a, back) => (parameter a, back)
  | _ => return none

/-! ## Parts that are worked on in place -/

/-- Where in a node to work: the node itself, an element of a table definition, or the join inside
a table source. -/
inductive Focus
  | whole
  | element (i : Nat)
  | join

/-- The part of a node at a focus. -/
def part? : Focus → Node δ ε → Option (Node δ ε)
  | .whole, n => some n
  | .element i, create c => c.elements[i]?.map (·.toNode)
  | .join, source (.join j) => some (join j)
  | _, _ => none

/-- The node with another part at a focus. -/
def setPart (part : Node δ ε) : Focus → Node δ ε → Node δ ε
  | .whole, _ => part
  | .element i, create c =>
    match part.element? with
    | some e => create (c.putElement i e)
    | none => create c
  | .join, source s =>
    match part with
    | join j => source (.join j)
    | _ => source s
  | _, n => n

end Node

end SqlTree
