import SqlTree.Node.Element
import SqlTree.Node.Source

/-! # Table definitions -/

namespace SqlTree

/-- A CREATE TABLE statement. Its attributes may lie in a bag of any kind `B`. -/
structure CreateTable (ε : Type) (B : Type := Attributes) where
  info : NodeInfo B
  dbType : Option String := none
  ifNotExists : Bool := false
  kind : TableKind := .default
  source : Option TableRef := none
  elements : List (TableElement ε) := []
  inherits : Option TableRef := none
  select : Option Select := none

namespace CreateTable

variable {ε : Type}

instance : HasInfo (CreateTable ε) where
  info := CreateTable.info
  setInfo i c := { c with info := i }

/-- An empty statement for a kind of database, or for any. -/
def new (dbType : Option String) : Fresh (CreateTable ε) := do
  return { info := ← newInfo, dbType }

def setSource (c : CreateTable ε) (t : Option TableRef) : CreateTable ε × Option TableRef :=
  let (slot, previous) := swap c.info.id c.source t
  ({ c with source := slot }, previous)

/-- Names the table: the name gets a table source of its own, in place of the one before. -/
def setName (c : CreateTable ε) (e : Expr) : Fresh (CreateTable ε × Option TableRef) := do
  return c.setSource (some (← TableRef.new e))

/-- The expression that names the table, if it is a name. -/
def name? (c : CreateTable ε) : Option Expr := c.source.bind (·.name?)

def setIfNotExists (c : CreateTable ε) (b : Bool) : CreateTable ε := { c with ifNotExists := b }

def setKind (c : CreateTable ε) (k : TableKind) : CreateTable ε := { c with kind := k }

def setInherits (c : CreateTable ε) (t : Option TableRef) : CreateTable ε × Option TableRef :=
  let (slot, previous) := swap c.info.id c.inherits t
  ({ c with inherits := slot }, previous)

def setSelect (c : CreateTable ε) (s : Option Select) : CreateTable ε × Option Select :=
  let (slot, previous) := swap c.info.id c.select s
  ({ c with select := slot }, previous)

/-! ## Elements -/

def addElement (c : CreateTable ε) (e : TableElement ε) : CreateTable ε :=
  { c with elements := c.elements ++ [adopt c.info.id e] }

/-- Takes out the element at a place; nothing happens where there is none. -/
def removeElement (c : CreateTable ε) (i : Nat) : CreateTable ε × Option (TableElement ε) :=
  ({ c with elements := c.elements.eraseIdx i }, c.elements[i]?.map release)

/-- Puts an element in the place of another one, as it is. -/
def putElement (c : CreateTable ε) (i : Nat) (e : TableElement ε) : CreateTable ε :=
  { c with elements := c.elements.set i e }

/-- Exchanges the elements at two places. -/
def swapElements (c : CreateTable ε) (i j : Nat) : CreateTable ε :=
  match c.elements[i]?, c.elements[j]? with
  | some a, some b => (c.putElement i b).putElement j a
  | _, _ => c

/-- The columns, in the order of the elements. -/
def columns (c : CreateTable ε) : List Column := c.elements.filterMap (·.column?)

/-! ## Comments -/

section

variable {M : Type → Type} [OrderedMap M] {τ : Type} [DecidableEq τ] {V : τ → Type}

/-- The statement with other attributes. -/
def withAttributes {B : Type} (c : CreateTable ε B) (b : B) : CreateTable ε B :=
  { c with info := { c.info with attributes := b } }

/-- Adds comments that stand before the body. They follow the ones already there; a value of
another type under their key gives way to them. No comments, no change. -/
def addBodyComments (c : CreateTable ε (Bag M (AttributeType.Carrier V)))
    (comments : List String) : CreateTable ε (Bag M (AttributeType.Carrier V)) :=
  if comments.isEmpty then c
  else
    match c.info.attributes.modify .texts bodyCommentKey fun (ts : List String) =>
        ts ++ comments with
    | (b, some _) => c.withAttributes b
    | (b, none) => c.withAttributes (b.insert bodyCommentKey ⟨.texts, comments⟩).1

/-- The comments that stand before the body. -/
def bodyComments (c : CreateTable ε (Bag M (AttributeType.Carrier V))) : List String :=
  (c.info.attributes.get? .texts bodyCommentKey).getD ([] : List String)

def hasBodyComment (c : CreateTable ε (Bag M (AttributeType.Carrier V))) : Bool :=
  !c.bodyComments.isEmpty

end

end CreateTable

end SqlTree
