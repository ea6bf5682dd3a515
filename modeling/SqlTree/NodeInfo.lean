import SqlTree.Attribute
import SqlTree.Identity
import SqlTree.Text.Quoted

/-! # What every node carries

A node has an identity, the identity of the node that owns it, and attributes. The operations
that put a child into a slot or take it out keep the link to the owner in step. -/

namespace SqlTree

/-- Identity, owner and attributes of a node. A node without an owner is a root. -/
structure NodeInfo (B : Type := Attributes) where
  id : NodeId
  parent : Option NodeId := none
  attributes : B := by exact Bag.empty

/-- The info of a new node: an identity of its own, no owner, no attributes. -/
def newInfo : Fresh NodeInfo := do return { id := ← freshId }

/-- The kinds of node. -/
class HasInfo (α : Type) where
  info : α → NodeInfo
  setInfo : NodeInfo → α → α

export HasInfo (info setInfo)

variable {α : Type} [HasInfo α]

def nodeId (a : α) : NodeId := (info a).id

def parent? (a : α) : Option NodeId := (info a).parent

def setParent (p : Option NodeId) (a : α) : α := setInfo { info a with parent := p } a

def attributes (a : α) : Attributes := (info a).attributes

def setAttributes (b : Attributes) (a : α) : α := setInfo { info a with attributes := b } a

/-! ## Owning children -/

/-- The child, now owned by `owner`. -/
def adopt (owner : NodeId) (child : α) : α := setParent (some owner) child

/-- The child, now a root. -/
def release (child : α) : α := setParent none child

/-- What a slot of `owner` holds after `value` is put in, and what it held before. -/
def swap (owner : NodeId) (slot value : Option α) : Option α × Option α :=
  (value.map (adopt owner), slot.map release)

/-! ## The text of an info -/

/-- The keys of a bag as a list in brackets. -/
def Bag.describe {M : Type → Type} [OrderedMap M] {τ : Type} {V : τ → Type} (b : Bag M V) :
    String :=
  "[" ++ ", ".intercalate (b.keys.map Text.quoted) ++ "]"

/-- One line on a node's info. How an identity is written is the reader's choice; the attributes
are listed only if there are some. -/
def NodeInfo.describe (label : NodeId → String) (i : NodeInfo) : String :=
  let name (n : NodeId) := "NodeId(" ++ label n ++ ")"
  let owner := match i.parent with
    | none => "None"
    | some p => "Some(" ++ name p ++ ")"
  let bag := if i.attributes.isEmpty then "" else ", attributes: " ++ i.attributes.describe
  "NodeMeta \x7b id: " ++ name i.id ++ ", parent: " ++ owner ++ bag ++ " \x7d"

end SqlTree
