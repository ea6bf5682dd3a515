import SqlTree.OrderedMap

/-! # Attribute bags

A bag keeps values of several types under text keys, in the order in which the keys came in.
Nothing is allocated until the first value is stored. Reading names the type that is expected,
and a value of another type reads as missing. -/

namespace SqlTree

/-- A value together with its type. -/
structure Attribute {τ : Type} (V : τ → Type) where
  type : τ
  value : V type

/-- The value, if it has the type `t`. -/
def Attribute.as? {τ : Type} [DecidableEq τ] {V : τ → Type} (t : τ) (a : Attribute V) :
    Option (V t) :=
  if h : a.type = t then some (h ▸ a.value) else none

/-- Values of the types `V` under text keys, in an ordered map. There is no map at all before the
first `insert`. -/
structure Bag (M : Type → Type) {τ : Type} (V : τ → Type) where
  entries : Option (M (Attribute V)) := none

namespace Bag

section

variable {M : Type → Type} {τ : Type} {V : τ → Type}

def empty : Bag M V := {}

def isAllocated (b : Bag M V) : Bool := b.entries.isSome

end

variable {M : Type → Type} [OrderedMap M] {τ : Type} {V : τ → Type}

/-- The keys in the order in which they came in. -/
def keys (b : Bag M V) : List String := (b.entries.map OrderedMap.keys).getD []

def size (b : Bag M V) : Nat := (b.entries.map OrderedMap.size).getD 0

def isEmpty (b : Bag M V) : Bool := b.entries.all OrderedMap.isEmpty

def contains (b : Bag M V) (key : String) : Bool := b.entries.any (OrderedMap.contains · key)

/-- The value under a key, whatever its type. -/
def find? (b : Bag M V) (key : String) : Option (Attribute V) :=
  b.entries.bind (OrderedMap.get? · key)

/-- The value under a key, read as the type `t`. -/
def get? [DecidableEq τ] (b : Bag M V) (t : τ) (key : String) : Option (V t) :=
  (b.find? key).bind (·.as? t)

/-- Stores a value and hands back the one that it displaces. -/
def insert (b : Bag M V) (key : String) (a : Attribute V) : Bag M V × Option (Attribute V) :=
  let (entries, displaced) := OrderedMap.insert (b.entries.getD OrderedMap.empty) key a
  (⟨some entries⟩, displaced)

/-- Takes out a value and hands it back; the other keys keep their order. -/
def erase (b : Bag M V) (key : String) : Bag M V × Option (Attribute V) :=
  match b.entries with
  | none => (b, none)
  | some entries =>
    let (entries, displaced) := OrderedMap.shiftRemove entries key
    (⟨some entries⟩, displaced)

/-- Refers to the value under a key if it has the type `t`: the bag after `f` has changed the value
where it stands, and the value that the reference found. -/
def modify [DecidableEq τ] (b : Bag M V) (t : τ) (key : String) (f : V t → V t) :
    Bag M V × Option (V t) :=
  match b.get? t key with
  | some v => (⟨b.entries.map (OrderedMap.update · key fun _ => ⟨t, f v⟩)⟩, some v)
  | none => (b, none)

end Bag

/-! ## The bags of nodes -/

/-- The types of the values in a node's bag: lists of texts, in which statements keep comments, and
the types `τ` that the users of a tree bring along. -/
inductive AttributeType (τ : Type)
  | texts
  | foreign (type : τ)
deriving DecidableEq

/-- The values of each type, where `V` has those of the users' types. -/
abbrev AttributeType.Carrier {τ : Type} (V : τ → Type) : AttributeType τ → Type
  | .texts => List String
  | .foreign t => V t

/-- Some types that users bring along. -/
inductive Scalar
  | u32
  | u64
  | text
deriving DecidableEq

abbrev Scalar.Carrier : Scalar → Type
  | .u32 => UInt32
  | .u64 => UInt64
  | .text => String

/-- The attributes of a node. -/
abbrev Attributes := Bag Entries (AttributeType.Carrier Scalar.Carrier)

/-- An attribute of a node. -/
abbrev AttributeValue := Attribute (AttributeType.Carrier Scalar.Carrier)

/-- The key under which a statement keeps the comments that stand before its body. -/
def bodyCommentKey : String := "format.body_before_comment"

end SqlTree
