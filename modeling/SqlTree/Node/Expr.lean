import SqlTree.Node.Keyword
import SqlTree.Node.Value
import SqlTree.NodeInfo

/-! # Expressions

An expression is a name, a name inside an owner, a literal, or an operator between two operands.
It owns its operands. -/

namespace SqlTree

inductive Expr
  | identifier (info : NodeInfo) (name : String)
  | property (info : NodeInfo) (owner : Expr) (name : String)
  | literal (info : NodeInfo) (value : Value)
  | binary (info : NodeInfo) (left : Expr) (op : BinaryOperator) (right : Expr)

namespace Expr

instance : HasInfo Expr where
  info
    | identifier i _ | property i _ _ | literal i _ | binary i _ _ _ => i
  setInfo i
    | identifier _ n => identifier i n
    | property _ o n => property i o n
    | literal _ v => literal i v
    | binary _ l op r => binary i l op r

/-! ## New expressions -/

def newIdentifier (name : String) : Fresh Expr := do
  return identifier (← newInfo) name

def newProperty (owner : Expr) (name : String) : Fresh Expr := do
  let i ← newInfo
  return property i (adopt i.id owner) name

def newLiteral (value : Value) : Fresh Expr := do
  return literal (← newInfo) value

def newBinary (left : Expr) (op : BinaryOperator) (right : Expr) : Fresh Expr := do
  let i ← newInfo
  return binary i (adopt i.id left) op (adopt i.id right)

/-- A qualified name: the first segment owns nothing, each further one stands inside what comes
before. Without segments there is no name. -/
def newPath? : List String → Fresh (Option Expr)
  | [] => return none
  | first :: rest => do return some (← rest.foldlM newProperty (← newIdentifier first))

/-! ## Names -/

/-- The last segment of a name. -/
def simpleName? : Expr → Option String
  | identifier _ n | property _ _ n => some n
  | _ => none

/-- The name, if it is not qualified. -/
def identifier? : Expr → Option String
  | identifier _ n => some n
  | _ => none

def isName (e : Expr) : Bool := e.simpleName?.isSome

/-! ## The shape of an expression -/

/-- What is left of an expression without the infos of its nodes. Two expressions are equal if they
have the same shape. -/
inductive Shape
  | identifier (name : String)
  | property (owner : Shape) (name : String)
  | literal (value : Value)
  | binary (left : Shape) (op : BinaryOperator) (right : Shape)
deriving DecidableEq

def shape : Expr → Shape
  | identifier _ n => .identifier n
  | property _ o n => .property o.shape n
  | literal _ v => .literal v
  | binary _ l op r => .binary l.shape op r.shape

end Expr

end SqlTree
