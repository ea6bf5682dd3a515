import SqlTree.Node.Expr

/-! # Data types: a name and its arguments -/

namespace SqlTree

structure DataType where
  info : NodeInfo
  name : String
  arguments : List Expr := []

namespace DataType

instance : HasInfo DataType where
  info := DataType.info
  setInfo i t := { t with info := i }

def new (name : String) : Fresh DataType := do return { info := ← newInfo, name }

def addArgument (t : DataType) (e : Expr) : DataType :=
  { t with arguments := t.arguments ++ [adopt t.info.id e] }

end DataType

end SqlTree
