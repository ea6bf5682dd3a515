import SqlTree.Node.Source

/-! # Blueprints: table sources as plain data -/

namespace SqlTree

/-- A table source made of tables and joins, without identities: tables have a path of names, joins
an equation of two names for their condition. -/
inductive Blueprint
  | table (path : List String) (alias? : Option String) (partitions hints : List String)
      (flashback : Option Int64)
  | join (left : Blueprint) (kind : JoinKind) (right : Blueprint) (on : Option (String × String))
      (columns : List String) (natural : Bool) (alias? : Option String)

namespace Blueprint

/-- A table with its name. -/
def buildTable (e : Expr) (alias? : Option String) (partitions hints : List String)
    (flashback : Option Int64) : Fresh TableRef := do
  let t ← TableRef.new e
  let t := (← partitions.mapM Expr.newIdentifier).foldl TableRef.addPartition t
  let header := (← hints.mapM Hint.new).foldl SourceHeader.addHint (t.header.setAlias alias?).1
  let flashback ← match flashback with
    | none => pure none
    | some n => some <$> Expr.newLiteral (.integer n)
  return { t with header := (header.setFlashback flashback).1 }

/-- The condition that equates two names. -/
def buildCondition : Option (String × String) → Fresh (Option Expr)
  | none => return none
  | some (l, r) => do
    let left ← Expr.newIdentifier l
    return some (← Expr.newBinary left .equal (← Expr.newIdentifier r))

/-- Builds the source. A table without a path becomes one that names nothing, whatever else the
blueprint says of it. -/
def build {δ : Type} : Blueprint → Fresh (TableSource δ)
  | table path alias? partitions hints flashback => do
    match ← Expr.newPath? path with
    | none => return .table (← TableRef.empty)
    | some e => return .table (← buildTable e alias? partitions hints flashback)
  | join left kind right on columns natural alias? => do
    let condition ← buildCondition on
    let left ← left.build
    let right ← right.build
    let j ← Join.new left kind right condition
    let j := (← columns.mapM Expr.newIdentifier).foldl Join.addColumn j
    return .join (setHeader ((j.setNatural natural).header.setAlias alias?).1
      (j.setNatural natural))

end Blueprint

end SqlTree
