import SqlTree.Dialect
import SqlTree.Node.Any
import SqlTree.Walk.Depth

/-! # Copies

A copy says the same as what it is made from, but all its nodes are new: they have identities of
their own, and no attributes. It is a root. Copies of table sources can fail, at a ceiling on
nested joins or at a source of a dialect's kind that cannot be copied. -/

namespace SqlTree

def Expr.clone : Expr → Fresh Expr
  | identifier _ name => newIdentifier name
  | property _ owner name => do newProperty (← owner.clone) name
  | literal _ value => newLiteral value
  | binary _ left op right => do
    let left ← left.clone
    newBinary left op (← right.clone)

/-- A copy of what is in a slot. -/
def cloneSlot {α : Type} (clone : α → Fresh α) : Option α → Fresh (Option α)
  | none => return none
  | some a => do return some (← clone a)

def DataType.clone (t : DataType) : Fresh DataType := do
  let copy ← DataType.new t.name
  return (← t.arguments.mapM Expr.clone).foldl addArgument copy

def Hint.clone (h : Hint) : Fresh Hint := Hint.new h.text

def Select.clone (s : Select) : Fresh Select := Select.new s.text

/-! ## Table sources -/

def SourceHeader.clone (h : SourceHeader) : Fresh SourceHeader := do
  let copy ← SourceHeader.new
  let hints ← h.hints.mapM Hint.clone
  let flashback ← cloneSlot Expr.clone h.flashback
  return (((copy.setAlias h.alias?).1.setHints hints).1.setFlashback flashback).1

/-- A copy of a table. The catalog's entry stays behind. -/
def TableRef.clone (t : TableRef) : Fresh TableRef := do
  let header ← t.header.clone
  let expr ← cloneSlot Expr.clone t.expr
  let partitions ← t.partitions.mapM Expr.clone
  return partitions.foldl addPartition (({ header } : TableRef).setExpr expr).1

/-- A computation that draws identities and can fail. -/
abbrev Cloning := ExceptT TreeError Fresh

/-- A copy of a join, given what copies its sides. They are copied after its header and its columns,
and before its condition. -/
def Join.cloneAround {σ : Type} [HasInfo σ] (j : Join σ) (left right : Cloning (Option σ)) :
    Cloning (Join σ) := do
  let header ← j.header.clone
  let columns : List Expr ← show Fresh (List Expr) from j.columns.mapM Expr.clone
  let left ← left
  let right ← right
  let condition ← cloneSlot Expr.clone j.condition
  let copy : Join σ := { header, kind := j.kind, natural := j.natural }
  let copy := (((copy.setLeft left).1.setRight right).1.setCondition condition).1
  return columns.foldl addColumn copy

namespace TableSource

variable {δ : Type} [SourceDialect δ]

/-- A copy of a source of a dialect's kind, if the kind can be copied. -/
def cloneDialect (h : SourceHeader) (kind : δ) (parts : List Expr) : Cloning (TableSource δ) :=
  if SourceDialect.clonable kind then do
    let header ← h.clone
    let copies : List Expr ← show Fresh (List Expr) from parts.mapM Expr.clone
    return dialect header kind copies
  else throw (.cloneUnsupported (SourceDialect.variantName kind))

mutual

/-- A copy of a source that lies at a depth. -/
def cloneAt (d : Depth) : TableSource δ → Cloning (TableSource δ)
  | table t => do return table (← t.clone)
  | join ⟨h, l, k, r, c, us, n⟩ =>
    join <$> Join.cloneAround ⟨h, l, k, r, c, us, n⟩ (cloneSide d l) (cloneSide d r)
  | dialect h kind parts => cloneDialect h kind parts

/-- A copy of a side of a join that lies at a depth: the side is one level further down. -/
def cloneSide (d : Depth) : Option (TableSource δ) → Cloning (Option (TableSource δ))
  | none => return none
  | some s => do
    let below ← d.descend
    return some (← s.cloneAt below)

end

def tryClone (s : TableSource δ) (limit : Nat) : Cloning (TableSource δ) :=
  s.cloneAt (.root limit)

end TableSource

def JoinSource.tryClone {δ : Type} [SourceDialect δ] (j : JoinSource δ) (limit : Nat) :
    Cloning (JoinSource δ) :=
  j.cloneAround (TableSource.cloneSide (.root limit) j.left)
    (TableSource.cloneSide (.root limit) j.right)

/-! ## Parameters -/

/-- A copy of a parameter, given what copies its cursor's parameters. They are copied last. -/
def Parameter.cloneAround (p : Parameter) (parameters : Fresh (List Parameter)) :
    Fresh Parameter := do
  let copy := (((← empty).setDirection p.direction).setNoCopy p.noCopy).setConstant p.constant
  let name ← cloneSlot Expr.clone p.name
  let dataType ← cloneSlot DataType.clone p.dataType
  let defaultValue ← cloneSlot Expr.clone p.defaultValue
  let cursor ← cloneSlot Expr.clone p.cursor
  let copy := ((copy.setName name).1.setDataType dataType).1
  let copy := ((copy.setDefaultValue defaultValue).1.setCursor cursor).1
  return (copy.setParameters (← parameters)).1

namespace Parameter

mutual

def clone : Parameter → Fresh Parameter
  | ⟨i, n, t, d, dir, nc, k, c, ps⟩ =>
    cloneAround ⟨i, n, t, d, dir, nc, k, c, ps⟩ (cloneEach ps)

def cloneEach : List Parameter → Fresh (List Parameter)
  | [] => return []
  | p :: ps => do return (← p.clone) :: (← cloneEach ps)

end

end Parameter

/-! ## Any node -/

/-- A copy of a node, for the kinds that can be copied. The ceiling matters to sources only. -/
def Node.tryClone? {δ ε : Type} [SourceDialect δ] (limit : Nat) :
    Node δ ε → Option (Cloning (Node δ ε))
  | expr e => some do return expr (← e.clone)
  | dataType t => some do return dataType (← t.clone)
  | hint h => some do return hint (← h.clone)
  | select s => some do return select (← s.clone)
  | table t => some do return table (← t.clone)
  | join j => some do return join (← JoinSource.tryClone j limit)
  | source s => some do return source (← s.tryClone limit)
  | parameter p => some do return parameter (← p.clone)
  | _ => none

end SqlTree
