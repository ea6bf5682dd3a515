import SqlTree.Node.Any

/-! # Outlines: what a walk sees of a tree

The outline of a node lists what is walked below it, in the order in which it is walked. Hints,
flashback expressions and the inner expressions of a dialect's elements are not part of it. -/

namespace SqlTree

/-- A node with the outlines of its walked children. -/
inductive Outline (α : Type)
  | node (info : NodeInfo) (subject : α) (children : List (Outline α))

/-- A node as a visitor is told of it. Wrapped sources and elements appear as what is inside. -/
inductive Subject (δ ε : Type)
  | expr (e : Expr)
  | dataType (t : DataType)
  | hint (h : Hint)
  | select (s : Select)
  | table (t : TableRef)
  | join (j : JoinSource δ)
  | dialect (header : SourceHeader) (kind : δ) (parts : List Expr)
  | create (c : CreateTable ε)
  | column (c : Column)
  | unique (k : UniqueKey)
  | index (x : TableIndex)
  | check (c : Check)
  | dialectElement (info : NodeInfo) (kind : ε) (parts inner : List Expr)
  | parameter (p : Parameter)

variable {δ ε : Type}

/-- The outlines of what is in a slot: one or none. -/
def outlineSlot {α β : Type} (outline : α → Outline β) (slot : Option α) : List (Outline β) :=
  (slot.map outline).toList

def Expr.outline : Expr → Outline (Subject δ ε)
  | identifier i name => .node i (.expr (identifier i name)) []
  | property i owner name => .node i (.expr (property i owner name)) [owner.outline]
  | literal i value => .node i (.expr (literal i value)) []
  | binary i left op right => .node i (.expr (binary i left op right)) [left.outline, right.outline]

def DataType.outline (t : DataType) : Outline (Subject δ ε) :=
  .node t.info (.dataType t) (t.arguments.map Expr.outline)

def Hint.outline (h : Hint) : Outline (Subject δ ε) := .node h.info (.hint h) []

def Select.outline (s : Select) : Outline (Subject δ ε) := .node s.info (.select s) []

def TableRef.outline (t : TableRef) : Outline (Subject δ ε) :=
  .node t.header.info (.table t)
    (outlineSlot Expr.outline t.expr ++ t.partitions.map Expr.outline)

/-- The outline of a join, given the outlines of its sides. -/
def JoinSource.outlineAround (j : JoinSource δ) (sides : List (Outline (Subject δ ε))) :
    Outline (Subject δ ε) :=
  .node j.header.info (.join j)
    (sides ++ outlineSlot Expr.outline j.condition ++ j.columns.map Expr.outline)

namespace TableSource

mutual

def outline : TableSource δ → Outline (Subject δ ε)
  | table t => t.outline
  | join ⟨h, l, k, r, c, us, n⟩ =>
    JoinSource.outlineAround ⟨h, l, k, r, c, us, n⟩ (outlineSide l ++ outlineSide r)
  | dialect h kind parts => .node h.info (.dialect h kind parts) (parts.map Expr.outline)

def outlineSide : Option (TableSource δ) → List (Outline (Subject δ ε))
  | none => []
  | some s => [s.outline]

end

end TableSource

def JoinSource.outline (j : JoinSource δ) : Outline (Subject δ ε) := (TableSource.join j).outline

def Column.outline (c : Column) : Outline (Subject δ ε) :=
  .node c.info (.column c)
    (c.name.outline :: (outlineSlot DataType.outline c.dataType ++
      outlineSlot Expr.outline c.defaultValue))

def UniqueKey.outline (k : UniqueKey) : Outline (Subject δ ε) :=
  .node k.info (.unique k) (outlineSlot Expr.outline k.name ++ k.columns.map Expr.outline)

def TableIndex.outline (x : TableIndex) : Outline (Subject δ ε) :=
  .node x.info (.index x) (x.name.outline :: x.columns.map Expr.outline)

def Check.outline (c : Check) : Outline (Subject δ ε) :=
  .node c.info (.check c) (outlineSlot Expr.outline c.name ++ [c.expr.outline])

def TableElement.outline : TableElement ε → Outline (Subject δ ε)
  | column c => c.outline
  | unique k => k.outline
  | index x => x.outline
  | check c => c.outline
  | dialect i kind parts inner =>
    .node i (.dialectElement i kind parts inner) (parts.map Expr.outline)

def CreateTable.outline (c : CreateTable ε) : Outline (Subject δ ε) :=
  .node c.info (.create c)
    (outlineSlot TableRef.outline c.source ++ c.elements.map TableElement.outline ++
      outlineSlot TableRef.outline c.inherits ++ outlineSlot Select.outline c.select)

/-- The outline of a parameter, given the outlines of its cursor's parameters. -/
def Parameter.outlineAround (p : Parameter) (parameters : List (Outline (Subject δ ε))) :
    Outline (Subject δ ε) :=
  .node p.info (.parameter p)
    (outlineSlot Expr.outline p.name ++ outlineSlot DataType.outline p.dataType ++
      outlineSlot Expr.outline p.defaultValue ++ outlineSlot Expr.outline p.cursor ++ parameters)

namespace Parameter

mutual

def outline : Parameter → Outline (Subject δ ε)
  | ⟨i, n, t, d, dir, nc, k, c, ps⟩ =>
    outlineAround ⟨i, n, t, d, dir, nc, k, c, ps⟩ (outlineAll ps)

def outlineAll : List Parameter → List (Outline (Subject δ ε))
  | [] => []
  | p :: ps => p.outline :: outlineAll ps

end

end Parameter

def Node.outline : Node δ ε → Outline (Subject δ ε)
  | expr e => e.outline
  | dataType t => t.outline
  | hint h => h.outline
  | select s => s.outline
  | table t => t.outline
  | join j => JoinSource.outline j
  | source s => s.outline
  | create c => c.outline
  | column c => c.outline
  | unique k => k.outline
  | index x => x.outline
  | check c => c.outline
  | element e => e.outline
  | parameter p => p.outline

end SqlTree
