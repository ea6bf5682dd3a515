import SqlTree.Dialect
import SqlTree.Node.Any

/-! # SQL text

The text of every kind of node. A part that is missing leaves no text, and operators are written
without parentheses around their operands. -/

namespace SqlTree

/-- Items with commas between them. -/
def commaList (items : List String) : String := ", ".intercalate items

def Expr.render : Expr → String
  | identifier _ name => name
  | property _ owner name => owner.render ++ "." ++ name
  | literal _ value => value.render
  | binary _ left op right => left.render ++ " " ++ op.symbol ++ " " ++ right.render

/-- The texts of expressions, with commas between them. -/
def renderExprs (es : List Expr) : String := commaList (es.map Expr.render)

def DataType.render (t : DataType) : String :=
  t.name ++ (if t.arguments.isEmpty then "" else "(" ++ renderExprs t.arguments ++ ")")

def Hint.render (h : Hint) : String := "/*+ " ++ h.text ++ " */"

def Select.render (s : Select) : String := s.text

/-! ## Table sources -/

def TableRef.render (t : TableRef) : String := (t.expr.map Expr.render).getD ""

/-- The text of a join, given the texts of its sides. A USING list is written only where there is
no condition. -/
def Join.renderAround {σ : Type} (j : Join σ) (left right : String) : String :=
  let clause := match j.condition with
    | some e => " ON " ++ e.render
    | none => if j.columns.isEmpty then "" else " USING (" ++ renderExprs j.columns ++ ")"
  left ++ " " ++ j.kind.keyword ++ " " ++ right ++ clause

namespace TableSource

variable {δ : Type} [SourceDialect δ]

def renderDialect (kind : δ) (parts : List Expr) : String :=
  SourceDialect.render kind (parts.map Expr.render)

mutual

def render : TableSource δ → String
  | table t => t.render
  | join ⟨h, l, k, r, c, us, n⟩ =>
    Join.renderAround (⟨h, l, k, r, c, us, n⟩ : JoinSource δ) (renderSide l) (renderSide r)
  | dialect _ kind parts => renderDialect kind parts

def renderSide : Option (TableSource δ) → String
  | none => ""
  | some s => s.render

end

end TableSource

def JoinSource.render {δ : Type} [SourceDialect δ] (j : JoinSource δ) : String :=
  (TableSource.join j).render

/-! ## Table definitions -/

/-- The name of a constraint, before the constraint. -/
def renderConstraintName : Option Expr → String
  | none => ""
  | some e => "CONSTRAINT " ++ e.render ++ " "

def Column.render (c : Column) : String :=
  let type := match c.dataType with
    | some t => " " ++ t.render
    | none => ""
  let default := match c.defaultValue with
    | some e => " DEFAULT " ++ e.render
    | none => ""
  c.name.render ++ type ++ (if c.notNull then " NOT NULL" else "") ++ default ++
    (if c.primaryKey then " PRIMARY KEY" else "")

def UniqueKey.render (k : UniqueKey) : String :=
  renderConstraintName k.name ++ (if k.primaryKey then "PRIMARY KEY (" else "UNIQUE (") ++
    renderExprs k.columns ++ ")"

def TableIndex.render (x : TableIndex) : String :=
  (if x.unique then "UNIQUE " else "") ++ "INDEX " ++ x.name.render ++ " (" ++
    renderExprs x.columns ++ ")"

def Check.render (c : Check) : String :=
  renderConstraintName c.name ++ "CHECK (" ++ c.expr.render ++ ")"

def TableElement.render {ε : Type} [ElementDialect ε] : TableElement ε → String
  | column c => c.render
  | unique k => k.render
  | index x => x.render
  | check c => c.render
  | dialect _ kind parts inner =>
    ElementDialect.render kind (parts.map Expr.render) (inner.map Expr.render)

def CreateTable.render {ε : Type} [ElementDialect ε] (c : CreateTable ε) : String :=
  let kind := match c.kind.keyword? with
    | some k => k ++ " "
    | none => ""
  let body :=
    if c.elements.isEmpty then "" else " (" ++ commaList (c.elements.map (·.render)) ++ ")"
  let inherits := match c.inherits with
    | some t => " INHERITS (" ++ t.render ++ ")"
    | none => ""
  let select := match c.select with
    | some s => " AS " ++ s.render
    | none => ""
  "CREATE " ++ kind ++ "TABLE " ++ (if c.ifNotExists then "IF NOT EXISTS " else "") ++
    (c.source.map TableRef.render).getD "" ++ body ++ inherits ++ select

/-! ## Parameters -/

/-- The text of a parameter, given the texts of its cursor's parameters. What comes before the data
type ends with a blank, the default value begins with one. -/
def Parameter.renderAround (p : Parameter) (parameters : List String) : String :=
  let name := match p.name with
    | some e => e.render ++ " "
    | none => ""
  let direction := match p.direction.keyword? with
    | some k => k ++ " "
    | none => ""
  let type := match p.dataType with
    | some t => t.render
    | none => ""
  let cursor := match p.cursor with
    | some e =>
      "CURSOR " ++ e.render ++
        (if parameters.isEmpty then "" else " (" ++ commaList parameters ++ ")")
    | none => ""
  let default := match p.defaultValue with
    | some e => " DEFAULT " ++ e.render
    | none => ""
  name ++ direction ++ (if p.noCopy then "NOCOPY " else "") ++
    (if p.constant then "CONSTANT " else "") ++ type ++ cursor ++ default

namespace Parameter

mutual

def render : Parameter → String
  | ⟨i, n, t, d, dir, nc, k, c, ps⟩ => renderAround ⟨i, n, t, d, dir, nc, k, c, ps⟩ (renderAll ps)

def renderAll : List Parameter → List String
  | [] => []
  | p :: ps => p.render :: renderAll ps

end

end Parameter

/-! ## Any node -/

def Node.render {δ ε : Type} [SourceDialect δ] [ElementDialect ε] : Node δ ε → String
  | expr e => e.render
  | dataType t => t.render
  | hint h => h.render
  | select s => s.render
  | table t => t.render
  | join j => JoinSource.render j
  | source s => s.render
  | create c => c.render
  | column c => c.render
  | unique k => k.render
  | index x => x.render
  | check c => c.render
  | element e => e.render
  | parameter p => p.render

end SqlTree
