import SqlTree.Dialect
import SqlTree.Node.CreateTable
import SqlTree.Text.Normalizer

/-! # Names and lookups

The name under which a source, a column or a table is known, and the columns and keys that a query
finds. Names and queries are brought to the form of a normalizer, then compared ignoring case. -/

namespace SqlTree

open Text

/-! ## Known names -/

/-- The alias of any table source, normalized. -/
def SourceHeader.normalizedAlias (h : SourceHeader) (n : Normalizer) : Option String :=
  h.alias?.map n

/-- A table goes by its alias, or else by the last segment of its name. -/
def TableRef.computeAlias (t : TableRef) (n : Normalizer) : Option String :=
  (t.header.alias? <|> t.expr.bind (·.simpleName?)).map n

/-- Joins and sources of a dialect's kind go by their alias only. -/
def TableSource.computeAlias {δ : Type} (n : Normalizer) : TableSource δ → Option String
  | table t => t.computeAlias n
  | s => (header s).normalizedAlias n

def Column.computeAlias (c : Column) (n : Normalizer) : Option String := c.name.simpleName?.map n

def CreateTable.computeName {ε : Type} (c : CreateTable ε) (n : Normalizer) : Option String :=
  (c.name?.bind (·.simpleName?)).map n

/-- The kind of a table source, as a word. -/
def TableSource.variantName {δ : Type} [SourceDialect δ] : TableSource δ → String
  | table _ => "ExprTableSource"
  | join _ => "JoinTableSource"
  | dialect _ kind _ => SourceDialect.variantName kind

/-! ## Lookups -/

variable {ε : Type} [ElementDialect ε]

/-- The key columns of an element, if it reports any. -/
def TableElement.keyColumns? : TableElement ε → Option (List Expr)
  | unique k => some k.columns
  | index x => some x.columns
  | dialect _ kind parts inner =>
    match ElementDialect.keys kind with
    | .none => none
    | .parts => some parts
    | .inner => some inner
  | column _ | check _ => none

namespace CreateTable

/-- The element is a column known by the name. -/
def isColumnNamed (n : Normalizer) (name : String) (e : TableElement ε) : Bool :=
  (e.column?.bind (·.computeAlias n)).any fun a => equalIgnoringCase a (n name)

/-- The element reports a key column of the name; qualified key columns do not count. -/
def hasKeyNamed (n : Normalizer) (name : String) (e : TableElement ε) : Bool :=
  e.keyColumns?.any fun es =>
    (es.filterMap (·.identifier?)).any fun k => equalIgnoringCase (n k) (n name)

/-- The place of the first column of the name. -/
def columnIdx? (c : CreateTable ε) (n : Normalizer) (name : String) : Option Nat :=
  c.elements.findIdx? (isColumnNamed n name)

/-- The place of the first element with a key column of the name. -/
def keyIdx? (c : CreateTable ε) (n : Normalizer) (name : String) : Option Nat :=
  c.elements.findIdx? (hasKeyNamed n name)

def findColumn? (c : CreateTable ε) (n : Normalizer) (name : String) : Option Column :=
  (c.elements.find? (isColumnNamed n name)).bind (·.column?)

def findIndex? (c : CreateTable ε) (n : Normalizer) (name : String) : Option (TableElement ε) :=
  c.elements.find? (hasKeyNamed n name)

end CreateTable

end SqlTree
