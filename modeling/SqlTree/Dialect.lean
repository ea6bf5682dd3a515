import SqlTree.Feed.Word

/-! # Dialects

A dialect adds kinds of table source and kinds of table element. The tree knows of a kind only what
the classes below say. The texts of a node's parts are handed to `render` in their order. -/

namespace SqlTree

/-- What a dialect says of its kinds of table source. -/
class SourceDialect (δ : Type) where
  variantName : δ → String
  same : δ → δ → Bool
  feed : δ → List Word
  render : δ → List String → String
  clonable : δ → Bool

/-- The expressions of an element that it reports as key columns, if it reports any: those that
walks go on into, or those that it keeps to itself. -/
inductive KeyReport
  | none
  | parts
  | inner

/-- What a dialect says of its kinds of table element. An element of such a kind has parts, which
walks go on into, and inner expressions, which they do not. -/
class ElementDialect (ε : Type) where
  variantName : ε → String
  render : ε → (parts inner : List String) → String
  keys : ε → KeyReport

/-! ## A small dialect -/

/-- Three kinds of table source: an unnested column, a series of integers and a lateral call, whose
function is its only part. -/
inductive SourceKind
  | unnest (column : String)
  | series (stop : Int64)
  | lateral
deriving DecidableEq

instance : SourceDialect SourceKind where
  variantName
    | .unnest _ => "Unnest"
    | .series _ => "GenerateSeries"
    | .lateral => "Lateral"
  same a b := a = b
  feed
    | .unnest column => Feed.text column
    | .series stop => [.integer stop]
    | .lateral => []
  render
    | .unnest column, _ => "UNNEST(" ++ column ++ ")"
    | .series stop, _ => "generate_series(1, " ++ toString stop.toInt ++ ")"
    | .lateral, parts => "LATERAL " ++ String.join parts
  clonable
    | .series _ => true
    | _ => false

/-- Two kinds of table element: an index over full texts, whose columns are walked or not, and an
option kept as written. -/
inductive ElementKind
  | fullText (walked : Bool)
  | option (text : String)
deriving DecidableEq

instance : ElementDialect ElementKind where
  variantName
    | .fullText _ => "FullTextIndex"
    | .option _ => "TableOption"
  render
    | .fullText walked, parts, inner =>
      "FULLTEXT (" ++ ", ".intercalate (if walked then parts else inner) ++ ")"
    | .option text, _, _ => text
  keys
    | .fullText walked => if walked then .parts else .inner
    | .option _ => .none

end SqlTree
