/-! # Delimited identifiers

An identifier may stand between delimiters in one of four styles. Inside, the closing delimiter is
written twice. -/

namespace SqlTree.Text

/-- The pairs of delimiters around an identifier. -/
inductive QuoteStyle
  | double
  | backtick
  | single
  | bracket
deriving DecidableEq

namespace QuoteStyle

def opening : QuoteStyle → Char
  | double => '\x22'
  | backtick => '\x60'
  | single => '\x27'
  | bracket => '['

def closing : QuoteStyle → Char
  | double => '\x22'
  | backtick => '\x60'
  | single => '\x27'
  | bracket => ']'

/-- The style that a character opens. -/
def ofOpening? (c : Char) : Option QuoteStyle :=
  [double, backtick, single, bracket].find? (·.opening = c)

end QuoteStyle

/-- Every `q` written twice. -/
def double (q : Char) : List Char → List Char
  | [] => []
  | c :: rest => if c = q then q :: q :: double q rest else c :: double q rest

/-- From left to right, two `q` in a row read as one. -/
def undouble (q : Char) : List Char → List Char
  | a :: b :: rest => if a = q ∧ b = q then q :: undouble q rest else a :: undouble q (b :: rest)
  | cs => cs

/-- The identifier between delimiters. -/
def quoteChars (style : QuoteStyle) (cs : List Char) : List Char :=
  style.opening :: (double style.closing cs ++ [style.closing])

/-- The identifier without its delimiters. One that does not both start with an opening delimiter
and end, after it, with the matching closing one stays as it is. -/
def stripChars (cs : List Char) : List Char :=
  match cs with
  | [] => []
  | first :: rest =>
    match QuoteStyle.ofOpening? first with
    | none => cs
    | some style =>
      if rest.getLast? = some style.closing then undouble style.closing rest.dropLast else cs

/-- Writes an identifier between delimiters. -/
def quote (style : QuoteStyle) (s : String) : String := String.ofList (quoteChars style s.toList)

/-- Takes the delimiters off an identifier. -/
def strip (s : String) : String := String.ofList (stripChars s.toList)

end SqlTree.Text
