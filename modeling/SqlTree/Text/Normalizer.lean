import SqlTree.Text.Delimited
import SqlTree.Text.Lowercase

/-! # Normalizers: the form of an identifier under which it is looked up -/

namespace SqlTree.Text

/-- A rule that brings identifiers to a common form. -/
abbrev Normalizer := String → String

namespace Normalizer

/-- Takes the delimiters off. -/
def delimiter : Normalizer := strip

/-- Takes the delimiters off, then goes to lower case. -/
def caseFold : Normalizer := fun s => lowercase (strip s)

end Normalizer

end SqlTree.Text
