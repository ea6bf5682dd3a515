/-! # What can go wrong -/

namespace SqlTree

/-- The two ways in which an operation on a tree fails. -/
inductive TreeError
  /-- A kind of table source that does not support copies. -/
  | cloneUnsupported (variant : String)
  /-- A node lies more levels below the root than the ceiling allows. -/
  | depthLimitExceeded (limit : Nat)
deriving DecidableEq

namespace TreeError

/-- The message for a reader. -/
def message : TreeError → String
  | cloneUnsupported v => "clone is not supported by table source variant `" ++ v ++ "`"
  | depthLimitExceeded n =>
    "traversal exceeded the maximum depth of " ++ toString n ++ " nested nodes"

/-- The error and its field, as a failed check reports it. -/
def detail : TreeError → String
  | cloneUnsupported v => "CloneUnsupported \x7b variant: \"" ++ v ++ "\" \x7d"
  | depthLimitExceeded n => "DepthLimitExceeded \x7b limit: " ++ toString n ++ " \x7d"

end TreeError

end SqlTree
