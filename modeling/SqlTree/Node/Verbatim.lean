import SqlTree.NodeInfo

/-! # Parts that are kept as written

Optimizer hints and the query of a `CREATE TABLE … AS` are not analysed: the tree keeps their
text. -/

namespace SqlTree

/-- An optimizer hint. -/
structure Hint where
  info : NodeInfo
  text : String

instance : HasInfo Hint where
  info := Hint.info
  setInfo i h := { h with info := i }

def Hint.new (text : String) : Fresh Hint := do return { info := ← newInfo, text }

/-- A query. -/
structure Select where
  info : NodeInfo
  text : String

instance : HasInfo Select where
  info := Select.info
  setInfo i s := { s with info := i }

def Select.new (text : String) : Fresh Select := do return { info := ← newInfo, text }

end SqlTree
