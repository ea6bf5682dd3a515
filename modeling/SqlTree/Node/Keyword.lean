/-! # Operators, joins and the other fixed words

Each of these types is a closed list of choices, with the name of each choice and the text that
stands for it. A list `all` gives them in their fixed order. -/

namespace SqlTree

/-! ## Binary operators -/

inductive BinaryOperator
  | equal | notEqual | lessThan | lessThanOrEqual | greaterThan | greaterThanOrEqual
  | and | or | add | subtract | multiply | divide | concat
deriving DecidableEq

namespace BinaryOperator

def all : List BinaryOperator :=
  [equal, notEqual, lessThan, lessThanOrEqual, greaterThan, greaterThanOrEqual, and, or, add,
    subtract, multiply, divide, concat]

def name : BinaryOperator → String
  | equal => "Equal"
  | notEqual => "NotEqual"
  | lessThan => "LessThan"
  | lessThanOrEqual => "LessThanOrEqual"
  | greaterThan => "GreaterThan"
  | greaterThanOrEqual => "GreaterThanOrEqual"
  | and => "And"
  | or => "Or"
  | add => "Add"
  | subtract => "Subtract"
  | multiply => "Multiply"
  | divide => "Divide"
  | concat => "Concat"

def symbol : BinaryOperator → String
  | equal => "="
  | notEqual => "<>"
  | lessThan => "<"
  | lessThanOrEqual => "<="
  | greaterThan => ">"
  | greaterThanOrEqual => ">="
  | and => "AND"
  | or => "OR"
  | add => "+"
  | subtract => "-"
  | multiply => "*"
  | divide => "/"
  | concat => "||"

def ofName? (s : String) : Option BinaryOperator := all.find? (·.name = s)

/-- The place in `all`. -/
def ordinal (o : BinaryOperator) : Nat := all.idxOf o

end BinaryOperator

/-! ## Joins -/

inductive JoinKind
  | comma | join | innerJoin | crossJoin | naturalJoin | naturalInnerJoin | leftOuterJoin
  | rightOuterJoin | fullOuterJoin | straightJoin | outerApply | crossApply
deriving DecidableEq

namespace JoinKind

instance : Inhabited JoinKind := ⟨join⟩

def all : List JoinKind :=
  [comma, join, innerJoin, crossJoin, naturalJoin, naturalInnerJoin, leftOuterJoin,
    rightOuterJoin, fullOuterJoin, straightJoin, outerApply, crossApply]

def name : JoinKind → String
  | comma => "Comma"
  | join => "Join"
  | innerJoin => "InnerJoin"
  | crossJoin => "CrossJoin"
  | naturalJoin => "NaturalJoin"
  | naturalInnerJoin => "NaturalInnerJoin"
  | leftOuterJoin => "LeftOuterJoin"
  | rightOuterJoin => "RightOuterJoin"
  | fullOuterJoin => "FullOuterJoin"
  | straightJoin => "StraightJoin"
  | outerApply => "OuterApply"
  | crossApply => "CrossApply"

def keyword : JoinKind → String
  | comma => ","
  | join => "JOIN"
  | innerJoin => "INNER JOIN"
  | crossJoin => "CROSS JOIN"
  | naturalJoin => "NATURAL JOIN"
  | naturalInnerJoin => "NATURAL INNER JOIN"
  | leftOuterJoin => "LEFT JOIN"
  | rightOuterJoin => "RIGHT JOIN"
  | fullOuterJoin => "FULL JOIN"
  | straightJoin => "STRAIGHT_JOIN"
  | outerApply => "OUTER APPLY"
  | crossApply => "CROSS APPLY"

def lowercaseKeyword : JoinKind → String
  | comma => ","
  | join => "join"
  | innerJoin => "inner join"
  | crossJoin => "cross join"
  | naturalJoin => "natural join"
  | naturalInnerJoin => "natural inner join"
  | leftOuterJoin => "left join"
  | rightOuterJoin => "right join"
  | fullOuterJoin => "full join"
  | straightJoin => "straight_join"
  | outerApply => "outer apply"
  | crossApply => "cross apply"

def ofName? (s : String) : Option JoinKind := all.find? (·.name = s)

/-- The place in `all`. -/
def ordinal (k : JoinKind) : Nat := all.idxOf k

end JoinKind

/-! ## Lifetimes of tables -/

/-- How long a created table lives. -/
inductive TableKind
  | default | globalTemporary | localTemporary
deriving DecidableEq

namespace TableKind

instance : Inhabited TableKind := ⟨default⟩

def all : List TableKind := [default, globalTemporary, localTemporary]

def name : TableKind → String
  | default => "Default"
  | globalTemporary => "GlobalTemporary"
  | localTemporary => "LocalTemporary"

def keyword? : TableKind → Option String
  | default => none
  | globalTemporary => some "GLOBAL TEMPORARY"
  | localTemporary => some "LOCAL TEMPORARY"

def ofName? (s : String) : Option TableKind := all.find? (·.name = s)

end TableKind

/-! ## Directions of parameters -/

inductive Direction
  | default | input | output | inputOutput
deriving DecidableEq

namespace Direction

instance : Inhabited Direction := ⟨default⟩

def all : List Direction := [default, input, output, inputOutput]

def name : Direction → String
  | default => "Default"
  | input => "In"
  | output => "Out"
  | inputOutput => "InOut"

def keyword? : Direction → Option String
  | default => none
  | input => some "IN"
  | output => some "OUT"
  | inputOutput => some "IN OUT"

def ofName? (s : String) : Option Direction := all.find? (·.name = s)

/-- The place in `all`. -/
def ordinal (d : Direction) : Nat := all.idxOf d

end Direction

end SqlTree
