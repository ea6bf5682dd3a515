import SqlTree.Equality

/-! # What a node feeds to a hash

Exactly what equality compares is fed. The sources nested in a source are fed from a work list, a
source before its sides and the left side before the right one. -/

namespace SqlTree

def Value.feed : Value → List Word
  | null => [.count 0]
  | integer n => [.count 1, .integer n]
  | real x => [.count 2, .bits x.bits]
  | text s => .count 3 :: Feed.text s
  | blob bytes => .count 4 :: Feed.list (fun b => [.byte b]) bytes

/-- What an expression feeds, before the words `rest`. -/
def Expr.feedOnto (rest : List Word) : Expr → List Word
  | identifier _ name => .count 0 :: (Feed.text name ++ rest)
  | property _ owner name => .count 1 :: owner.feedOnto (Feed.text name ++ rest)
  | literal _ value => .count 2 :: (value.feed ++ rest)
  | binary _ left op right => .count 3 :: left.feedOnto (.count op.ordinal :: right.feedOnto rest)

def Expr.feed (e : Expr) : List Word := e.feedOnto []

theorem Expr.feedOnto_eq (e : Expr) (rest : List Word) : e.feedOnto rest = e.feed ++ rest := by
  induction e generalizing rest with
  | identifier | literal => simp [feed, feedOnto]
  | property _ owner name ih => simp only [feed, feedOnto, List.cons_append, ih (_ ++ _)]; simp
  | binary _ left op right ihl ihr =>
    simp only [feed, feedOnto, List.cons_append, ihl (_ :: _), ihr rest]
    rw [ihr []]
    simp

def DataType.feed (t : DataType) : List Word := Feed.text t.name ++ Feed.list Expr.feed t.arguments

def Hint.feed (h : Hint) : List Word := Feed.text h.text

def Select.feed (s : Select) : List Word := Feed.text s.text

/-! ## Table sources -/

def TableRef.feed (t : TableRef) : List Word :=
  Feed.option Expr.feed t.expr ++ Feed.list Expr.feed t.partitions

/-- What a join feeds before its sides. -/
def Join.feedShallow {σ : Type} (j : Join σ) : List Word :=
  .count j.kind.ordinal :: (Feed.option Expr.feed j.condition ++ Feed.list Expr.feed j.columns ++
    [.flag j.natural, .flag j.left.isSome, .flag j.right.isSome])

namespace TableSource

variable {δ : Type} [SourceDialect δ]

/-- What the sources on the work list feed. -/
def feedAll : List (TableSource δ) → List Word
  | [] => []
  | table t :: rest => .count 0 :: (t.feed ++ feedAll rest)
  | join j :: rest => .count 1 :: (j.feedShallow ++ feedAll (j.sides ++ rest))
  | dialect _ kind parts :: rest =>
    .count 2 :: (Feed.text (SourceDialect.variantName kind) ++ SourceDialect.feed kind ++
      Feed.list Expr.feed parts ++ feedAll rest)
termination_by pending => countAll pending
decreasing_by
  · simp [countAll, count]
  · have := countAll_sides j
    simp only [countAll_append, countAll]
    omega
  · simp [countAll, count]

def feed (s : TableSource δ) : List Word := feedAll [s]

end TableSource

def JoinSource.feed {δ : Type} [SourceDialect δ] (j : JoinSource δ) : List Word :=
  j.feedShallow ++ j.sides.flatMap TableSource.feed

/-! ## Parameters -/

namespace Parameter

mutual

def feed : Parameter → List Word
  | ⟨_, n, t, d, dir, nc, k, c, ps⟩ =>
    Feed.option Expr.feed n ++ Feed.option DataType.feed t ++ Feed.option Expr.feed d ++
      [.count dir.ordinal, .flag nc, .flag k] ++ Feed.option Expr.feed c ++
      .count ps.length :: feedEach ps

def feedEach : List Parameter → List Word
  | [] => []
  | p :: ps => p.feed ++ feedEach ps

end

end Parameter

/-! ## Any node -/

/-- What a node feeds, for the kinds that can be compared. -/
def Node.feed? {δ ε : Type} [SourceDialect δ] : Node δ ε → Option (List Word)
  | expr e => some e.feed
  | dataType t => some t.feed
  | hint h => some h.feed
  | select s => some s.feed
  | table t => some t.feed
  | join j => some (JoinSource.feed j)
  | source s => some s.feed
  | parameter p => some p.feed
  | _ => none

end SqlTree
