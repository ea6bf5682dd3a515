import SqlTree.Dialect
import SqlTree.Node.Any

/-! # Equality

Nodes are equal if they say the same: identities, owners, attributes and the way a source is
presented do not count. Nested table sources are compared with a work list of pairs, so the depth
of a join does not matter. -/

namespace SqlTree

def Expr.same (a b : Expr) : Bool := a.shape = b.shape

/-- Two lists of expressions that are equal one by one. -/
def sameExprs (as bs : List Expr) : Bool := as.map Expr.shape = bs.map Expr.shape

/-- Both expressions are missing, or both are there and equal. -/
def sameExpr? (a b : Option Expr) : Bool := a.map Expr.shape = b.map Expr.shape

def DataType.same (a b : DataType) : Bool := a.name = b.name && sameExprs a.arguments b.arguments

/-- Both types are missing, or both are there and equal. -/
def sameType? : Option DataType → Option DataType → Bool
  | none, none => true
  | some a, some b => a.same b
  | _, _ => false

def Hint.same (a b : Hint) : Bool := a.text = b.text

def Select.same (a b : Select) : Bool := a.text = b.text

/-! ## Table sources -/

def TableRef.same (a b : TableRef) : Bool :=
  sameExpr? a.expr b.expr && sameExprs a.partitions b.partitions

/-- Two joins that are equal but perhaps for their sides; the same sides are there. -/
def Join.sameShallow {σ : Type} (a b : Join σ) : Bool :=
  a.natural = b.natural && a.kind = b.kind && sameExpr? a.condition b.condition &&
    sameExprs a.columns b.columns && a.left.isSome = b.left.isSome &&
    a.right.isSome = b.right.isSome

namespace TableSource

variable {δ : Type}

mutual

/-- The number of sources in a source. -/
def count : TableSource δ → Nat
  | table _ => 1
  | join ⟨_, l, _, r, _, _, _⟩ => 1 + countSide l + countSide r
  | dialect _ _ _ => 1

def countSide : Option (TableSource δ) → Nat
  | none => 0
  | some s => s.count

end

/-- The number of sources in all sources of a list. -/
def countAll : List (TableSource δ) → Nat
  | [] => 0
  | s :: rest => s.count + countAll rest

theorem countAll_append (ss ts : List (TableSource δ)) :
    countAll (ss ++ ts) = countAll ss + countAll ts := by
  induction ss with
  | nil => simp [countAll]
  | cons s ss ih => simp only [List.cons_append, countAll, ih]; omega

theorem countAll_reverse (ss : List (TableSource δ)) : countAll ss.reverse = countAll ss := by
  induction ss with
  | nil => rfl
  | cons s ss ih => simp only [List.reverse_cons, countAll_append, countAll, ih]; omega

/-- The sides of a join hold all its sources but the join itself. -/
theorem countAll_sides (j : JoinSource δ) : countAll j.sides + 1 = (join j).count := by
  rcases j with ⟨_, _ | l, _, _ | r, _, _, _⟩ <;>
    simp only [Join.sides, Option.toList, List.append_nil, List.nil_append, List.cons_append,
      countAll, count, countSide] <;> omega

theorem countAll_fst_zip_le (ss ts : List (TableSource δ)) :
    countAll ((ss.zip ts).map (·.1)) ≤ countAll ss := by
  induction ss generalizing ts with
  | nil => simp [countAll]
  | cons s ss ih =>
    cases ts with
    | nil => simp [countAll]
    | cons t ts =>
      have := ih ts
      simp only [List.zip_cons_cons, List.map_cons, countAll]
      omega

/-- All pairs on the work list are equal. The sides of a join come on top of the list, the right
one first. -/
def sameAll [SourceDialect δ] : List (TableSource δ × TableSource δ) → Bool
  | [] => true
  | (table a, table b) :: rest => a.same b && sameAll rest
  | (join a, join b) :: rest =>
    a.sameShallow b && sameAll ((a.sides.zip b.sides).reverse ++ rest)
  | (dialect _ k ps, dialect _ l qs) :: rest =>
    SourceDialect.same k l && sameExprs ps qs && sameAll rest
  | _ :: _ => false
termination_by pending => countAll (pending.map (·.1))
decreasing_by
  · simp [countAll, count]
  · have := countAll_fst_zip_le a.sides b.sides
    have := countAll_sides a
    simp only [List.map_append, List.map_reverse, countAll_append, countAll_reverse, List.map_cons,
      countAll]
    omega
  · simp [countAll, count]

def same [SourceDialect δ] (a b : TableSource δ) : Bool := sameAll [(a, b)]

end TableSource

def JoinSource.same {δ : Type} [SourceDialect δ] (a b : JoinSource δ) : Bool :=
  a.sameShallow b && (a.sides.zip b.sides).all fun p => p.1.same p.2

/-! ## Parameters -/

namespace Parameter

mutual

def same : Parameter → Parameter → Bool
  | ⟨_, n, t, d, dir, nc, k, c, ps⟩, q =>
    sameExpr? n q.name && sameType? t q.dataType && sameExpr? d q.defaultValue &&
      dir = q.direction && nc = q.noCopy && k = q.constant && sameExpr? c q.cursor &&
      sameAll ps q.parameters

def sameAll : List Parameter → List Parameter → Bool
  | [], [] => true
  | p :: ps, q :: qs => p.same q && sameAll ps qs
  | _, _ => false

end

end Parameter

/-! ## Any node -/

/-- Whether two nodes of one kind are equal, for the kinds that can be compared. -/
def Node.same? {δ ε : Type} [SourceDialect δ] : Node δ ε → Node δ ε → Option Bool
  | expr a, expr b => some (a.same b)
  | dataType a, dataType b => some (a.same b)
  | hint a, hint b => some (a.same b)
  | select a, select b => some (a.same b)
  | table a, table b => some (a.same b)
  | join a, join b => some (JoinSource.same a b)
  | source a, source b => some (a.same b)
  | parameter a, parameter b => some (a.same b)
  | _, _ => none

/-! ## Distinct items -/

/-- For each item of a list, whether none before it is the same. -/
def firstSeen {α : Type} (same : α → α → Bool) (items : List α) : List Bool :=
  items.zipIdx.map fun (a, i) => !(items.take i).any (same · a)

end SqlTree
