import SqlTree.Equality
import SqlTree.Proofs.Literals
import SqlTree.Render

/-! # What the text of an expression leaves open

Operators are written between their operands, without parentheses. So the text of an expression tells
its operands and operators one after another, but not which operation is an operand of which. Two
expressions are written alike exactly when one is the other grouped in another way. -/

namespace SqlTree

namespace Expr

/-! ## Regrouping -/

namespace Shape

/-- One shape is the other with its operations grouped in another way. -/
inductive Regrouped : Shape → Shape → Prop
  | rotate (a : Shape) (op : BinaryOperator) (b : Shape) (op' : BinaryOperator) (c : Shape) :
    Regrouped (.binary (.binary a op b) op' c) (.binary a op (.binary b op' c))
  | left {l l' : Shape} (op : BinaryOperator) (r : Shape) (h : Regrouped l l') :
    Regrouped (.binary l op r) (.binary l' op r)
  | right (l : Shape) (op : BinaryOperator) {r r' : Shape} (h : Regrouped r r') :
    Regrouped (.binary l op r) (.binary l op r')
  | refl (s : Shape) : Regrouped s s
  | symm {s t : Shape} (h : Regrouped s t) : Regrouped t s
  | trans {s t u : Shape} (h : Regrouped s t) (h' : Regrouped t u) : Regrouped s u

/-- Which operations are operands of which, whatever their operators. -/
inductive Grouping
  | operand
  | operation (left right : Grouping)
deriving DecidableEq

def grouping : Shape → Grouping
  | binary l _ r => .operation l.grouping r.grouping
  | _ => .operand

/-- The first operand. -/
def first : Shape → Shape
  | binary l _ _ => l.first
  | s => s

/-- What comes after the first operand: operators, each with the operand after it. -/
def following : Shape → List (BinaryOperator × Shape)
  | binary l op r => l.following ++ (op, r.first) :: r.following
  | _ => []

/-- The operations one after another, each with all that comes before as its left operand. -/
def chain (s : Shape) (rest : List (BinaryOperator × Shape)) : Shape :=
  rest.foldl (fun l p => .binary l p.1 p.2) s

theorem Regrouped.chain {s t : Shape} (h : Regrouped s t) (rest : List (BinaryOperator × Shape)) :
    Regrouped (s.chain rest) (t.chain rest) := by
  induction rest generalizing s t with
  | nil => exact h
  | cons p rest ih => exact ih (.left p.1 p.2 h)

theorem regrouped_chain (l : Shape) (op : BinaryOperator) (s : Shape)
    (rest : List (BinaryOperator × Shape)) :
    Regrouped (.binary l op (s.chain rest)) (chain (.binary l op s) rest) := by
  induction rest generalizing s with
  | nil => exact .refl _
  | cons p rest ih => exact (ih (.binary s p.1 p.2)).trans ((Regrouped.rotate ..).symm.chain rest)

theorem regrouped_chain_self (s : Shape) : Regrouped s (s.first.chain s.following) := by
  induction s with
  | identifier | property | literal => exact .refl _
  | binary l op r ihl ihr =>
    have hl : Regrouped (.binary l op r) (.binary (l.first.chain l.following) op r) := .left op r ihl
    have hr := Regrouped.right (l.first.chain l.following) op ihr
    refine (hl.trans hr).trans ?_
    simpa [chain, first, following] using
      regrouped_chain (l.first.chain l.following) op r.first r.following

/-- Regroupings have the same operands and operators in the same order. -/
theorem regrouped_iff {s t : Shape} :
    Regrouped s t ↔ s.first = t.first ∧ s.following = t.following := by
  constructor
  · intro h
    induction h with
    | rotate => simp [first, following]
    | left op r _ ih => simp [first, following, ih]
    | right l op _ ih => simp [first, following, ih]
    | refl => exact ⟨rfl, rfl⟩
    | symm _ ih => exact ⟨ih.1.symm, ih.2.symm⟩
    | trans _ _ ih ih' => exact ⟨ih.1.trans ih'.1, ih.2.trans ih'.2⟩
  · rintro ⟨hfirst, hfollowing⟩
    have ht := regrouped_chain_self t
    rw [← hfirst, ← hfollowing] at ht
    exact (regrouped_chain_self s).trans ht.symm

theorem length_following {s t : Shape} (h : s.grouping = t.grouping) :
    s.following.length = t.following.length := by
  induction s generalizing t with
  | identifier | property | literal => cases t <;> simp_all [grouping, following]
  | binary l op r ihl ihr =>
    cases t with
    | identifier | property | literal => simp [grouping] at h
    | binary l' op' r' =>
      simp only [grouping, Grouping.operation.injEq] at h
      simp [following, ihl h.1, ihr h.2]

/-- A shape is known by its operands, its operators and its grouping. -/
theorem eq_of_grouping_eq {s t : Shape} (hgrouping : s.grouping = t.grouping)
    (h : Regrouped s t) : s = t := by
  obtain ⟨hfirst, hfollowing⟩ := regrouped_iff.mp h
  clear h
  induction s generalizing t with
  | identifier | property | literal => cases t <;> simp_all [grouping, first]
  | binary l op r ihl ihr =>
    cases t with
    | identifier | property | literal => simp [grouping] at hgrouping
    | binary l' op' r' =>
      simp only [grouping, Grouping.operation.injEq] at hgrouping
      simp only [first] at hfirst
      simp only [following] at hfollowing
      obtain ⟨hl, hr⟩ := List.append_inj hfollowing (length_following hgrouping.1)
      simp only [List.cons.injEq, Prod.mk.injEq] at hr
      rw [ihl hgrouping.1 hfirst hl, hr.1.1, ihr hgrouping.2 hr.1.2 hr.2]

/-! ## Words -/

/-- The text of an expression of the shape. -/
def render : Shape → String
  | identifier name => name
  | property owner name => owner.render ++ "." ++ name
  | literal value => value.render
  | binary left op right => left.render ++ " " ++ op.symbol ++ " " ++ right.render

/-- The texts of the operands and the symbols of the operators, in their order. -/
def words (s : Shape) : List String :=
  s.first.render :: s.following.flatMap fun p => [p.1.symbol, p.2.render]

theorem words_binary (l : Shape) (op : BinaryOperator) (r : Shape) :
    (binary l op r).words = l.words ++ op.symbol :: r.words := by
  simp [words, first, following]

theorem render_eq_intercalate (s : Shape) : s.render = " ".intercalate s.words := by
  induction s with
  | identifier | property | literal => simp [words, first, following]
  | binary l op r ihl ihr =>
    have hl : l.words ≠ [] := List.cons_ne_nil _ _
    have hr : r.words ≠ [] := List.cons_ne_nil _ _
    rw [words_binary, String.intercalate_append_of_ne_nil hl (List.cons_ne_nil _ _),
      String.intercalate_cons_of_ne_nil hr, render, ihl, ihr]
    simp only [String.append_assoc]

/-- Words without blanks are told apart by the blanks between them. -/
theorem words_eq_of_render_eq {s t : Shape} (hs : ∀ w ∈ s.words, ' ' ∉ w.toList)
    (ht : ∀ w ∈ t.words, ' ' ∉ w.toList) (h : s.render = t.render) : s.words = t.words := by
  have hsplit {u : Shape} (hu : ∀ w ∈ u.words, ' ' ∉ w.toList) :
      u.render.toList.splitOn ' ' = u.words.map String.toList := by
    rw [render_eq_intercalate, String.toList_intercalate]
    exact List.splitOn_intercalate ' ' (by simpa using hu) (by simp [words])
  have htexts : s.words.map String.toList = t.words.map String.toList := by
    rw [← hsplit hs, ← hsplit ht, h]
  exact List.map_injective_iff.mpr (fun _ _ => String.toList_inj.mp) htexts

/-! ## Letters and digits -/

/-- A name of letters, or an integer. -/
inductive Atom : Shape → Prop
  | name {name : String} (letters : ∀ c ∈ name.toList, c.isAlpha = true) : Atom (.identifier name)
  | integer (n : Int64) : Atom (.literal (.integer n))

/-- Atoms, and operations on such. -/
inductive Plain : Shape → Prop
  | atom {s : Shape} (h : Atom s) : Plain s
  | operation {l r : Shape} (op : BinaryOperator) (left : Plain l) (right : Plain r) :
    Plain (.binary l op r)

theorem mem_render_integer {n : Int64} {c : Char} (h : c ∈ (Value.integer n).render.toList) :
    c = '-' ∨ c.isDigit = true := by
  rw [render_integer, signed] at h
  have hdigits (hc : c ∈ Nat.toDigits 10 n.toInt.natAbs) : c.isDigit = true :=
    Nat.isDigit_of_mem_toDigits (by decide) (by decide) hc
  split at h
  · exact (List.mem_cons.mp h).imp id hdigits
  · exact .inr (hdigits h)

/-- The digits come before all letters. -/
theorem not_isDigit_of_isAlpha {c : Char} (h : c.isAlpha = true) : ¬ c.isDigit = true := by
  intro hdigit
  have hlast : c.val ≤ '9'.val := of_decide_eq_true (Bool.and_eq_true_iff.mp hdigit).2
  have hfirst : 'A'.val ≤ c.val := by
    rcases Bool.or_eq_true_iff.mp h with hupper | hlower
    · exact (of_decide_eq_true hupper).1
    · have hstart : 'a'.val ≤ c.val := of_decide_eq_true (Bool.and_eq_true_iff.mp hlower).1
      exact UInt32.le_trans (by decide) hstart
  exact absurd (UInt32.le_trans hfirst hlast) (by decide)

theorem Atom.blank_not_mem {s : Shape} (h : Atom s) : ' ' ∉ s.render.toList := by
  cases h with
  | name letters =>
    intro hblank
    exact absurd (letters _ hblank) (by decide)
  | integer n =>
    intro hblank
    rcases mem_render_integer hblank with h | h
    · exact absurd h (by decide)
    · exact absurd h (by decide)

/-- A name is no integer: it has no character that a number starts with. -/
theorem Atom.name_ne_integer {name : String} (letters : ∀ c ∈ name.toList, c.isAlpha = true)
    (n : Int64) : name ≠ (Value.integer n).render := by
  rintro rfl
  have hne : (Value.integer n).render.toList ≠ [] := by
    rw [render_integer, signed]
    split <;> simp
  obtain ⟨c, rest, hc⟩ := List.exists_cons_of_ne_nil hne
  have hmem : c ∈ (Value.integer n).render.toList := by rw [hc]; exact List.mem_cons_self
  have hletter := letters c hmem
  rcases mem_render_integer hmem with rfl | hdigit
  · exact absurd hletter (by decide)
  · exact not_isDigit_of_isAlpha hletter hdigit

theorem Atom.eq_of_render_eq {s t : Shape} (hs : Atom s) (ht : Atom t) (h : s.render = t.render) :
    s = t := by
  cases hs with
  | name letters =>
    cases ht with
    | name => exact congrArg identifier h
    | integer n => exact absurd h (name_ne_integer letters n)
  | integer n =>
    cases ht with
    | name letters => exact absurd h.symm (name_ne_integer letters n)
    | integer m => rw [Value.integer_eq_of_render h]

theorem Atom.alone {s : Shape} (h : Atom s) : s.first = s ∧ s.following = [] := by
  cases h <;> exact ⟨rfl, rfl⟩

theorem Plain.atoms {s : Shape} (h : Plain s) :
    Atom s.first ∧ ∀ p ∈ s.following, Atom p.2 := by
  induction h with
  | atom h =>
    rw [h.alone.1, h.alone.2]
    exact ⟨h, by simp⟩
  | operation op _ _ ihl ihr =>
    refine ⟨ihl.1, fun p hp => ?_⟩
    simp only [following, List.mem_append, List.mem_cons] at hp
    rcases hp with hp | rfl | hp
    · exact ihl.2 p hp
    · exact ihr.1
    · exact ihr.2 p hp

theorem symbol_inj {op op' : BinaryOperator} (h : op.symbol = op'.symbol) : op = op' := by
  cases op <;> cases op' <;> first | rfl | exact absurd h (by decide)

theorem Plain.blank_not_mem {s : Shape} (h : Plain s) {w : String} (hw : w ∈ s.words) :
    ' ' ∉ w.toList := by
  obtain ⟨hfirst, hfollowing⟩ := h.atoms
  simp only [words, List.mem_cons, List.mem_flatMap, List.not_mem_nil, or_false] at hw
  rcases hw with rfl | ⟨p, hp, rfl | rfl⟩
  · exact hfirst.blank_not_mem
  · cases p.1 <;> decide
  · exact (hfollowing p hp).blank_not_mem

theorem following_eq {ps qs : List (BinaryOperator × Shape)} (hp : ∀ p ∈ ps, Atom p.2)
    (hq : ∀ q ∈ qs, Atom q.2) (h : (ps.flatMap fun p => [p.1.symbol, p.2.render]) =
      qs.flatMap fun q => [q.1.symbol, q.2.render]) : ps = qs := by
  induction ps generalizing qs with
  | nil =>
    cases qs with
    | nil => rfl
    | cons q qs => simp at h
  | cons p ps ih =>
    cases qs with
    | nil => simp at h
    | cons q qs =>
      simp only [List.flatMap_cons, List.cons_append, List.nil_append, List.cons.injEq] at h
      obtain ⟨hsymbol, hrender, hrest⟩ := h
      rw [List.forall_mem_cons] at hp hq
      rw [Prod.ext (symbol_inj hsymbol) (hp.1.eq_of_render_eq hq.1 hrender), ih hp.2 hq.2 hrest]

theorem Plain.render_eq_iff {s t : Shape} (hs : Plain s) (ht : Plain t) :
    s.render = t.render ↔ Regrouped s t := by
  rw [regrouped_iff]
  constructor
  · intro h
    have hwords := words_eq_of_render_eq (fun _ => hs.blank_not_mem) (fun _ => ht.blank_not_mem) h
    obtain ⟨hfirst, hfollowing⟩ := List.cons.inj hwords
    exact ⟨hs.atoms.1.eq_of_render_eq ht.atoms.1 hfirst,
      following_eq hs.atoms.2 ht.atoms.2 hfollowing⟩
  · rintro ⟨hfirst, hfollowing⟩
    rw [render_eq_intercalate, render_eq_intercalate, words, words, hfirst, hfollowing]

end Shape

theorem render_eq_shape (e : Expr) : e.render = e.shape.render := by
  induction e with
  | identifier | literal => rfl
  | property i owner name ih => rw [render, ih]; rfl
  | binary i l op r ihl ihr => rw [render, ihl, ihr]; rfl

/-- Of an expression of names and integers the text tells the operands and the operators in their
order, and nothing else: expressions are written alike exactly when they differ in grouping only, and
they are equal exactly when they are written alike and grouped alike. -/
theorem written_alike_iff_regrouped {a b : Expr} (ha : a.shape.Plain) (hb : b.shape.Plain) :
    (a.render = b.render ↔ a.shape.Regrouped b.shape) ∧
      (a.same b = true ↔ a.render = b.render ∧ a.shape.grouping = b.shape.grouping) := by
  have halike : a.render = b.render ↔ a.shape.Regrouped b.shape := by
    rw [render_eq_shape, render_eq_shape, ha.render_eq_iff hb]
  refine ⟨halike, ?_⟩
  rw [same, decide_eq_true_iff, halike]
  constructor
  · intro h
    rw [h]
    exact ⟨.refl _, rfl⟩
  · rintro ⟨hregrouped, hgrouping⟩
    exact Shape.eq_of_grouping_eq hgrouping hregrouped

/-- A product of a name and a negative integer taken from a name, and the product of a difference. -/
theorem written_alike_iff_regrouped_product :
    let info : NodeInfo := { id := ⟨1⟩ }
    let x : Expr := .identifier info "x"
    let y : Expr := .identifier info "y"
    let n : Expr := .literal info (.integer (-1))
    let a : Expr := .binary info x .subtract (.binary info y .multiply n)
    let b : Expr := .binary info (.binary info x .subtract y) .multiply n
    a.shape.Plain ∧ b.shape.Plain ∧ a.render = b.render ∧ a.same b = false := by
  intro info x y n a b
  have hx : x.shape.Plain := .atom (.name (by simp))
  have hy : y.shape.Plain := .atom (.name (by simp))
  have hn : n.shape.Plain := .atom (.integer (-1))
  have ha : a.shape.Plain := .operation .subtract hx (.operation .multiply hy hn)
  have hb : b.shape.Plain := .operation .multiply (.operation .subtract hx hy) hn
  obtain ⟨halike, hequal⟩ := written_alike_iff_regrouped ha hb
  refine ⟨ha, hb, halike.mpr (Shape.Regrouped.rotate ..).symm, ?_⟩
  rw [← Bool.not_eq_true, hequal]
  rintro ⟨-, hgrouping⟩
  exact absurd hgrouping (by decide)

/-- Taking `b` less `c` from `a` is written like taking `c` from `a` less `b`. -/
theorem written_alike_not_same :
    let info : NodeInfo := { id := ⟨1⟩ }
    let name (s : String) : Expr := .identifier info s
    let e : Expr := .binary info (.binary info (name "a") .subtract (name "b")) .subtract (name "c")
    let e' : Expr := .binary info (name "a") .subtract (.binary info (name "b") .subtract (name "c"))
    e.shape.Plain ∧ e'.shape.Plain ∧ e.render = "a - b - c" ∧ e'.render = "a - b - c" ∧
      e.same e' = false := by
  intro info name e e'
  have ha : (name "a").shape.Plain := .atom (.name (by simp))
  have hb : (name "b").shape.Plain := .atom (.name (by simp))
  have hc : (name "c").shape.Plain := .atom (.name (by simp))
  exact ⟨.operation .subtract (.operation .subtract ha hb) hc,
    .operation .subtract ha (.operation .subtract hb hc), by decide, by decide, by decide⟩

end Expr

end SqlTree
