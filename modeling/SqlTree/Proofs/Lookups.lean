import SqlTree.Proofs.Spellings

/-! # Lookups while the elements change

A lookup goes through the elements from the front and ends at the first one that answers. What it
finds stays found when elements are added behind it, when elements come and go that could never
answer, and when another element is taken out. -/

namespace SqlTree

open Text

/-! ## The first of a list -/

/-- The first item of a list that answers is `a`, and it stands at place `i`. -/
structure IsFirst {α : Type} (answers : α → Prop) (as : List α) (i : Nat) (a : α) : Prop where
  here : as[i]? = some a
  matched : answers a
  before : ∀ j < i, ∀ b, as[j]? = some b → ¬ answers b

section

variable {α : Type} {answers : α → Prop} {p : α → Bool} {as : List α} {i : Nat}

theorem isFirst_iff (hp : ∀ a, p a = true ↔ answers a) {a : α} :
    IsFirst answers as i a ↔ as.findIdx? p = some i ∧ as[i]? = some a := by
  constructor
  · rintro ⟨here, hanswers, before⟩
    obtain ⟨hi, rfl⟩ := List.getElem?_eq_some_iff.mp here
    refine ⟨List.findIdx?_eq_some_iff_getElem.mpr ⟨hi, (hp _).mpr hanswers, fun j hj => ?_⟩, here⟩
    rw [hp]
    exact before j hj _ (List.getElem?_eq_getElem _)
  · rintro ⟨hplace, here⟩
    obtain ⟨hi, hanswers, hbefore⟩ := List.findIdx?_eq_some_iff_getElem.mp hplace
    rw [List.getElem?_eq_getElem hi, Option.some.injEq] at here
    subst here
    refine ⟨List.getElem?_eq_getElem hi, (hp _).mp hanswers, fun j hj b hb => ?_⟩
    obtain ⟨hj', rfl⟩ := List.getElem?_eq_some_iff.mp hb
    rw [← hp]
    exact hbefore j hj

theorem findIdx?_eq_some_iff_isFirst (hp : ∀ a, p a = true ↔ answers a) :
    as.findIdx? p = some i ↔ ∃ a, IsFirst answers as i a := by
  simp only [isFirst_iff hp, exists_and_left, iff_self_and]
  intro h
  obtain ⟨hi, -⟩ := List.findIdx?_eq_some_iff_getElem.mp h
  exact ⟨_, List.getElem?_eq_getElem hi⟩

theorem find?_eq_some_iff_isFirst (hp : ∀ a, p a = true ↔ answers a) {a : α} :
    as.find? p = some a ↔ ∃ i, IsFirst answers as i a := by
  simp only [isFirst_iff hp, CreateTable.find?_eq_at_findIdx?, Option.bind_eq_some_iff]

theorem find?_eraseIdx (h : as.findIdx? p ≠ some i) : (as.eraseIdx i).find? p = as.find? p := by
  induction as generalizing i with
  | nil => rfl
  | cons a as ih =>
    rw [List.findIdx?_cons] at h
    cases i with
    | zero =>
      have ha : p a = false := by
        by_contra ha
        simp [ha] at h
      simp [ha]
    | succ i =>
      by_cases ha : p a = true
      · simp [ha]
      · have hrest : as.findIdx? p ≠ some i := by simpa [ha] using h
        simp [ha, ih hrest]

end

/-! ## Edits of the elements -/

variable {ε : Type}

/-- The ways to change the list of elements. -/
inductive ElementEdit (ε : Type)
  | add (e : TableElement ε)
  | remove (i : Nat)

namespace CreateTable

def editElements (c : CreateTable ε) : ElementEdit ε → CreateTable ε
  | .add e => c.addElement e
  | .remove i => (c.removeElement i).1

/-- The statement after edits one after another. -/
def editAll (c : CreateTable ε) (edits : List (ElementEdit ε)) : CreateTable ε :=
  edits.foldl editElements c

/-- A lookup in statements: where it ends and what it finds there. Elements that do not concern it can
never answer. -/
structure Lookup (ε α : Type) where
  place? : CreateTable ε → Option Nat
  find? : CreateTable ε → Option α
  wrap : α → TableElement ε
  answers : TableElement ε → Prop
  concerns : TableElement ε → Prop

namespace Lookup

variable {α : Type}

/-- The edits of a statement that leave alone what the lookup finds: one adds behind it, one takes out
another element, and two move elements that do not concern the lookup. -/
inductive Spares (look : Lookup ε α) (c : CreateTable ε) : ElementEdit ε → Prop
  | addBehind (e : TableElement ε) (h : (look.find? c).isSome = true) : Spares look c (.add e)
  | addOther (e : TableElement ε) (h : ¬ look.concerns e) : Spares look c (.add e)
  | removeElsewhere (i : Nat) (h : look.place? c ≠ some i) : Spares look c (.remove i)
  | removeOther (i : Nat) (h : ∀ e, c.elements[i]? = some e → ¬ look.concerns e) :
    Spares look c (.remove i)

/-- Each of some edits, made one after another, leaves alone what the lookup finds. -/
inductive SparesAll (look : Lookup ε α) : CreateTable ε → List (ElementEdit ε) → Prop
  | nil (c : CreateTable ε) : SparesAll look c []
  | cons {c : CreateTable ε} {edit : ElementEdit ε} {edits : List (ElementEdit ε)}
    (h : look.Spares c edit) (rest : SparesAll look (c.editElements edit) edits) :
    SparesAll look c (edit :: edits)

/-- In a statement the lookup finds the first element that answers, and it goes on finding it through
all edits that leave it alone. -/
structure Follows (look : Lookup ε α) (c : CreateTable ε) : Prop where
  place_iff : ∀ i, look.place? c = some i ↔ ∃ e, IsFirst look.answers c.elements i e
  found_iff : ∀ a, look.find? c = some a ↔ ∃ i, IsFirst look.answers c.elements i (look.wrap a)
  none_iff : look.find? c = none ↔ ∀ e ∈ c.elements, ¬ look.answers e
  keeps : ∀ edits, look.SparesAll c edits → look.find? (c.editAll edits) = look.find? c

/-- A lookup that goes through the elements with a test. -/
structure Scans (look : Lookup ε α) (p : TableElement ε → Bool) : Prop where
  test : ∀ e, p e = true ↔ look.answers e
  place? : ∀ c, look.place? c = c.elements.findIdx? p
  find? : ∀ c, (look.find? c).map look.wrap = c.elements.find? p
  wrap_inj : ∀ a b, look.wrap a = look.wrap b → a = b
  concerns : ∀ e, look.answers e → look.concerns e
  adopted : ∀ owner e, look.concerns (adopt owner e) → look.concerns e

variable {look : Lookup ε α} {p : TableElement ε → Bool} {c d : CreateTable ε}

namespace Scans

theorem find?_eq (h : look.Scans p) (heq : d.elements.find? p = c.elements.find? p) :
    look.find? d = look.find? c := by
  rw [← h.find?, ← h.find?] at heq
  exact Option.map_injective (fun a b => h.wrap_inj a b) heq

theorem not_test (h : look.Scans p) {e : TableElement ε} (he : ¬ look.concerns e) : p e = false := by
  rw [← Bool.not_eq_true, h.test]
  exact fun hanswers => he (h.concerns e hanswers)

theorem find?_editElements (h : look.Scans p) {edit : ElementEdit ε} (hedit : look.Spares c edit) :
    look.find? (c.editElements edit) = look.find? c := by
  apply h.find?_eq
  cases hedit with
  | addBehind e hfound =>
    have hsome : (c.elements.find? p).isSome = true := by
      rw [← h.find?, Option.isSome_map]
      exact hfound
    obtain ⟨a, ha⟩ := Option.isSome_iff_exists.mp hsome
    simp [editElements, addElement, List.find?_append, ha]
  | addOther e hother =>
    have htest : p (adopt c.info.id e) = false := h.not_test fun hadopted =>
      hother (h.adopted c.info.id e hadopted)
    simp [editElements, addElement, List.find?_append, htest]
  | removeElsewhere i hplace =>
    rw [h.place?] at hplace
    exact find?_eraseIdx hplace
  | removeOther i hother =>
    refine find?_eraseIdx fun hplace => ?_
    obtain ⟨hi, htest, -⟩ := List.findIdx?_eq_some_iff_getElem.mp hplace
    rw [h.not_test (hother _ (List.getElem?_eq_getElem hi))] at htest
    cases htest

theorem follows (h : look.Scans p) (c : CreateTable ε) : look.Follows c where
  place_iff i := by rw [h.place?, findIdx?_eq_some_iff_isFirst h.test]
  found_iff a := by
    rw [← find?_eq_some_iff_isFirst h.test, ← h.find?, Option.map_eq_some_iff]
    constructor
    · exact fun ha => ⟨a, ha, rfl⟩
    · rintro ⟨b, hb, hwrap⟩
      rw [hb, h.wrap_inj b a hwrap]
  none_iff := by
    rw [← Option.map_eq_none_iff (f := look.wrap), h.find?, List.find?_eq_none]
    simp only [h.test]
  keeps edits hedits := by
    induction hedits with
    | nil c => rfl
    | cons hedit _ ih => exact ih.trans (h.find?_editElements hedit)

end Scans

end Lookup

end CreateTable

/-! ## The two lookups -/

/-- The expression is a name with this last segment. -/
inductive Expr.EndsIn : Expr → String → Prop
  | identifier (i : NodeInfo) (name : String) : EndsIn (.identifier i name) name
  | property (i : NodeInfo) (owner : Expr) (name : String) : EndsIn (.property i owner name) name

theorem Expr.endsIn_iff {e : Expr} {name : String} :
    e.EndsIn name ↔ e.simpleName? = some name := by
  constructor
  · rintro (_ | _) <;> rfl
  · intro h
    cases e with
    | identifier i _ => cases h; exact .identifier i name
    | property i owner _ => cases h; exact .property i owner name
    | literal | binary => cases h

theorem Expr.identifier?_eq_some {e : Expr} {name : String} :
    e.identifier? = some name ↔ ∃ i, e = .identifier i name := by
  cases e <;> simp [identifier?]

namespace CreateTable

/-- The lookup for a column: a column answers if the last segment of its name is the query, once the
normalizer has been at both and ignoring case. -/
def columnLookup (n : Normalizer) (q : String) : Lookup ε Column where
  place? c := c.columnIdx? n q
  find? c := c.findColumn? n q
  wrap := .column
  answers e := ∃ (c : Column) (name : String), e = .column c ∧ c.name.EndsIn name ∧
    equalIgnoringCase (n name) (n q) = true
  concerns e := e.column?.isSome = true

/-- The lookup for a key: an element with key columns answers if one of them is the query and not
qualified. -/
def keyLookup [ElementDialect ε] (n : Normalizer) (q : String) : Lookup ε (TableElement ε) where
  place? c := c.keyIdx? n q
  find? c := c.findIndex? n q
  wrap := id
  answers e := ∃ (keys : List Expr) (i : NodeInfo) (name : String), e.keyColumns? = some keys ∧
    .identifier i name ∈ keys ∧ equalIgnoringCase (n name) (n q) = true
  concerns e := e.keyColumns?.isSome = true

theorem columnLookup_scans [ElementDialect ε] (n : Normalizer) (q : String) :
    (columnLookup n q : Lookup ε Column).Scans (isColumnNamed n q) where
  test e := by
    rw [isColumnNamed_iff]
    simp only [columnLookup, Expr.endsIn_iff]
    cases e <;> simp [TableElement.column?]
  place? c := rfl
  find? c := (c.findsAt n q).findColumn.trans (find?_eq_at_findIdx? _ _).symm
  wrap_inj a b h := TableElement.column.inj h
  concerns e := by
    rintro ⟨c, name, rfl, -⟩
    rfl
  adopted owner e h := by
    cases e with
    | column => rfl
    | unique | index | check | dialect => exact h

theorem keyLookup_scans [ElementDialect ε] (n : Normalizer) (q : String) :
    (keyLookup n q : Lookup ε (TableElement ε)).Scans (hasKeyNamed n q) where
  test e := by
    rw [hasKeyNamed_iff]
    simp only [keyLookup, List.mem_filterMap, Expr.identifier?_eq_some]
    cases e.keyColumns? with
    | none => simp
    | some keys =>
      constructor
      · rintro ⟨name, ⟨_, hmem, i, rfl⟩, hequal⟩
        exact ⟨keys, i, name, rfl, hmem, hequal⟩
      · rintro ⟨_, i, name, ⟨⟩, hmem, hequal⟩
        exact ⟨name, ⟨_, hmem, i, rfl⟩, hequal⟩
  place? c := rfl
  find? c := Option.map_id_apply
  wrap_inj a b h := h
  concerns e := by
    rintro ⟨keys, i, name, hkeys, -⟩
    simp [keyLookup, hkeys]
  adopted owner e h := by
    cases e <;> exact h

/-- After any edits of the elements both lookups find the first element that answers in the list as
it is now, and further edits that leave it alone do not change what they find. -/
theorem lookups_follow_elements [ElementDialect ε] (n : Normalizer) (q : String)
    (c : CreateTable ε) (edits : List (ElementEdit ε)) :
    (columnLookup n q).Follows (c.editAll edits) ∧ (keyLookup n q).Follows (c.editAll edits) :=
  ⟨(columnLookup_scans n q).follows _, (keyLookup_scans n q).follows _⟩

end CreateTable

end SqlTree
