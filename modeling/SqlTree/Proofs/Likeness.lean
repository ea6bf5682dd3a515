import SqlTree.Equality

/-! # Equality of sources

The comparison with a work list says yes exactly if the two sources have the same shape, at every
level; sources of a dialect's kind are compared by the dialect. -/

namespace SqlTree

variable {δ : Type}

/-- The dialect sees no difference between two kinds. -/
def SourceDialect.Same [SourceDialect δ] (k l : δ) : Prop := SourceDialect.same k l = true

/-! ## The shape of a source -/

/-- What is left of a source without infos, aliases, hints, flashback expressions and catalog
entries. -/
inductive TableSource.Shape (δ : Type)
  | table (expr : Option Expr.Shape) (partitions : List Expr.Shape)
  | join (left : Option (Shape δ)) (kind : JoinKind) (right : Option (Shape δ))
      (condition : Option Expr.Shape) (columns : List Expr.Shape) (natural : Bool)
  | dialect (kind : δ) (parts : List Expr.Shape)

namespace TableSource

mutual

def shape : TableSource δ → Shape δ
  | table t => .table (t.expr.map Expr.shape) (t.partitions.map Expr.shape)
  | join ⟨_, l, k, r, c, us, n⟩ =>
    .join (shapeSide l) k (shapeSide r) (c.map Expr.shape) (us.map Expr.shape) n
  | dialect _ kind parts => .dialect kind (parts.map Expr.shape)

def shapeSide : Option (TableSource δ) → Option (Shape δ)
  | none => none
  | some s => some s.shape

end

variable [SourceDialect δ]

namespace Shape

mutual

/-- Two shapes that differ at most where the dialect sees no difference. -/
def Alike : Shape δ → Shape δ → Prop
  | table e ps, table e' ps' => e = e' ∧ ps = ps'
  | join l k r c us n, join l' k' r' c' us' n' =>
    AlikeSide l l' ∧ AlikeSide r r' ∧ k = k' ∧ c = c' ∧ us = us' ∧ n = n'
  | dialect k ps, dialect k' ps' => SourceDialect.Same k k' ∧ ps = ps'
  | _, _ => False

/-- Both sides are missing, or both are there and alike. -/
def AlikeSide : Option (Shape δ) → Option (Shape δ) → Prop
  | none, none => True
  | some s, some t => s.Alike t
  | _, _ => False

end

/-! ## What a shape is like -/

theorem alike_table {e : Option Expr.Shape} {ps : List Expr.Shape} {t : Shape δ} :
    (table e ps).Alike t ↔ t = table e ps := by
  cases t <;> simp [Alike, eq_comm]

theorem alike_join {l r : Option (Shape δ)} {k : JoinKind} {c : Option Expr.Shape}
    {us : List Expr.Shape} {n : Bool} {t : Shape δ} :
    (join l k r c us n).Alike t ↔
      ∃ l' r', AlikeSide l l' ∧ AlikeSide r r' ∧ t = join l' k r' c us n := by
  cases t with
  | join l' k' r' c' us' n' =>
    simp only [Alike, join.injEq]
    constructor
    · rintro ⟨hl, hr, rfl, rfl, rfl, rfl⟩
      exact ⟨l', r', hl, hr, rfl, rfl, rfl, rfl, rfl, rfl⟩
    · rintro ⟨_, _, hl, hr, rfl, rfl, rfl, rfl, rfl, rfl⟩
      exact ⟨hl, hr, rfl, rfl, rfl, rfl⟩
  | table _ _ | dialect _ _ => simp [Alike]

theorem alike_dialect {k : δ} {ps : List Expr.Shape} {t : Shape δ} :
    (dialect k ps).Alike t ↔ ∃ k', SourceDialect.Same k k' ∧ t = dialect k' ps := by
  cases t with
  | dialect k' ps' =>
    simp only [Alike, dialect.injEq]
    constructor
    · rintro ⟨hk, rfl⟩
      exact ⟨k', hk, rfl, rfl⟩
    · rintro ⟨_, hk, rfl, rfl⟩
      exact ⟨hk, rfl⟩
  | table _ _ | join _ _ _ _ _ _ => simp [Alike]

theorem alikeSide_none {t : Option (Shape δ)} : AlikeSide none t ↔ t = none := by
  cases t <;> simp [AlikeSide]

theorem alikeSide_some {s : Shape δ} {t : Option (Shape δ)} :
    AlikeSide (some s) t ↔ ∃ t', s.Alike t' ∧ t = some t' := by
  cases t <;> simp [AlikeSide]

/-! ## Likeness is an equivalence if the dialect's is -/

mutual

theorem Alike.refl (h : ∀ k : δ, SourceDialect.Same k k) : (s : Shape δ) → s.Alike s
  | table _ _ => alike_table.mpr rfl
  | join l _ r _ _ _ => alike_join.mpr ⟨l, r, AlikeSide.refl h l, AlikeSide.refl h r, rfl⟩
  | dialect k _ => alike_dialect.mpr ⟨k, h k, rfl⟩

theorem AlikeSide.refl (h : ∀ k : δ, SourceDialect.Same k k) :
    (s : Option (Shape δ)) → AlikeSide s s
  | none => alikeSide_none.mpr rfl
  | some s => alikeSide_some.mpr ⟨s, Alike.refl h s, rfl⟩

end

-- Two shapes like a third are alike. Symmetry and transitivity both follow from this and `refl`.
mutual

theorem Alike.euclidean (h : Equivalence (SourceDialect.Same (δ := δ))) :
    (s t u : Shape δ) → s.Alike t → s.Alike u → t.Alike u
  | table _ _, t, u, ht, hu => by
    rw [alike_table.mp ht]
    exact hu
  | join l _ r _ _ _, t, u, ht, hu => by
    obtain ⟨l', r', hl, hr, rfl⟩ := alike_join.mp ht
    obtain ⟨l'', r'', hl', hr', rfl⟩ := alike_join.mp hu
    have hleft := AlikeSide.euclidean h l l' l'' hl hl'
    have hright := AlikeSide.euclidean h r r' r'' hr hr'
    exact alike_join.mpr ⟨l'', r'', hleft, hright, rfl⟩
  | dialect k _, t, u, ht, hu => by
    obtain ⟨k', hk, rfl⟩ := alike_dialect.mp ht
    obtain ⟨k'', hk', rfl⟩ := alike_dialect.mp hu
    exact alike_dialect.mpr ⟨k'', h.trans (h.symm hk) hk', rfl⟩

theorem AlikeSide.euclidean (h : Equivalence (SourceDialect.Same (δ := δ))) :
    (s t u : Option (Shape δ)) → AlikeSide s t → AlikeSide s u → AlikeSide t u
  | none, t, u, ht, hu => by
    rw [alikeSide_none.mp ht]
    exact hu
  | some s, t, u, ht, hu => by
    obtain ⟨t', ht', rfl⟩ := alikeSide_some.mp ht
    obtain ⟨u', hu', rfl⟩ := alikeSide_some.mp hu
    exact alikeSide_some.mpr ⟨u', Alike.euclidean h s t' u' ht' hu', rfl⟩

end

theorem alike_equivalence (h : Equivalence (SourceDialect.Same (δ := δ))) :
    Equivalence (Alike (δ := δ)) where
  refl := Alike.refl h.refl
  symm {s t} hst := Alike.euclidean h s t s hst (Alike.refl h.refl s)
  trans {s t u} hst htu := by
    have hts := Alike.euclidean h s t s hst (Alike.refl h.refl s)
    exact Alike.euclidean h t s u hts htu

end Shape

/-! ## The work list -/

theorem alikeSides_iff (l r l' r' : Option (TableSource δ)) :
    (Shape.AlikeSide (shapeSide l) (shapeSide l') ∧ Shape.AlikeSide (shapeSide r) (shapeSide r')) ↔
      (l.isSome = l'.isSome ∧ r.isSome = r'.isSome) ∧
        ∀ p ∈ (l.toList ++ r.toList).zip (l'.toList ++ r'.toList), p.1.shape.Alike p.2.shape := by
  -- Where one side is missing the zip pairs what is left; the flags rule out a left and a right one.
  cases l <;> cases l' <;> cases r <;> cases r' <;> simp [shapeSide, Shape.AlikeSide]

theorem alike_join_iff (j k : JoinSource δ) :
    (join j).shape.Alike (join k).shape ↔
      j.sameShallow k = true ∧ ∀ p ∈ j.sides.zip k.sides, p.1.shape.Alike p.2.shape := by
  obtain ⟨_, l, kind, r, c, us, n⟩ := j
  obtain ⟨_, l', kind', r', c', us', n'⟩ := k
  have hsides := alikeSides_iff l r l' r'
  simp only [shape, Shape.Alike, Join.sameShallow, sameExpr?, sameExprs, Join.sides,
    Bool.and_eq_true, decide_eq_true_eq]
  constructor
  · rintro ⟨hl, hr, hkind, hc, hus, hn⟩
    obtain ⟨⟨hleft, hright⟩, hzip⟩ := hsides.mp ⟨hl, hr⟩
    exact ⟨⟨⟨⟨⟨⟨hn, hkind⟩, hc⟩, hus⟩, hleft⟩, hright⟩, hzip⟩
  · rintro ⟨⟨⟨⟨⟨⟨hn, hkind⟩, hc⟩, hus⟩, hleft⟩, hright⟩, hzip⟩
    obtain ⟨hl, hr⟩ := hsides.mpr ⟨⟨hleft, hright⟩, hzip⟩
    exact ⟨hl, hr, hkind, hc, hus, hn⟩

theorem sameAll_iff (pending : List (TableSource δ × TableSource δ)) :
    sameAll pending = true ↔ ∀ p ∈ pending, p.1.shape.Alike p.2.shape := by
  fun_induction sameAll pending with
  | case1 => simp
  | case2 a b rest ih =>
    simp only [Bool.and_eq_true, List.forall_mem_cons, ih]
    simp [TableRef.same, sameExpr?, sameExprs, shape, Shape.Alike]
  | case3 a b rest ih =>
    simp only [Bool.and_eq_true, List.forall_mem_cons, List.forall_mem_append, List.mem_reverse, ih,
      alike_join_iff, and_assoc]
  | case4 _ k ps _ l qs rest ih =>
    simp only [Bool.and_eq_true, List.forall_mem_cons, ih]
    simp [sameExprs, shape, Shape.Alike, SourceDialect.Same]
  | case5 p rest htable hjoin hdialect =>
    refine ⟨nofun, fun h => ?_⟩
    have hp := h p List.mem_cons_self
    obtain ⟨a, b⟩ := p
    cases a <;> cases b <;> simp [shape, Shape.Alike] at hp
    · exact (htable _ _ rfl).elim
    · exact (hjoin _ _ rfl).elim
    · exact (hdialect _ _ _ _ _ _ rfl).elim

theorem same_iff_alike (a b : TableSource δ) : a.same b = true ↔ a.shape.Alike b.shape := by
  rw [same, sameAll_iff]
  simp

theorem join_same (j k : JoinSource δ) : JoinSource.same j k = (join j).same (join k) := by
  rw [Bool.eq_iff_iff, same_iff_alike, alike_join_iff, JoinSource.same, Bool.and_eq_true,
    List.all_eq_true]
  simp only [same_iff_alike]

theorem same_equivalence (h : Equivalence (SourceDialect.Same (δ := δ))) :
    Equivalence fun a b : TableSource δ => a.same b = true := by
  have halike := Shape.alike_equivalence h
  simp only [same_iff_alike]
  exact ⟨fun a => halike.refl a.shape, halike.symm, halike.trans⟩

/-- The comparison says yes exactly if the shapes are alike. So equality of sources is an
equivalence if the dialect's is, and joins are equal exactly if they are equal as sources. -/
theorem same_exactly_alike :
    (∀ a b : TableSource δ, a.same b = true ↔ a.shape.Alike b.shape) ∧
      (Equivalence (SourceDialect.Same (δ := δ)) →
        Equivalence fun a b : TableSource δ => a.same b = true) ∧
      ∀ j k : JoinSource δ, JoinSource.same j k = (join j).same (join k) :=
  ⟨same_iff_alike, same_equivalence, join_same⟩

end TableSource

/-! ## The small dialect -/

theorem SourceKind.same_iff {k l : SourceKind} : SourceDialect.Same k l ↔ k = l :=
  decide_eq_true_iff

theorem SourceKind.same_equivalence : Equivalence (SourceDialect.Same (δ := SourceKind)) where
  refl _ := same_iff.mpr rfl
  symm h := same_iff.mpr (same_iff.mp h).symm
  trans h h' := same_iff.mpr ((same_iff.mp h).trans (same_iff.mp h'))

/-- A join with a left side only is not equal to one with a right side only. -/
theorem same_exactly_alike_one_side :
    Equivalence (SourceDialect.Same (δ := SourceKind)) ∧
      (Equivalence fun a b : TableSource SourceKind => a.same b = true) ∧
      let h : SourceHeader := { info := { id := ⟨1⟩ } }
      let one : TableSource SourceKind := .dialect h (.series 3) []
      ¬ (TableSource.join { header := h, left := some one }).same
        (.join { header := h, right := some one }) := by
  obtain ⟨hiff, hequivalence, -⟩ := TableSource.same_exactly_alike (δ := SourceKind)
  refine ⟨SourceKind.same_equivalence, hequivalence SourceKind.same_equivalence, ?_⟩
  intro h one hsame
  have halike := (hiff _ _).mp hsame
  simp [TableSource.shape, TableSource.shapeSide, TableSource.Shape.Alike,
    TableSource.Shape.AlikeSide] at halike

end SqlTree
