import SqlTree.Proofs.Delimited
import SqlTree.Proofs.Likeness
import SqlTree.Proofs.Nested

/-! # Feeds of sources and parameters

Two sources, or two parameters, feed the same words exactly if they are equal, and no feed is a
proper prefix of another one. -/

namespace SqlTree

variable {δ : Type} [SourceDialect δ]

/-! ## What is asked of a dialect -/

/-- The kinds that the dialect sees as equal are of one variant, and among the kinds of one variant
the feeds are equal for equal kinds only, and none is a proper prefix of another one. -/
structure SourceDialect.Delimited (δ : Type) [SourceDialect δ] : Prop where
  variant : ∀ {k l : δ}, Same k l → variantName k = variantName l
  feed_eq : ∀ {k l : δ}, variantName k = variantName l → (feed k = feed l ↔ Same k l)
  feed_isPrefix : ∀ {k l : δ}, variantName k = variantName l → feed k <+: feed l → feed k = feed l

theorem SourceDialect.Delimited.append_iff (h : Delimited δ) {k l : δ}
    (hvariant : variantName k = variantName l) {rest rest' : List Word} :
    feed k ++ rest = feed l ++ rest' ↔ Same k l ∧ rest = rest' := by
  constructor
  · intro happend
    have hfeed : feed k = feed l := by
      have hk : feed k <+: feed l ++ rest' := ⟨rest, happend⟩
      rcases List.prefix_or_prefix_of_prefix hk (List.prefix_append _ _) with hkl | hlk
      · exact h.feed_isPrefix hvariant hkl
      · exact (h.feed_isPrefix hvariant.symm hlk).symm
    rw [hfeed] at happend
    exact ⟨(h.feed_eq hvariant).mp hfeed, List.append_cancel_left happend⟩
  · rintro ⟨hsame, rfl⟩
    rw [(h.feed_eq hvariant).mpr hsame]

/-! ## Tables and joins -/

theorem TableRef.feed_append_iff (t u : TableRef) (rest rest' : List Word) :
    t.feed ++ rest = u.feed ++ rest' ↔
      (t.expr.map Expr.shape = u.expr.map Expr.shape ∧
        t.partitions.map Expr.shape = u.partitions.map Expr.shape) ∧ rest = rest' := by
  simp only [feed, List.append_assoc, Expr.feed_delimits.option _ _ _ _,
    Expr.feed_delimits.list _ _ _ _, and_assoc]

theorem Join.feedShallow_delimits {σ : Type} (j : Join σ) :
    DelimitsAt Join.feedShallow (fun j k => j.sameShallow k = true) j := by
  intro k rest rest'
  simp only [feedShallow, sameShallow, sameExpr?, sameExprs, List.cons_append, List.append_assoc,
    List.nil_append, List.cons.injEq, Word.count.injEq, Word.flag.injEq, JoinKind.ordinal_inj,
    Expr.feed_delimits.option _ _ _ _, Expr.feed_delimits.list _ _ _ _, Bool.and_eq_true,
    decide_eq_true_eq]
  constructor
  · rintro ⟨hkind, hc, hus, hn, hl, hr, hrest⟩
    exact ⟨⟨⟨⟨⟨⟨hn, hkind⟩, hc⟩, hus⟩, hl⟩, hr⟩, hrest⟩
  · rintro ⟨⟨⟨⟨⟨⟨hn, hkind⟩, hc⟩, hus⟩, hl⟩, hr⟩, hrest⟩
    exact ⟨hkind, hc, hus, hn, hl, hr, hrest⟩

/-! ## Sources -/

namespace TableSource

theorem feedAll_append (ss ts : List (TableSource δ)) :
    feedAll (ss ++ ts) = feedAll ss ++ feedAll ts := by
  fun_induction feedAll ss with
  | case1 => rfl
  | case2 t rest ih => simp only [List.cons_append, feedAll, ih, List.append_assoc]
  | case3 j rest ih =>
    simp only [List.cons_append, feedAll, ← ih, List.append_assoc]
  | case4 _ kind parts rest ih => simp only [List.cons_append, feedAll, ih, List.append_assoc]

theorem feedAll_eq (ss : List (TableSource δ)) : feedAll ss = ss.flatMap feed := by
  induction ss with
  | nil => rw [feedAll, List.flatMap_nil]
  | cons s ss ih =>
    rw [List.flatMap_cons, ← ih, feed, ← feedAll_append, List.singleton_append]

theorem feed_table (t : TableRef) : (table t : TableSource δ).feed = .count 0 :: t.feed := by
  rw [feed, feedAll, feedAll, List.append_nil]

theorem feed_join (j : JoinSource δ) :
    (join j).feed = .count 1 :: (j.feedShallow ++ j.sides.flatMap feed) := by
  rw [feed, feedAll, List.append_nil, feedAll_eq]

theorem feed_dialect (h : SourceHeader) (kind : δ) (parts : List Expr) :
    (dialect h kind parts).feed = .count 2 :: (Feed.text (SourceDialect.variantName kind) ++
      SourceDialect.feed kind ++ Feed.list Expr.feed parts) := by
  rw [feed, feedAll, feedAll, List.append_nil]

omit [SourceDialect δ] in
theorem length_sides {j k : JoinSource δ} (h : j.sameShallow k = true) :
    j.sides.length = k.sides.length := by
  simp only [Join.sameShallow, Bool.and_eq_true, decide_eq_true_eq] at h
  obtain ⟨⟨-, hleft⟩, hright⟩ := h
  rw [Join.sides, Join.sides, List.length_append, List.length_append, Option.length_toList,
    Option.length_toList, Option.length_toList, Option.length_toList, hleft, hright]

theorem feed_delimits_join {j : JoinSource δ}
    (h : ∀ s ∈ j.sides, DelimitsAt feed (fun s t => s.shape.Alike t.shape) s) (k : JoinSource δ)
    (rest rest' : List Word) :
    (join j).feed ++ rest = (join k).feed ++ rest' ↔
      (join j).shape.Alike (join k).shape ∧ rest = rest' := by
  rw [feed_join, feed_join, alike_join_iff]
  simp only [List.cons_append, List.append_assoc, List.cons.injEq, true_and]
  rw [j.feedShallow_delimits k, and_assoc]
  refine and_congr_right fun hshallow => ?_
  -- The flags come before the sides, so there are as many sides on the right as on the left.
  have hlength := length_sides hshallow
  rw [delimits_items h hlength, List.forall₂_iff_zip]
  simp only [hlength, true_and, Prod.forall]

theorem feed_delimits_dialect (hδ : SourceDialect.Delimited δ) (h h' : SourceHeader) (k l : δ)
    (ps qs : List Expr) (rest rest' : List Word) :
    (dialect h k ps).feed ++ rest = (dialect h' l qs).feed ++ rest' ↔
      (dialect h k ps).shape.Alike (dialect h' l qs).shape ∧ rest = rest' := by
  simp only [feed_dialect, List.cons_append, List.append_assoc, List.cons.injEq, true_and,
    text_delimits _ _ _ _, id, shape, Shape.Alike, and_assoc]
  constructor
  · rintro ⟨hvariant, hfeed⟩
    obtain ⟨hsame, hparts⟩ := (hδ.append_iff hvariant).mp hfeed
    exact ⟨hsame, (Expr.feed_delimits.list _ _ _ _).mp hparts⟩
  · rintro ⟨hsame, hparts⟩
    have hvariant := hδ.variant hsame
    exact ⟨hvariant, (hδ.append_iff hvariant).mpr
      ⟨hsame, (Expr.feed_delimits.list _ _ _ _).mpr hparts⟩⟩

theorem feed_delimits (hδ : SourceDialect.Delimited δ) (s : TableSource δ) :
    DelimitsAt feed (fun s t => s.shape.Alike t.shape) s := by
  induction s using TableSource.nested with
  | table t =>
    intro u rest rest'
    cases u with
    | table u => simp [feed_table, TableRef.feed_append_iff, shape, Shape.Alike]
    | join k => simp [feed_table, feed_join, shape, Shape.Alike]
    | dialect => simp [feed_table, feed_dialect, shape, Shape.Alike]
  | join j ihl ihr =>
    intro u rest rest'
    cases u with
    | table u => simp [feed_table, feed_join, shape, Shape.Alike]
    | join k =>
      refine feed_delimits_join (fun s hs => ?_) k rest rest'
      rcases List.mem_append.mp hs with hs | hs
      · exact ihl s (Option.mem_toList.mp hs)
      · exact ihr s (Option.mem_toList.mp hs)
    | dialect => simp [feed_join, feed_dialect, shape, Shape.Alike]
  | dialect h kind parts =>
    intro u rest rest'
    cases u with
    | table u => simp [feed_table, feed_dialect, shape, Shape.Alike]
    | join k => simp [feed_join, feed_dialect, shape, Shape.Alike]
    | dialect h' kind' parts' =>
      exact feed_delimits_dialect hδ h h' kind kind' parts parts' rest rest'

end TableSource

/-! ## Parameters -/

namespace Parameter

theorem feedEach_eq (ps : List Parameter) : feedEach ps = ps.flatMap feed := by
  induction ps with
  | nil => rfl
  | cons p ps ih => rw [feedEach, ih, List.flatMap_cons]

theorem sameAll_iff (ps qs : List Parameter) :
    sameAll ps qs = true ↔ List.Forall₂ (fun p q => p.same q = true) ps qs := by
  induction ps generalizing qs with
  | nil => cases qs <;> simp [sameAll]
  | cons p ps ih => cases qs <;> simp [sameAll, ih]

theorem sameType?_iff (t u : Option DataType) :
    sameType? t u = true ↔ t.map DataType.key = u.map DataType.key := by
  cases t <;> cases u <;> simp [sameType?, DataType.same, sameExprs, DataType.key]

theorem feed_delimits (p : Parameter) : DelimitsAt feed (fun p q => p.same q = true) p := by
  induction p using Parameter.nested with
  | parameter p ih =>
    intro q rest rest'
    obtain ⟨i, n, t, d, dir, nc, k, c, ps⟩ := p
    obtain ⟨i', n', t', d', dir', nc', k', c', ps'⟩ := q
    have hps := delimits_list ih ps' rest rest'
    simp only [Feed.list, List.cons_append, List.cons.injEq, Word.count.injEq] at hps
    simp only [feed, same, feedEach_eq, sameExpr?, sameType?_iff, sameAll_iff, List.append_assoc,
      List.cons_append, List.nil_append, List.cons.injEq, Word.count.injEq, Word.flag.injEq,
      Expr.feed_delimits.option _ _ _ _, DataType.feed_delimits.option _ _ _ _,
      Direction.ordinal_inj, Bool.and_eq_true, decide_eq_true_eq, and_assoc, hps]

end Parameter

/-! ## Feeds match equality -/

/-- Sources and parameters feed the same words exactly if they are equal, and no feed is a proper
prefix of another one. -/
theorem feeds_match_equality (hδ : SourceDialect.Delimited δ) :
    (∀ a b : TableSource δ, a.feed = b.feed ↔ a.same b = true) ∧
      (∀ a b : TableSource δ, a.feed <+: b.feed → a.feed = b.feed) ∧
      (∀ p q : Parameter, p.feed = q.feed ↔ p.same q = true) ∧
      ∀ p q : Parameter, p.feed <+: q.feed → p.feed = q.feed := by
  refine ⟨fun a b => ?_, fun a b h => ?_, fun p q => ?_, fun p q h => ?_⟩
  · rw [TableSource.same_iff_alike]
    exact (TableSource.feed_delimits hδ a).feed_eq_iff b
  · exact (TableSource.feed_delimits hδ a).eq_of_isPrefix h
  · exact p.feed_delimits.feed_eq_iff q
  · exact p.feed_delimits.eq_of_isPrefix h

/-! ## The small dialect -/

theorem SourceKind.feed_append_iff {k l : SourceKind} (rest rest' : List Word)
    (hvariant : SourceDialect.variantName k = SourceDialect.variantName l) :
    SourceDialect.feed k ++ rest = SourceDialect.feed l ++ rest' ↔ k = l ∧ rest = rest' := by
  cases k <;> cases l <;> simp [SourceDialect.variantName] at hvariant
  · simp [SourceDialect.feed, text_delimits _ _ _ _]
  · simp [SourceDialect.feed]
  · simp [SourceDialect.feed]

theorem SourceKind.delimited : SourceDialect.Delimited SourceKind where
  variant h := by rw [same_iff.mp h]
  feed_eq hvariant := by
    have hnil := feed_append_iff [] [] hvariant
    rw [List.append_nil, List.append_nil] at hnil
    rw [hnil, same_iff]
    exact and_iff_left rfl
  feed_isPrefix hvariant hpre := by
    obtain ⟨rest, hrest⟩ := hpre
    obtain ⟨rfl, -⟩ := (feed_append_iff rest [] hvariant).mp (by rw [hrest, List.append_nil])
    rfl

/-- The two zeros, in tables with the same identity, feed different words. -/
theorem feeds_match_equality_zeros :
    let info : NodeInfo := { id := ⟨1⟩ }
    let holding (bits : UInt64) : TableSource SourceKind :=
      .table { header := { info }, expr := some (.literal info (.real ⟨bits⟩)) }
    SourceDialect.Delimited SourceKind ∧ (holding 0).feed ≠ (holding 0x8000000000000000).feed ∧
      ¬ (holding 0).feed <+: (holding 0x8000000000000000).feed := by
  intro info holding
  obtain ⟨heq, hpre, -⟩ := feeds_match_equality SourceKind.delimited
  have hdiffer : (holding 0).feed ≠ (holding 0x8000000000000000).feed := by
    rw [ne_eq, heq, TableSource.same_iff_alike]
    simp [holding, TableSource.shape, TableSource.Shape.Alike, Expr.shape]
  exact ⟨SourceKind.delimited, hdiffer, fun h => hdiffer (hpre _ _ h)⟩

end SqlTree
