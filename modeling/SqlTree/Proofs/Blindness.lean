import SqlTree.Lookup
import SqlTree.Proofs.Presentation
import SqlTree.Proofs.Renaming

/-! # What does not see a renaming

Texts, feeds, equality, names and lookups stay as they are when identities get other names. -/

namespace SqlTree

variable {δ ε : Type} (ρ : NodeId → NodeId)

/-! ## Expressions and data types -/

namespace Expr

@[simp] theorem shape_rename (e : Expr) : (rename ρ e).shape = e.shape := by
  induction e with
  | identifier _ _ | literal _ _ => rfl
  | property _ owner name ih => exact congrArg (Shape.property · name) ih
  | binary _ left op right ihl ihr => exact congrArg₂ (Shape.binary · op ·) ihl ihr

@[simp] theorem render_rename (e : Expr) : (rename ρ e).render = e.render :=
  render_of_shape _ _ (shape_rename ρ e)

@[simp] theorem feed_rename (e : Expr) : (rename ρ e).feed = e.feed :=
  ((feed_delimits _).feed_eq_iff e).mpr (shape_rename ρ e)

theorem same_rename (a b : Expr) : (rename ρ a).same (rename ρ b) = a.same b := by
  rw [same, shape_rename, shape_rename, same]

@[simp] theorem simpleName?_rename (e : Expr) : (rename ρ e).simpleName? = e.simpleName? := by
  cases e <;> rfl

@[simp] theorem identifier?_rename (e : Expr) : (rename ρ e).identifier? = e.identifier? := by
  cases e <;> rfl

@[simp] theorem isName_rename (e : Expr) : (rename ρ e).isName = e.isName := by
  rw [isName, simpleName?_rename, isName]

end Expr

@[simp] theorem shapes_rename (es : List Expr) :
    (es.map (rename ρ)).map Expr.shape = es.map Expr.shape := by
  simp

@[simp] theorem shape?_rename (e : Option Expr) :
    (e.map (rename ρ)).map Expr.shape = e.map Expr.shape := by
  simp [Function.comp_def]

@[simp] theorem renders_rename (es : List Expr) :
    (es.map (rename ρ)).map Expr.render = es.map Expr.render := by
  simp

@[simp] theorem renderExprs_rename (es : List Expr) :
    renderExprs (es.map (rename ρ)) = renderExprs es := by
  rw [renderExprs, renders_rename, renderExprs]

theorem DataType.key_rename (t : DataType) : (rename ρ t).key = t.key :=
  congrArg (Prod.mk t.name) (shapes_rename ρ t.arguments)

@[simp] theorem DataType.render_rename (t : DataType) : (rename ρ t).render = t.render :=
  render_of_key _ _ (t.key_rename ρ)

@[simp] theorem DataType.feed_rename (t : DataType) : (rename ρ t).feed = t.feed :=
  ((feed_delimits _).feed_eq_iff t).mpr (t.key_rename ρ)

theorem DataType.same_rename (t u : DataType) : (rename ρ t).same (rename ρ u) = t.same u := by
  change (decide (t.name = u.name) && sameExprs (t.arguments.map _) (u.arguments.map _)) = _
  rw [sameExprs, shapes_rename, shapes_rename, same, sameExprs]

/-! ## Sources -/

namespace TableSource

@[simp] theorem shape_rename (s : TableSource δ) : (rename ρ s).shape = s.shape := by
  induction s using TableSource.nested with
  | table t =>
    change Shape.table ((t.expr.map _).map _) ((t.partitions.map _).map _) = _
    rw [shape?_rename, shapes_rename, shape]
  | join j ihl ihr =>
    have hside {side : Option (TableSource δ)} (ih : ∀ s ∈ side, (rename ρ s).shape = s.shape) :
        (side.map (rename ρ)).map shape = side.map shape := by
      rw [Option.map_map]
      exact Option.map_congr ih
    rw [rename_join, shape_join, shape_join]
    change Shape.join ((j.left.map (rename ρ)).map shape) j.kind
      ((j.right.map (rename ρ)).map shape) ((j.condition.map _).map _) ((j.columns.map _).map _)
      j.natural = _
    rw [hside ihl, hside ihr, shape?_rename, shapes_rename]
  | dialect h kind parts =>
    change Shape.dialect kind ((parts.map _).map _) = _
    rw [shapes_rename, shape]

variable [SourceDialect δ]

@[simp] theorem render_rename (s : TableSource δ) : (rename ρ s).render = s.render :=
  (feed_render_of_shape _ _ (s.shape_rename ρ)).2

@[simp] theorem feed_rename (s : TableSource δ) : (rename ρ s).feed = s.feed :=
  (feed_render_of_shape _ _ (s.shape_rename ρ)).1

theorem same_rename (a b : TableSource δ) : (rename ρ a).same (rename ρ b) = a.same b := by
  rw [(same_of_shape (a.shape_rename ρ) _).1, (same_of_shape (b.shape_rename ρ) _).2]

end TableSource

@[simp] theorem TableRef.render_rename (t : TableRef) : (rename ρ t).render = t.render := by
  change ((t.expr.map (rename ρ)).map Expr.render).getD "" = _
  rw [render]
  cases t.expr with
  | none => rfl
  | some e => exact e.render_rename ρ

theorem TableRef.feed_rename (t : TableRef) : (rename ρ t).feed = t.feed := by
  change Feed.option Expr.feed (t.expr.map _) ++ Feed.list Expr.feed (t.partitions.map _) = _
  rw [((Expr.feed_delimits.option _).feed_eq_iff t.expr).mpr (shape?_rename ρ t.expr),
    ((Expr.feed_delimits.list _).feed_eq_iff t.partitions).mpr (shapes_rename ρ t.partitions), feed]

theorem JoinSource.same_rename [SourceDialect δ] (j k : JoinSource δ) :
    JoinSource.same (rename ρ j) (rename ρ k) = JoinSource.same j k := by
  rw [TableSource.join_same, TableSource.join_same, ← TableSource.rename_join,
    ← TableSource.rename_join, TableSource.same_rename]

theorem TableRef.same_rename (t u : TableRef) : (rename ρ t).same (rename ρ u) = t.same u := by
  change (sameExpr? (t.expr.map _) (u.expr.map _) &&
    sameExprs (t.partitions.map _) (u.partitions.map _)) = _
  simp only [sameExpr?, sameExprs, shape?_rename, shapes_rename, same]

/-! ## Table definitions -/

@[simp] theorem renderConstraintName_rename (e : Option Expr) :
    renderConstraintName (e.map (rename ρ)) = renderConstraintName e := by
  cases e <;> simp [renderConstraintName]

@[simp] theorem Column.render_rename (c : Column) : (rename ρ c).render = c.render := by
  obtain ⟨i, name, t, d, notNull, primaryKey⟩ := c
  cases t <;> cases d <;> simp [render]

@[simp] theorem UniqueKey.render_rename (k : UniqueKey) : (rename ρ k).render = k.render := by
  obtain ⟨i, name, es, primaryKey⟩ := k
  simp [render]

@[simp] theorem TableIndex.render_rename (x : TableIndex) : (rename ρ x).render = x.render := by
  obtain ⟨i, name, es, unique⟩ := x
  simp [render]

@[simp] theorem Check.render_rename (c : Check) : (rename ρ c).render = c.render := by
  obtain ⟨i, name, e⟩ := c
  simp [render]

@[simp] theorem TableElement.render_rename [ElementDialect ε] (e : TableElement ε) :
    (rename ρ e).render = e.render := by
  cases e with
  | column a | unique a | index a | check a => exact a.render_rename ρ
  | dialect i kind parts inner =>
    exact congrArg₂ (ElementDialect.render kind) (renders_rename ρ parts) (renders_rename ρ inner)

theorem CreateTable.render_rename [ElementDialect ε] (c : CreateTable ε) :
    (rename ρ c).render = c.render := by
  obtain ⟨i, db, b, k, source, es, inherits, select⟩ := c
  have hselect (s : Select) : (rename ρ s).render = s.render := rfl
  cases source <;> cases inherits <;> cases select <;>
    simp [render, hselect, Function.comp_def]

/-! ## Parameters -/

namespace Parameter

theorem feed_rename (p : Parameter) : (rename ρ p).feed = p.feed := by
  induction p using Parameter.nested with
  | parameter p ih =>
    obtain ⟨i, n, t, d, dir, nc, k, c, ps⟩ := p
    have hexpr (e : Option Expr) :
        Feed.option Expr.feed (e.map (rename ρ)) = Feed.option Expr.feed e := by
      cases e <;> simp [Feed.option]
    have htype : Feed.option DataType.feed (t.map (rename ρ)) = Feed.option DataType.feed t := by
      cases t <;> simp [Feed.option]
    rw [rename_mk]
    simp only [feed, feedEach_eq, hexpr, htype, List.length_map, List.flatMap_map]
    rw [List.flatMap_congr ih]

theorem same_rename (p q : Parameter) : (rename ρ p).same (rename ρ q) = p.same q := by
  rw [Bool.eq_iff_iff, ← (feed_delimits _).feed_eq_iff, ← (feed_delimits _).feed_eq_iff,
    feed_rename, feed_rename]

theorem render_rename (p : Parameter) : (rename ρ p).render = p.render :=
  render_of_same _ _ (((feed_delimits _).feed_eq_iff p).mp (p.feed_rename ρ))

end Parameter

/-! ## Any node -/

namespace Node

variable [SourceDialect δ]

theorem render_rename [ElementDialect ε] (n : Node δ ε) : (rename ρ n).render = n.render := by
  cases n with
  | hint _ | select _ => rfl
  | join j =>
    change (TableSource.join (rename ρ j)).render = (TableSource.join j).render
    rw [← TableSource.rename_join, TableSource.render_rename]
  | expr a | dataType a | table a | source a | create a | column a | unique a | index a | check a
  | element a | parameter a => exact a.render_rename ρ

theorem feed?_rename (n : Node δ ε) : (rename ρ n).feed? = n.feed? := by
  cases n with
  | hint _ | select _ | create _ | column _ | unique _ | index _ | check _ | element _ => rfl
  | join j =>
    have hfeed := (TableSource.join j).feed_rename ρ
    rw [TableSource.rename_join, TableSource.feed_join, TableSource.feed_join] at hfeed
    exact congrArg some (List.cons.inj hfeed).2
  | expr a | dataType a | table a | source a | parameter a => exact congrArg some (a.feed_rename ρ)

theorem same?_rename (m n : Node δ ε) : (rename ρ m).same? (rename ρ n) = m.same? n := by
  cases m with
  | expr a =>
    cases n with
    | expr b => exact congrArg some (a.same_rename ρ b)
    | _ => rfl
  | dataType a =>
    cases n with
    | dataType b => exact congrArg some (a.same_rename ρ b)
    | _ => rfl
  | table a =>
    cases n with
    | table b => exact congrArg some (a.same_rename ρ b)
    | _ => rfl
  | join a =>
    cases n with
    | join b => exact congrArg some (JoinSource.same_rename ρ a b)
    | _ => rfl
  | source a =>
    cases n with
    | source b => exact congrArg some (a.same_rename ρ b)
    | _ => rfl
  | parameter a =>
    cases n with
    | parameter b => exact congrArg some (a.same_rename ρ b)
    | _ => rfl
  | _ => cases n <;> rfl

end Node

/-! ## Names and lookups -/

theorem TableRef.name?_rename (t : TableRef) : (rename ρ t).name? = t.name?.map (rename ρ) := by
  change (t.expr.map (rename ρ)).filter (·.isName) = (t.expr.filter (·.isName)).map (rename ρ)
  cases t.expr with
  | none => rfl
  | some e => by_cases h : e.isName <;> simp [Option.filter, h]

theorem TableRef.computeAlias_rename (n : Text.Normalizer) (t : TableRef) :
    (rename ρ t).computeAlias n = t.computeAlias n := by
  obtain ⟨h, e, es, o⟩ := t
  cases e <;> simp [computeAlias] <;> rfl

theorem Column.computeAlias_rename (n : Text.Normalizer) (c : Column) :
    (rename ρ c).computeAlias n = c.computeAlias n :=
  congrArg (Option.map n) (c.name.simpleName?_rename ρ)

theorem TableSource.computeAlias_rename (n : Text.Normalizer) (s : TableSource δ) :
    (rename ρ s).computeAlias n = s.computeAlias n := by
  cases s with
  | table t => exact t.computeAlias_rename ρ n
  | join _ | dialect _ _ _ => rfl

namespace CreateTable

theorem computeName_rename (n : Text.Normalizer) (c : CreateTable ε) :
    (rename ρ c).computeName n = c.computeName n := by
  obtain ⟨i, db, b, k, source, es, inherits, select⟩ := c
  cases source with
  | none => rfl
  | some t =>
    simp only [computeName, name?, rename_mk, Option.map_some, Option.bind_some,
      TableRef.name?_rename]
    cases t.name? <;> simp

variable (n : Text.Normalizer) (name : String)

theorem isColumnNamed_rename (e : TableElement ε) :
    isColumnNamed n name (rename ρ e) = isColumnNamed n name e := by
  cases e with
  | column c =>
    change ((rename ρ c).computeAlias n).any _ = (c.computeAlias n).any _
    rw [c.computeAlias_rename]
  | unique _ | index _ | check _ | dialect _ _ _ _ => rfl

theorem columnIdx?_rename (c : CreateTable ε) :
    (rename ρ c).columnIdx? n name = c.columnIdx? n name := by
  change (c.elements.map (rename ρ)).findIdx? _ = _
  rw [List.findIdx?_map, columnIdx?]
  exact congrArg (List.findIdx? · _) (funext (isColumnNamed_rename ρ n name))

theorem findColumn?_rename (c : CreateTable ε) :
    (rename ρ c).findColumn? n name = (c.findColumn? n name).map (rename ρ) := by
  change ((c.elements.map (rename ρ)).find? _).bind _ = _
  have hnamed : isColumnNamed n name ∘ rename ρ = isColumnNamed (ε := ε) n name :=
    funext (isColumnNamed_rename ρ n name)
  rw [List.find?_map, hnamed, findColumn?]
  cases c.elements.find? (isColumnNamed n name) with
  | none => rfl
  | some e => cases e <;> rfl

variable [ElementDialect ε]

theorem keyColumns?_rename (e : TableElement ε) :
    (rename ρ e).keyColumns? = e.keyColumns?.map (List.map (rename ρ)) := by
  cases e with
  | column _ | check _ | unique _ | index _ => rfl
  | dialect i kind parts inner =>
    change TableElement.keyColumns? (.dialect _ kind (parts.map (rename ρ)) (inner.map (rename ρ))) = _
    rw [TableElement.keyColumns?, TableElement.keyColumns?]
    cases ElementDialect.keys kind <;> rfl

theorem hasKeyNamed_rename (e : TableElement ε) :
    hasKeyNamed n name (rename ρ e) = hasKeyNamed n name e := by
  rw [hasKeyNamed, keyColumns?_rename, hasKeyNamed]
  cases e.keyColumns? <;> simp [Function.comp_def]

theorem keyIdx?_rename (c : CreateTable ε) : (rename ρ c).keyIdx? n name = c.keyIdx? n name := by
  change (c.elements.map (rename ρ)).findIdx? _ = _
  rw [List.findIdx?_map, keyIdx?]
  exact congrArg (List.findIdx? · _) (funext (hasKeyNamed_rename ρ n name))

theorem findIndex?_rename (c : CreateTable ε) :
    (rename ρ c).findIndex? n name = (c.findIndex? n name).map (rename ρ) := by
  change (c.elements.map (rename ρ)).find? _ = _
  have hnamed : hasKeyNamed n name ∘ rename ρ = hasKeyNamed (ε := ε) n name :=
    funext (hasKeyNamed_rename ρ n name)
  rw [List.find?_map, hnamed, findIndex?]

end CreateTable

end SqlTree
