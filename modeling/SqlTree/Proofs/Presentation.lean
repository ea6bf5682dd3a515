import Mathlib.Logic.Relation
import SqlTree.Proofs.Bare

/-! # Texts see only what equality sees

Equal nodes have the same text. Alias, hints, flashback expression, catalog entry, parent and
attributes are presentation: a change to them, at any depth of a source, leaves its text, its feed
and its equality with every other source as they were. -/

namespace SqlTree

variable {δ : Type}

/-! ## Texts follow from shapes -/

section

variable {α β γ : Type} {f : α → β} {g : α → γ}

theorem slot_map_of_map {x y : Option α} (hfg : ∀ a ∈ x, ∀ b, f a = f b → g a = g b)
    (h : x.map f = y.map f) : x.map g = y.map g := by
  cases x with
  | none =>
    cases y with
    | none => rfl
    | some b => cases h
  | some a =>
    cases y with
    | none => cases h
    | some b => exact congrArg some (hfg a rfl b (Option.some.inj h))

theorem list_map_of_map {as bs : List α} (hfg : ∀ a b, f a = f b → g a = g b)
    (h : as.map f = bs.map f) : as.map g = bs.map g := by
  induction as generalizing bs with
  | nil =>
    rw [List.map_nil] at h
    rw [List.map_eq_nil_iff.mp h.symm]
  | cons a as ih =>
    cases bs with
    | nil => cases h
    | cons b bs =>
      obtain ⟨hhead, htail⟩ := List.cons.inj h
      rw [List.map_cons, List.map_cons, hfg a b hhead, ih htail]

end

theorem Expr.render_of_shape (a b : Expr) (h : a.shape = b.shape) : a.render = b.render := by
  induction a generalizing b with
  | identifier _ _ | literal _ _ =>
    cases b <;> simp_all [shape, render]
  | property _ owner name ih =>
    cases b with
    | property _ owner' name' =>
      obtain ⟨howner, rfl⟩ := Shape.property.inj h
      rw [render, render, ih owner' howner]
    | identifier _ _ | literal _ _ | binary _ _ _ _ => cases h
  | binary _ left op right ihl ihr =>
    cases b with
    | binary _ left' op' right' =>
      obtain ⟨hleft, rfl, hright⟩ := Shape.binary.inj h
      rw [render, render, ihl left' hleft, ihr right' hright]
    | identifier _ _ | property _ _ _ | literal _ _ => cases h

theorem renders_of_shapes {as bs : List Expr} (h : as.map Expr.shape = bs.map Expr.shape) :
    as.map Expr.render = bs.map Expr.render :=
  list_map_of_map Expr.render_of_shape h

theorem render?_of_shape? {a b : Option Expr} (h : a.map Expr.shape = b.map Expr.shape) :
    a.map Expr.render = b.map Expr.render :=
  slot_map_of_map (fun a _ => a.render_of_shape) h

theorem isEmpty_of_shapes {as bs : List Expr} (h : as.map Expr.shape = bs.map Expr.shape) :
    as.isEmpty = bs.isEmpty := by
  rw [← List.isEmpty_map (f := Expr.shape), h, List.isEmpty_map]

theorem DataType.render_of_key (t u : DataType) (h : t.key = u.key) : t.render = u.render := by
  obtain ⟨hname, harguments⟩ := Prod.mk.inj h
  simp only [render, renderExprs, hname, renders_of_shapes harguments, isEmpty_of_shapes harguments]

theorem DataType.key_of_same {t u : DataType} (h : t.same u = true) : t.key = u.key := by
  simpa [same, sameExprs, key] using h

theorem Join.renderAround_of_shapes {σ : Type} {j k : Join σ} (hkind : j.kind = k.kind)
    (hcondition : j.condition.map Expr.shape = k.condition.map Expr.shape)
    (hcolumns : j.columns.map Expr.shape = k.columns.map Expr.shape) (l r : String) :
    j.renderAround l r = k.renderAround l r := by
  have htexts := render?_of_shape? hcondition
  unfold renderAround renderExprs
  rw [hkind, renders_of_shapes hcolumns, isEmpty_of_shapes hcolumns]
  cases hj : j.condition <;> cases hk : k.condition <;> simp_all

/-! ## Sources -/

namespace TableSource

theorem map_sides {β : Type} (f : TableSource δ → β) (j : JoinSource δ) :
    j.sides.map f = (j.left.map f).toList ++ (j.right.map f).toList := by
  rw [Join.sides, List.map_append, Option.toList_map, Option.toList_map]

theorem sameShallow_of_shape {j k : JoinSource δ} (h : (join j).shape = (join k).shape) :
    j.sameShallow k = true := by
  rw [shape_join, shape_join, Shape.join.injEq] at h
  obtain ⟨hleft, hkind, hright, hcondition, hcolumns, hnatural⟩ := h
  have hl := congrArg Option.isSome hleft
  have hr := congrArg Option.isSome hright
  simp only [Option.isSome_map] at hl hr
  simp [Join.sameShallow, sameExpr?, sameExprs, *]

variable [SourceDialect δ]

theorem feed_render_of_shape (a b : TableSource δ) (h : a.shape = b.shape) :
    a.feed = b.feed ∧ a.render = b.render := by
  induction a using TableSource.nested generalizing b with
  | table t =>
    cases b with
    | table u =>
      obtain ⟨hexpr, hpartitions⟩ := Shape.table.inj h
      have hfeed := (t.feed_append_iff u [] []).mpr ⟨⟨hexpr, hpartitions⟩, rfl⟩
      rw [List.append_nil, List.append_nil] at hfeed
      refine ⟨by rw [feed_table, feed_table, hfeed], ?_⟩
      simp only [render, TableRef.render, render?_of_shape? hexpr]
    | join _ | dialect _ _ _ => cases h
  | join j ihl ihr =>
    cases b with
    | join k =>
      have hshallow := sameShallow_of_shape h
      rw [shape_join, shape_join, Shape.join.injEq] at h
      obtain ⟨hleft, hkind, hright, hcondition, hcolumns, -⟩ := h
      constructor
      · have hl := slot_map_of_map (fun s hs b h => (ihl s hs b h).1) hleft
        have hr := slot_map_of_map (fun s hs b h => (ihr s hs b h).1) hright
        rw [feed_join, feed_join, (j.feedShallow_delimits.feed_eq_iff k).mpr hshallow,
          List.flatMap_def, List.flatMap_def, map_sides, map_sides, hl, hr]
      · have hl := slot_map_of_map (fun s hs b h => (ihl s hs b h).2) hleft
        have hr := slot_map_of_map (fun s hs b h => (ihr s hs b h).2) hright
        rw [render_join, render_join, hl, hr, Join.renderAround_of_shapes hkind hcondition hcolumns]
    | table _ | dialect _ _ _ => cases (shape_join j).symm.trans h
  | dialect _ kind parts =>
    cases b with
    | dialect _ kind' parts' =>
      obtain ⟨rfl, hparts⟩ := Shape.dialect.inj h
      refine ⟨?_, ?_⟩
      · rw [feed_dialect, feed_dialect,
          ((Expr.feed_delimits.list parts).feed_eq_iff parts').mpr hparts]
      · rw [render, render, renderDialect, renderDialect, renders_of_shapes hparts]
    | table _ | join _ => cases h

/-- Sources that are alike have the same text if the dialect writes what it sees as equal alike. -/
theorem render_of_alike (hδ : ∀ {k l : δ}, SourceDialect.Same k l →
    SourceDialect.render k = SourceDialect.render l) (a b : TableSource δ)
    (h : a.shape.Alike b.shape) : a.render = b.render := by
  induction a using TableSource.nested generalizing b with
  | table t =>
    cases b with
    | table u =>
      obtain ⟨hexpr, -⟩ := h
      simp only [render, TableRef.render, render?_of_shape? hexpr]
    | join _ | dialect _ _ _ => cases h
  | join j ihl ihr =>
    cases b with
    | join k =>
      rw [shape_join, shape_join] at h
      obtain ⟨hleft, hright, hkind, hcondition, hcolumns, -⟩ := h
      have hside {l l' : Option (TableSource δ)}
          (ih : ∀ s ∈ l, ∀ b : TableSource δ, s.shape.Alike b.shape → s.render = b.render)
          (h : Shape.AlikeSide (l.map shape) (l'.map shape)) : l.map render = l'.map render := by
        cases l with
        | none => cases l' <;> first | rfl | cases h
        | some s =>
          cases l' with
          | none => cases h
          | some s' => exact congrArg some (ih s rfl s' h)
      rw [render_join, render_join, hside ihl hleft, hside ihr hright,
        Join.renderAround_of_shapes hkind hcondition hcolumns]
    | table _ | dialect _ _ _ =>
      rw [shape_join] at h
      cases h
  | dialect _ kind parts =>
    cases b with
    | dialect _ kind' parts' =>
      obtain ⟨hkind, hparts⟩ := h
      rw [render, render, renderDialect, renderDialect, hδ hkind, renders_of_shapes hparts]
    | table _ | join _ => cases h

theorem same_of_shape {a b : TableSource δ} (h : a.shape = b.shape) (u : TableSource δ) :
    a.same u = b.same u ∧ u.same a = u.same b := by
  constructor
  · rw [Bool.eq_iff_iff, same_iff_alike, same_iff_alike, h]
  · rw [Bool.eq_iff_iff, same_iff_alike, same_iff_alike, h]

end TableSource

/-! ## Parameters -/

namespace Parameter

theorem renderAround_of_texts {p q : Parameter} (texts : List String)
    (hname : p.name.map Expr.render = q.name.map Expr.render)
    (htype : p.dataType.map DataType.render = q.dataType.map DataType.render)
    (hdefault : p.defaultValue.map Expr.render = q.defaultValue.map Expr.render)
    (hcursor : p.cursor.map Expr.render = q.cursor.map Expr.render)
    (hdirection : p.direction = q.direction) (hnoCopy : p.noCopy = q.noCopy)
    (hconstant : p.constant = q.constant) : p.renderAround texts = q.renderAround texts := by
  obtain ⟨_, n, t, d, dir, nc, k, c, _⟩ := p
  obtain ⟨_, n', t', d', dir', nc', k', c', _⟩ := q
  dsimp only at hname htype hdefault hcursor hdirection hnoCopy hconstant
  subst hdirection hnoCopy hconstant
  unfold renderAround
  cases n <;> cases n' <;>
    simp only [Option.map_none, Option.map_some, Option.some.injEq, reduceCtorEq] at hname
  all_goals cases t <;> cases t' <;>
    simp only [Option.map_none, Option.map_some, Option.some.injEq, reduceCtorEq] at htype
  all_goals cases d <;> cases d' <;>
    simp only [Option.map_none, Option.map_some, Option.some.injEq, reduceCtorEq] at hdefault
  all_goals cases c <;> cases c' <;>
    simp only [Option.map_none, Option.map_some, Option.some.injEq, reduceCtorEq] at hcursor
  all_goals simp only [hname, htype, hdefault, hcursor]

theorem renders_of_same {ps qs : List Parameter}
    (h : List.Forall₂ (fun p q => p.same q = true) ps qs)
    (ih : ∀ p ∈ ps, ∀ q : Parameter, p.same q = true → p.render = q.render) :
    ps.map render = qs.map render := by
  induction h with
  | nil => rfl
  | cons hpq _ htail =>
    rw [List.map_cons, List.map_cons, ih _ List.mem_cons_self _ hpq,
      htail fun p hp => ih p (List.mem_cons_of_mem _ hp)]

theorem render_of_same (p q : Parameter) (h : p.same q = true) : p.render = q.render := by
  induction p using Parameter.nested generalizing q with
  | parameter p ih =>
    obtain ⟨i, n, t, d, dir, nc, k, c, ps⟩ := p
    simp only [same, Bool.and_eq_true, sameExpr?, sameType?_iff, sameAll_iff,
      decide_eq_true_eq] at h
    obtain ⟨⟨⟨⟨⟨⟨⟨hname, htype⟩, hdefault⟩, hdirection⟩, hnoCopy⟩, hconstant⟩, hcursor⟩, hps⟩ := h
    rw [render_eq, render_eq q, renders_of_same hps ih]
    exact renderAround_of_texts _ (render?_of_shape? hname)
      (slot_map_of_map (fun t _ => t.render_of_key) htype) (render?_of_shape? hdefault)
      (render?_of_shape? hcursor) hdirection hnoCopy hconstant

end Parameter

/-! ## Changes of presentation -/

/-- A change to what a node of any kind carries besides what it says. -/
inductive InfoChange
  | putAttribute (key : String) (value : AttributeValue)
  | removeAttribute (key : String)
  | setParent (p : Option NodeId)

def InfoChange.apply {α : Type} [HasInfo α] (a : α) : InfoChange → α
  | putAttribute key value => setAttributes ((attributes a).insert key value).1 a
  | removeAttribute key => setAttributes ((attributes a).erase key).1 a
  | setParent p => SqlTree.setParent p a

/-- A change to how a source is presented. -/
inductive SourceChange
  | info (c : InfoChange)
  | setAlias (a : Option String)
  | addHint (h : Hint)
  | setHints (hs : List Hint)
  | setFlashback (e : Option Expr)
  | setSchemaObject (name : Option String)

/-- Only a table has a catalog entry. -/
def SourceChange.apply : SourceChange → TableSource δ → TableSource δ
  | info c, s => c.apply s
  | setAlias a, s => setHeader ((header s).setAlias a).1 s
  | addHint h, s => setHeader ((header s).addHint h) s
  | setHints hs, s => setHeader ((header s).setHints hs).1 s
  | setFlashback e, s => setHeader ((header s).setFlashback e).1 s
  | setSchemaObject name, .table t => .table (t.setSchemaObject name)
  | setSchemaObject _, s => s

/-- The info of one expression changes, the expression itself or one that stands in it. -/
inductive Expr.Retouched : Expr → Expr → Prop
  | here (c : InfoChange) (e : Expr) : Retouched e (c.apply e)
  | owner {o o' : Expr} (i : NodeInfo) (name : String) :
    Retouched o o' → Retouched (.property i o name) (.property i o' name)
  | left {l l' : Expr} (i : NodeInfo) (op : BinaryOperator) (r : Expr) :
    Retouched l l' → Retouched (.binary i l op r) (.binary i l' op r)
  | right {r r' : Expr} (i : NodeInfo) (l : Expr) (op : BinaryOperator) :
    Retouched r r' → Retouched (.binary i l op r) (.binary i l op r')

/-- One source or one expression changes its presentation: the source itself, or what stands in it
at any depth. -/
inductive TableSource.Retouched : TableSource δ → TableSource δ → Prop
  | here (c : SourceChange) (s : TableSource δ) : Retouched s (c.apply s)
  | flashback {e e' : Expr} (s : TableSource δ) : (header s).flashback = some e → e.Retouched e' →
    Retouched s (setHeader { header s with flashback := some e' } s)
  | expr {e e' : Expr} (t : TableRef) : t.expr = some e → e.Retouched e' →
    Retouched (.table t) (.table { t with expr := some e' })
  | partition {e e' : Expr} {before after : List Expr} (t : TableRef) :
    t.partitions = before ++ e :: after → e.Retouched e' →
    Retouched (.table t) (.table { t with partitions := before ++ e' :: after })
  | left {s s' : TableSource δ} (j : JoinSource δ) : j.left = some s → Retouched s s' →
    Retouched (.join j) (.join { j with left := some s' })
  | right {s s' : TableSource δ} (j : JoinSource δ) : j.right = some s → Retouched s s' →
    Retouched (.join j) (.join { j with right := some s' })
  | condition {e e' : Expr} (j : JoinSource δ) : j.condition = some e → e.Retouched e' →
    Retouched (.join j) (.join { j with condition := some e' })
  | column {e e' : Expr} {before after : List Expr} (j : JoinSource δ) :
    j.columns = before ++ e :: after → e.Retouched e' →
    Retouched (.join j) (.join { j with columns := before ++ e' :: after })
  | part {e e' : Expr} {before after : List Expr} (h : SourceHeader) (kind : δ) :
    e.Retouched e' →
    Retouched (.dialect h kind (before ++ e :: after)) (.dialect h kind (before ++ e' :: after))

/-! ## What a change leaves -/

theorem Expr.shape_setInfo (i : NodeInfo) (e : Expr) : (setInfo i e).shape = e.shape := by
  cases e <;> rfl

theorem Expr.Retouched.shape_eq {e e' : Expr} (h : e.Retouched e') : e'.shape = e.shape := by
  induction h with
  | here c e => cases c <;> exact e.shape_setInfo _
  | owner i name _ ih => rw [shape, shape, ih]
  | left i op r _ ih => rw [shape, shape, ih]
  | right i l op _ ih => rw [shape, shape, ih]

namespace TableSource

theorem shape_change (c : SourceChange) (s : TableSource δ) : (c.apply s).shape = s.shape := by
  cases c with
  | info c => cases c <;> exact shape_setHeader _ s
  | setAlias _ | addHint _ | setHints _ | setFlashback _ => exact shape_setHeader _ s
  | setSchemaObject name => cases s <;> rfl

theorem Retouched.shape_eq {s s' : TableSource δ} (h : s.Retouched s') : s'.shape = s.shape := by
  induction h with
  | here c s => exact shape_change c s
  | flashback s _ _ => exact shape_setHeader _ s
  | expr t hexpr he => simp only [shape, hexpr, Option.map_some, he.shape_eq]
  | partition t hpartitions he =>
    simp only [shape, hpartitions, List.map_append, List.map_cons, he.shape_eq]
  | left j hleft _ ih => simp only [shape_join, hleft, Option.map_some, ih]
  | right j hright _ ih => simp only [shape_join, hright, Option.map_some, ih]
  | condition j hcondition he => simp only [shape_join, hcondition, Option.map_some, he.shape_eq]
  | column j hcolumns he =>
    simp only [shape_join, hcolumns, List.map_append, List.map_cons, he.shape_eq]
  | part h kind he => simp only [shape, List.map_append, List.map_cons, he.shape_eq]

theorem shape_of_retouched {s s' : TableSource δ} (h : Relation.ReflTransGen Retouched s s') :
    s'.shape = s.shape := by
  induction h with
  | refl => rfl
  | tail _ hstep ih => exact hstep.shape_eq.trans ih

end TableSource

/-- Equal sources, expressions, data types and parameters have the same text. However often the
presentation of a source is changed, at any depth, its text and its feed stay, and so does its
equality with any other source. -/
theorem presentation_unseen [SourceDialect δ] (hδ : ∀ {k l : δ}, SourceDialect.Same k l →
    SourceDialect.render k = SourceDialect.render l) :
    (∀ a b : TableSource δ, a.same b = true → a.render = b.render) ∧
      (∀ a b : Expr, a.same b = true → a.render = b.render) ∧
      (∀ a b : DataType, a.same b = true → a.render = b.render) ∧
      (∀ a b : Parameter, a.same b = true → a.render = b.render) ∧
      ∀ s s' : TableSource δ, Relation.ReflTransGen TableSource.Retouched s s' →
        s'.render = s.render ∧ s'.feed = s.feed ∧
          ∀ u, s'.same u = s.same u ∧ u.same s' = u.same s := by
  refine ⟨fun a b h => ?_, fun a b h => ?_, fun a b h => ?_, Parameter.render_of_same,
    fun s s' h => ?_⟩
  · exact TableSource.render_of_alike hδ a b ((a.same_iff_alike b).mp h)
  · exact a.render_of_shape b (of_decide_eq_true h)
  · exact a.render_of_key b (DataType.key_of_same h)
  · have hshape := TableSource.shape_of_retouched h
    obtain ⟨hfeed, hrender⟩ := TableSource.feed_render_of_shape s' s hshape
    exact ⟨hrender, hfeed, TableSource.same_of_shape hshape⟩

/-- A table on the left of a join gets an alias and its name an attribute. -/
theorem presentation_unseen_alias :
    let name (i : NodeInfo) : Expr := .identifier i "orders"
    let joined (h : SourceHeader) (i : NodeInfo) : TableSource SourceKind := .join {
      header := { info := { id := ⟨1⟩ } }
      left := some (.table { header := h, expr := some (name i) })
      right := some (.dialect { info := { id := ⟨4⟩ } } (.series 3) []) }
    let before := joined { info := { id := ⟨2⟩ } } { id := ⟨3⟩ }
    let named : SourceHeader := { info := { id := ⟨2⟩ }, alias? := some "o" }
    let after := joined named
      { id := ⟨3⟩, attributes := (Bag.empty.insert "seen" ⟨.foreign .u32, (1 : UInt32)⟩).1 }
    (∀ {k l : SourceKind}, SourceDialect.Same k l →
        SourceDialect.render k = SourceDialect.render l) ∧
      Relation.ReflTransGen TableSource.Retouched before after ∧
      after.render = before.render ∧ after.feed = before.feed ∧ after.same before = true := by
  intro name joined before named after
  have hδ {k l : SourceKind} (h : SourceDialect.Same k l) :
      SourceDialect.render k = SourceDialect.render l := by
    rw [SourceKind.same_iff.mp h]
  have hnamed : before.Retouched (joined named { id := ⟨3⟩ }) :=
    .left _ rfl (.here (.setAlias (some "o")) _)
  have hseen : (joined named { id := ⟨3⟩ }).Retouched after :=
    .left _ rfl (.expr _ rfl (.here (.putAttribute "seen" ⟨.foreign .u32, (1 : UInt32)⟩) _))
  have hrun := (Relation.ReflTransGen.single hnamed).tail hseen
  obtain ⟨-, -, -, -, hall⟩ := presentation_unseen hδ
  obtain ⟨hrender, hfeed, hsame⟩ := hall before after hrun
  refine ⟨hδ, hrun, hrender, hfeed, ?_⟩
  rw [(hsame before).1]
  exact (TableSource.same_equivalence SourceKind.same_equivalence).refl before

end SqlTree
