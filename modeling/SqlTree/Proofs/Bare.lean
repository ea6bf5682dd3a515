import SqlTree.Proofs.Hashing
import SqlTree.Render

/-! # Bare nodes: what a node says

The bare form of a node is the node with a blank info at every place and without catalog entries.
Names, texts, values, flags, aliases, hints and the order of all parts stay. Two nodes with the same
bare form are equal, feed the same words and have the same text. -/

namespace SqlTree

/-- The info that stands at every place of a bare node. -/
def blankInfo : NodeInfo := { id := ⟨0⟩ }

/-- The kinds of node that have a bare form. -/
class HasBare (α : Type) [HasInfo α] where
  bare : α → α
  bare_setInfo : ∀ i a, bare (setInfo i a) = bare a

export HasBare (bare)

@[simp] theorem bare_adopt {α : Type} [HasInfo α] [HasBare α] (owner : NodeId) (a : α) :
    bare (adopt owner a) = bare a :=
  HasBare.bare_setInfo _ a

@[simp] theorem bare_map_adopt {α : Type} [HasInfo α] [HasBare α] (owner : NodeId) (as : List α) :
    (as.map (adopt owner)).map bare = as.map bare := by
  simp

@[simp] theorem bare_option_adopt {α : Type} [HasInfo α] [HasBare α] (owner : NodeId)
    (slot : Option α) : (slot.map (adopt owner)).map bare = slot.map bare := by
  cases slot <;> simp

/-! ## The bare forms -/

protected def Expr.bare : Expr → Expr
  | identifier _ name => identifier blankInfo name
  | property _ owner name => property blankInfo owner.bare name
  | literal _ value => literal blankInfo value
  | binary _ left op right => binary blankInfo left.bare op right.bare

instance : HasBare Expr where
  bare := Expr.bare
  bare_setInfo i e := by cases e <;> rfl

instance : HasBare DataType where
  bare t := { info := blankInfo, name := t.name, arguments := t.arguments.map bare }
  bare_setInfo _ _ := rfl

instance : HasBare Hint where
  bare h := { info := blankInfo, text := h.text }
  bare_setInfo _ _ := rfl

instance : HasBare Select where
  bare s := { info := blankInfo, text := s.text }
  bare_setInfo _ _ := rfl

instance : HasBare SourceHeader where
  bare h := {
    info := blankInfo
    alias? := h.alias?
    hints := h.hints.map bare
    flashback := h.flashback.map bare }
  bare_setInfo _ _ := rfl

instance : HasBare TableRef where
  bare t := { header := bare t.header, expr := t.expr.map bare, partitions := t.partitions.map bare }
  bare_setInfo _ _ := rfl

/-- A bare join around bare sides. -/
def Join.bareAround {σ : Type} (j : Join σ) (left right : Option σ) : Join σ where
  header := bare j.header
  left := left
  kind := j.kind
  right := right
  condition := j.condition.map bare
  columns := j.columns.map bare
  natural := j.natural

namespace TableSource

variable {δ : Type}

mutual

protected def bare : TableSource δ → TableSource δ
  | table t => table (HasBare.bare t)
  | join ⟨h, l, k, r, c, us, n⟩ =>
    join (Join.bareAround ⟨h, l, k, r, c, us, n⟩ (bareSide l) (bareSide r))
  | dialect h kind parts => dialect (HasBare.bare h) kind (parts.map HasBare.bare)

def bareSide : Option (TableSource δ) → Option (TableSource δ)
  | none => none
  | some s => some s.bare

end

instance : HasBare (TableSource δ) where
  bare := TableSource.bare
  bare_setInfo i s := by cases s <;> rfl

theorem bareSide_eq (side : Option (TableSource δ)) : bareSide side = side.map bare := by
  cases side <;> rfl

end TableSource

instance {δ : Type} : HasBare (JoinSource δ) where
  bare j := j.bareAround (j.left.map bare) (j.right.map bare)
  bare_setInfo _ _ := rfl

theorem TableSource.bare_join {δ : Type} (j : JoinSource δ) : bare (join j) = join (bare j) := by
  obtain ⟨h, l, k, r, c, us, n⟩ := j
  simp only [HasBare.bare, TableSource.bare, bareSide_eq]

namespace Parameter

/-- A bare parameter around the bare parameters of its cursor. -/
def bareAround (p : Parameter) (parameters : List Parameter) : Parameter where
  info := blankInfo
  name := p.name.map bare
  dataType := p.dataType.map bare
  defaultValue := p.defaultValue.map bare
  direction := p.direction
  noCopy := p.noCopy
  constant := p.constant
  cursor := p.cursor.map bare
  parameters := parameters

mutual

protected def bare : Parameter → Parameter
  | ⟨i, n, t, d, dir, nc, k, c, ps⟩ => bareAround ⟨i, n, t, d, dir, nc, k, c, ps⟩ (bareEach ps)

def bareEach : List Parameter → List Parameter
  | [] => []
  | p :: ps => p.bare :: bareEach ps

end

instance : HasBare Parameter where
  bare := Parameter.bare
  bare_setInfo i p := by cases p; rfl

theorem bareEach_eq (ps : List Parameter) : bareEach ps = ps.map bare := by
  induction ps with
  | nil => rfl
  | cons p ps ih => rw [bareEach, ih]; rfl

theorem bare_eq (p : Parameter) : bare p = p.bareAround (p.parameters.map bare) := by
  obtain ⟨i, n, t, d, dir, nc, k, c, ps⟩ := p
  simp only [HasBare.bare, Parameter.bare, bareEach_eq]

end Parameter

/-! ## Expressions and data types -/

theorem Expr.shape_bare (e : Expr) : (bare e).shape = e.shape := by
  induction e with
  | identifier _ _ | literal _ _ => rfl
  | property _ owner name ih => exact congrArg (Shape.property · name) ih
  | binary _ left op right ihl ihr => exact congrArg₂ (Shape.binary · op ·) ihl ihr

theorem Expr.render_bare (e : Expr) : (bare e).render = e.render := by
  induction e with
  | identifier _ _ | literal _ _ => rfl
  | property _ owner name ih => exact congrArg (· ++ "." ++ name) ih
  | binary _ left op right ihl ihr =>
    exact congrArg₂ (fun l r => l ++ " " ++ op.symbol ++ " " ++ r) ihl ihr

@[simp] theorem shapes_bare (es : List Expr) : (es.map bare).map Expr.shape = es.map Expr.shape := by
  simp [Expr.shape_bare]

@[simp] theorem shape?_bare (e : Option Expr) : (e.map bare).map Expr.shape = e.map Expr.shape := by
  cases e <;> simp [Expr.shape_bare]

@[simp] theorem renders_bare (es : List Expr) :
    (es.map bare).map Expr.render = es.map Expr.render := by
  simp [Expr.render_bare]

@[simp] theorem renderExprs_bare (es : List Expr) : renderExprs (es.map bare) = renderExprs es := by
  rw [renderExprs, renders_bare, renderExprs]

@[simp] theorem feedList_bare (es : List Expr) :
    Feed.list Expr.feed (es.map bare) = Feed.list Expr.feed es :=
  ((Expr.feed_delimits.list _).feed_eq_iff _).mpr (shapes_bare es)

@[simp] theorem feedOption_bare (e : Option Expr) :
    Feed.option Expr.feed (e.map bare) = Feed.option Expr.feed e :=
  ((Expr.feed_delimits.option _).feed_eq_iff _).mpr (shape?_bare e)

theorem DataType.feed_bare (t : DataType) : (bare t).feed = t.feed := by
  have hkey : (bare t).key = t.key := congrArg (Prod.mk t.name) (shapes_bare t.arguments)
  exact ((feed_delimits _).feed_eq_iff _).mpr hkey

theorem DataType.render_bare (t : DataType) : (bare t).render = t.render := by
  change t.name ++ (if (t.arguments.map bare).isEmpty then "" else
    "(" ++ renderExprs (t.arguments.map bare) ++ ")") = _
  rw [renderExprs_bare, List.isEmpty_map, render]

/-! ## Sources -/

theorem TableRef.feed_bare (t : TableRef) : (bare t).feed = t.feed := by
  change Feed.option Expr.feed (t.expr.map bare) ++ Feed.list Expr.feed (t.partitions.map bare) = _
  rw [feedOption_bare, feedList_bare, feed]

theorem TableRef.render_bare (t : TableRef) : (bare t).render = t.render := by
  change ((t.expr.map bare).map Expr.render).getD "" = _
  rw [render]
  cases t.expr with
  | none => rfl
  | some e => simp [Expr.render_bare]

theorem Join.sameShallow_bareAround {σ : Type} (j : Join σ) {left right : Option σ}
    (hleft : left.isSome = j.left.isSome) (hright : right.isSome = j.right.isSome) :
    (j.bareAround left right).sameShallow j = true := by
  simp only [sameShallow, bareAround, sameExpr?, sameExprs, shape?_bare, shapes_bare, hleft, hright,
    decide_true, Bool.and_self]

theorem Join.renderAround_bareAround {σ : Type} (j : Join σ) (left right : Option σ)
    (l r : String) : (j.bareAround left right).renderAround l r = j.renderAround l r := by
  simp only [renderAround, bareAround, renderExprs_bare, List.isEmpty_map]
  cases j.condition <;> simp [Expr.render_bare]

namespace TableSource

variable {δ : Type}

theorem sides_bare (j : JoinSource δ) : (bare j).sides = j.sides.map bare := by
  change (j.left.map bare).toList ++ (j.right.map bare).toList = _
  rw [Join.sides, List.map_append]
  cases j.left <;> cases j.right <;> rfl

theorem map_bare_side {β : Type} {f : TableSource δ → β} {side : Option (TableSource δ)}
    (h : ∀ s ∈ side, f (bare s) = f s) : (side.map bare).map f = side.map f := by
  rw [Option.map_map]
  exact Option.map_congr h

theorem shape_join (j : JoinSource δ) :
    (join j).shape = .join (j.left.map shape) j.kind (j.right.map shape)
      (j.condition.map Expr.shape) (j.columns.map Expr.shape) j.natural := by
  obtain ⟨h, l, k, r, c, us, n⟩ := j
  cases l <;> cases r <;> rfl

theorem shape_setHeader (h : SourceHeader) (s : TableSource δ) :
    (setHeader h s).shape = s.shape := by
  cases s <;> rfl

theorem shape_bare (s : TableSource δ) : (bare s).shape = s.shape := by
  induction s using TableSource.nested with
  | table t =>
    change Shape.table ((t.expr.map bare).map Expr.shape) ((t.partitions.map bare).map Expr.shape) = _
    rw [shape?_bare, shapes_bare, shape]
  | join j ihl ihr =>
    rw [bare_join, shape_join, shape_join]
    change Shape.join ((j.left.map bare).map shape) j.kind ((j.right.map bare).map shape)
      ((j.condition.map bare).map Expr.shape) ((j.columns.map bare).map Expr.shape) j.natural = _
    rw [map_bare_side ihl, map_bare_side ihr, shape?_bare, shapes_bare]
  | dialect h kind parts =>
    change Shape.dialect kind ((parts.map bare).map Expr.shape) = _
    rw [shapes_bare, shape]

variable [SourceDialect δ]

theorem feed_bare (s : TableSource δ) : (bare s).feed = s.feed := by
  induction s using TableSource.nested with
  | table t =>
    change (table (bare t)).feed = _
    rw [feed_table, feed_table, TableRef.feed_bare]
  | join j ihl ihr =>
    have hshallow : (bare j).feedShallow = j.feedShallow := by
      refine (((bare j).feedShallow_delimits).feed_eq_iff j).mpr (j.sameShallow_bareAround ?_ ?_)
      · exact Option.isSome_map
      · exact Option.isSome_map
    have hsides : ∀ s ∈ j.sides, (bare s).feed = s.feed := by
      intro s hs
      rcases List.mem_append.mp hs with hs | hs
      · exact ihl s (Option.mem_toList.mp hs)
      · exact ihr s (Option.mem_toList.mp hs)
    rw [bare_join, feed_join, feed_join, hshallow, sides_bare, List.flatMap_map,
      List.flatMap_congr hsides]
  | dialect h kind parts =>
    change (dialect (bare h) kind (parts.map bare)).feed = _
    rw [feed_dialect, feed_dialect, feedList_bare]

theorem render_join (j : JoinSource δ) :
    (join j).render = j.renderAround ((j.left.map render).getD "") ((j.right.map render).getD "") := by
  obtain ⟨h, l, k, r, c, us, n⟩ := j
  cases l <;> cases r <;> rfl

theorem render_bare (s : TableSource δ) : (bare s).render = s.render := by
  induction s using TableSource.nested with
  | table t => exact t.render_bare
  | join j ihl ihr =>
    rw [bare_join, render_join, render_join]
    change (j.bareAround _ _).renderAround (((j.left.map bare).map render).getD "")
      (((j.right.map bare).map render).getD "") = _
    rw [map_bare_side ihl, map_bare_side ihr, Join.renderAround_bareAround]
  | dialect h kind parts =>
    change SourceDialect.render kind ((parts.map bare).map Expr.render) = _
    rw [renders_bare]
    rfl

end TableSource

/-! ## Parameters -/

namespace Parameter

theorem feed_bare (p : Parameter) : (bare p).feed = p.feed := by
  induction p using Parameter.nested with
  | parameter p ih =>
    obtain ⟨i, n, t, d, dir, nc, k, c, ps⟩ := p
    have htype : Feed.option DataType.feed (t.map bare) = Feed.option DataType.feed t := by
      cases t with
      | none => rfl
      | some t => exact congrArg (Word.count 1 :: ·) t.feed_bare
    rw [bare_eq]
    simp only [bareAround, feed, feedEach_eq, feedOption_bare, htype, List.length_map,
      List.flatMap_map]
    rw [List.flatMap_congr ih]

theorem renderAll_eq (ps : List Parameter) : renderAll ps = ps.map render := by
  induction ps with
  | nil => rfl
  | cons p ps ih => rw [renderAll, ih, List.map_cons]

theorem render_eq (p : Parameter) : p.render = p.renderAround (p.parameters.map render) := by
  obtain ⟨i, n, t, d, dir, nc, k, c, ps⟩ := p
  rw [render, renderAll_eq]

theorem renderAround_bareAround (p : Parameter) (ps : List Parameter) (texts : List String) :
    (p.bareAround ps).renderAround texts = p.renderAround texts := by
  obtain ⟨i, n, t, d, dir, nc, k, c, qs⟩ := p
  unfold renderAround bareAround
  dsimp only
  cases n <;> cases t <;> cases d <;> cases c <;>
    simp only [Option.map_none, Option.map_some, Expr.render_bare, DataType.render_bare]

theorem render_bare (p : Parameter) : (bare p).render = p.render := by
  induction p using Parameter.nested with
  | parameter p ih =>
    have htexts : (p.parameters.map bare).map render = p.parameters.map render := by
      rw [List.map_map]
      exact List.map_congr_left ih
    rw [render_eq, bare_eq, renderAround_bareAround, render_eq p]
    exact congrArg p.renderAround htexts

end Parameter

/-! ## Equality

Nodes with the same bare form are equal. -/

theorem Expr.same_of_bare {a b : Expr} (h : bare a = bare b) : a.same b = true := by
  rw [same, decide_eq_true_eq, ← a.shape_bare, h, b.shape_bare]

theorem DataType.same_of_bare {a b : DataType} (h : bare a = bare b) : a.same b = true := by
  have hname : (bare a).name = (bare b).name := congrArg DataType.name h
  have harguments : a.arguments.map bare = b.arguments.map bare := congrArg DataType.arguments h
  have hshapes := congrArg (List.map Expr.shape) harguments
  rw [shapes_bare, shapes_bare] at hshapes
  rw [same, sameExprs, Bool.and_eq_true, decide_eq_true_eq, decide_eq_true_eq]
  exact ⟨hname, hshapes⟩

theorem Hint.same_of_bare {a b : Hint} (h : bare a = bare b) : a.same b = true := by
  have htext : (bare a).text = (bare b).text := congrArg Hint.text h
  exact decide_eq_true htext

theorem Select.same_of_bare {a b : Select} (h : bare a = bare b) : a.same b = true := by
  have htext : (bare a).text = (bare b).text := congrArg Select.text h
  exact decide_eq_true htext

theorem TableRef.same_of_bare {a b : TableRef} (h : bare a = bare b) : a.same b = true := by
  have hfeed : a.feed ++ [] = b.feed ++ [] := by rw [← a.feed_bare, h, b.feed_bare]
  obtain ⟨⟨hexpr, hpartitions⟩, -⟩ := (a.feed_append_iff b [] []).mp hfeed
  rw [same, sameExpr?, sameExprs, Bool.and_eq_true, decide_eq_true_eq, decide_eq_true_eq]
  exact ⟨hexpr, hpartitions⟩

theorem TableSource.same_of_bare {δ : Type} [SourceDialect δ]
    (hδ : ∀ k : δ, SourceDialect.Same k k) {a b : TableSource δ} (h : bare a = bare b) :
    a.same b = true := by
  rw [same_iff_alike, ← a.shape_bare, h, b.shape_bare]
  exact Shape.Alike.refl hδ b.shape

theorem JoinSource.same_of_bare {δ : Type} [SourceDialect δ]
    (hδ : ∀ k : δ, SourceDialect.Same k k) {a b : JoinSource δ} (h : bare a = bare b) :
    JoinSource.same a b = true := by
  rw [TableSource.join_same]
  apply TableSource.same_of_bare hδ
  rw [TableSource.bare_join, TableSource.bare_join, h]

theorem Parameter.same_of_bare {a b : Parameter} (h : bare a = bare b) : a.same b = true := by
  rw [← a.feed_delimits.feed_eq_iff b, ← a.feed_bare, h, b.feed_bare]

/-! ## Any node -/

namespace Node

variable {δ ε : Type}

/-- The bare form of a node, for the kinds that can be copied. -/
protected def bare : Node δ ε → Node δ ε
  | expr e => expr (HasBare.bare e)
  | dataType t => dataType (HasBare.bare t)
  | hint h => hint (HasBare.bare h)
  | select s => select (HasBare.bare s)
  | table t => table (HasBare.bare t)
  | join j => join (HasBare.bare j)
  | source s => source (HasBare.bare s)
  | parameter p => parameter (HasBare.bare p)
  | n => n

theorem feed?_bare [SourceDialect δ] (n : Node δ ε) : n.bare.feed? = n.feed? := by
  cases n with
  | expr e => exact congrArg some (((Expr.feed_delimits _).feed_eq_iff e).mpr e.shape_bare)
  | dataType t => exact congrArg some t.feed_bare
  | hint _ | select _ | create _ | column _ | unique _ | index _ | check _ | element _ => rfl
  | table t => exact congrArg some t.feed_bare
  | join j =>
    have hfeed := (TableSource.join j).feed_bare
    rw [TableSource.bare_join, TableSource.feed_join, TableSource.feed_join] at hfeed
    exact congrArg some (List.cons.inj hfeed).2
  | source s => exact congrArg some s.feed_bare
  | parameter p => exact congrArg some p.feed_bare

theorem render_bare [SourceDialect δ] [ElementDialect ε] (n : Node δ ε) :
    n.bare.render = n.render := by
  cases n with
  | expr e => exact e.render_bare
  | dataType t => exact t.render_bare
  | hint _ | select _ | create _ | column _ | unique _ | index _ | check _ | element _ => rfl
  | table t => exact t.render_bare
  | join j =>
    have hrender := (TableSource.join j).render_bare
    rw [TableSource.bare_join] at hrender
    exact hrender
  | source s => exact s.render_bare
  | parameter p => exact p.render_bare

end Node

end SqlTree
