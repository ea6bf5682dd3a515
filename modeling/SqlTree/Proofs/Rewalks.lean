import Mathlib.Logic.Function.Basic
import SqlTree.Proofs.Ceiling
import SqlTree.Proofs.Renaming
import SqlTree.Walk.ParentIndex

/-! # Walks of renamed trees

Two visitors that go on at the same nodes and keep their states in step walk a tree and its renamed
copy alike. The events of the second walk are the renamed events of the first, and a parent index
filled by it answers with the renamed owners. -/

namespace SqlTree

variable {δ ε : Type}

/-! ## Renamed outlines -/

instance : HasRename (Subject δ ε) where
  rename ρ
    | .expr a => .expr (rename ρ a)
    | .dataType a => .dataType (rename ρ a)
    | .hint a => .hint (rename ρ a)
    | .select a => .select (rename ρ a)
    | .table a => .table (rename ρ a)
    | .join a => .join (rename ρ a)
    | .dialect h kind parts => .dialect (rename ρ h) kind (rename ρ parts)
    | .create a => .create (rename ρ a)
    | .column a => .column (rename ρ a)
    | .unique a => .unique (rename ρ a)
    | .index a => .index (rename ρ a)
    | .check a => .check (rename ρ a)
    | .dialectElement i kind parts inner =>
      .dialectElement (rename ρ i) kind (rename ρ parts) (rename ρ inner)
    | .parameter a => .parameter (rename ρ a)
  rename_rename ρ σ a := by cases a <;> simp

instance {α : Type} [HasRename α] : HasRename (Event α) where
  rename ρ
    | .enter i => .enter (rename ρ i)
    | .visit a => .visit (rename ρ a)
    | .finish a => .finish (rename ρ a)
    | .leave i => .leave (rename ρ i)
  rename_rename ρ σ e := by cases e <;> simp

namespace Outline

variable {α : Type} [HasRename α]

mutual

protected def rename (ρ : NodeId → NodeId) : Outline α → Outline α
  | node i a cs => node (HasRename.rename ρ i) (HasRename.rename ρ a) (renameEach ρ cs)

def renameEach (ρ : NodeId → NodeId) : List (Outline α) → List (Outline α)
  | [] => []
  | c :: cs => c.rename ρ :: renameEach ρ cs

end

theorem renameEach_eq (ρ : NodeId → NodeId) (cs : List (Outline α)) :
    renameEach ρ cs = cs.map (Outline.rename ρ) := by
  induction cs with
  | nil => rfl
  | cons c cs ih => rw [renameEach, ih, List.map_cons]

end Outline

namespace Node

variable (ρ : NodeId → NodeId)

theorem subject_rename (n : Node δ ε) : (rename ρ n).subject = rename ρ n.subject := by
  cases n with
  | source s =>
    cases s with
    | join j =>
      change subject (source (rename ρ (.join j))) = _
      rw [TableSource.rename_join]
      rfl
    | table _ | dialect _ _ _ => rfl
  | element e => cases e <;> rfl
  | _ => rfl

section

variable {α : Type} [HasRename α] (wrap : α → Node δ ε)
  (h : ∀ a, rename ρ (wrap a) = wrap (rename ρ a))

include h

theorem ofSlot_rename (slot : Option α) :
    ofSlot wrap (slot.map (rename ρ)) = (ofSlot wrap slot).map (rename ρ) := by
  cases slot with
  | none => rfl
  | some a => exact congrArg (· :: []) (h a).symm

theorem wrap_rename (as : List α) :
    (as.map (rename ρ)).map wrap = (as.map wrap).map (rename ρ) := by
  simp [h]

end

section

variable {ρ}

theorem exprSlot_rename (e : Option Expr) :
    ofSlot expr (e.map (rename ρ)) = (ofSlot (expr (δ := δ) (ε := ε)) e).map (rename ρ) :=
  ofSlot_rename ρ expr (fun _ => rfl) e

theorem exprs_rename (es : List Expr) :
    (es.map (rename ρ)).map expr = (es.map (expr (δ := δ) (ε := ε))).map (rename ρ) :=
  wrap_rename ρ expr (fun _ => rfl) es

theorem typeSlot_rename (t : Option DataType) :
    ofSlot dataType (t.map (rename ρ)) = (ofSlot (dataType (δ := δ) (ε := ε)) t).map (rename ρ) :=
  ofSlot_rename ρ dataType (fun _ => rfl) t

theorem walked_rename_table (t : TableRef) :
    walked (table (δ := δ) (ε := ε) (rename ρ t)) = (table t).walked.map (rename ρ) := by
  simp only [walked, List.map_append, ← exprSlot_rename, ← exprs_rename]
  rfl

theorem walked_rename_join (j : JoinSource δ) :
    walked (join (ε := ε) (rename ρ j)) = (join j).walked.map (rename ρ) := by
  have hside := ofSlot_rename ρ (source (δ := δ) (ε := ε)) fun _ => rfl
  simp only [walked, List.map_append, ← exprSlot_rename, ← exprs_rename, ← hside]
  rfl

theorem walked_rename_column (c : Column) :
    walked (column (δ := δ) (ε := ε) (rename ρ c)) = (column c).walked.map (rename ρ) := by
  simp only [walked, List.map_cons, List.map_append, ← typeSlot_rename, ← exprSlot_rename]
  rfl

theorem walked_rename_unique (k : UniqueKey) :
    walked (unique (δ := δ) (ε := ε) (rename ρ k)) = (unique k).walked.map (rename ρ) := by
  simp only [walked, List.map_append, ← exprSlot_rename, ← exprs_rename]
  rfl

theorem walked_rename_index (x : TableIndex) :
    walked (index (δ := δ) (ε := ε) (rename ρ x)) = (index x).walked.map (rename ρ) := by
  simp only [walked, List.map_cons, ← exprs_rename]
  rfl

theorem walked_rename_check (c : Check) :
    walked (check (δ := δ) (ε := ε) (rename ρ c)) = (check c).walked.map (rename ρ) := by
  simp only [walked, List.map_append, ← exprSlot_rename]
  rfl

end

theorem walked_rename (n : Node δ ε) : (rename ρ n).walked = n.walked.map (rename ρ) := by
  cases n with
  | expr e => cases e <;> rfl
  | dataType t => exact exprs_rename t.arguments
  | hint _ | select _ => rfl
  | table t => exact walked_rename_table t
  | join j => exact walked_rename_join j
  | source s =>
    cases s with
    | table t => exact walked_rename_table t
    | join j =>
      change walked (source (rename ρ (.join j))) = _
      rw [TableSource.rename_join]
      exact walked_rename_join j
    | dialect _ _ parts => exact exprs_rename parts
  | create c =>
    have htable := ofSlot_rename ρ (table (δ := δ) (ε := ε)) fun _ => rfl
    have hselect := ofSlot_rename ρ (select (δ := δ) (ε := ε)) fun _ => rfl
    have helements := wrap_rename ρ (element (δ := δ) (ε := ε)) fun _ => rfl
    simp only [walked, List.map_append, ← htable, ← hselect, ← helements]
    rfl
  | column c => exact walked_rename_column c
  | unique k => exact walked_rename_unique k
  | index x => exact walked_rename_index x
  | check c => exact walked_rename_check c
  | element e =>
    cases e with
    | column c => exact walked_rename_column c
    | unique k => exact walked_rename_unique k
    | index x => exact walked_rename_index x
    | check c => exact walked_rename_check c
    | dialect _ _ parts _ => exact exprs_rename parts
  | parameter p =>
    obtain ⟨i, n, t, d, dir, nc, k, c, ps⟩ := p
    have hparameters := wrap_rename ρ (parameter (δ := δ) (ε := ε)) fun _ => rfl
    change walked (parameter (rename ρ ⟨i, n, t, d, dir, nc, k, c, ps⟩)) = _
    rw [Parameter.rename_mk]
    simp only [walked, List.map_append, ← exprSlot_rename, ← typeSlot_rename, ← hparameters]

theorem outline_rename (n : Node δ ε) : (rename ρ n).outline = n.outline.rename ρ := by
  induction n using Node.walked_induction with
  | node n ih =>
    rw [outline_eq, outline_eq n, Outline.rename, Outline.renameEach_eq, Renames.info_rename,
      subject_rename, walked_rename, List.map_map, List.map_map]
    exact congrArg _ (List.map_congr_left ih)

end Node

/-! ## Visitors in step -/

/-- The visitors go on at the same nodes, and what they do at a node and at its renamed copy keeps
their states related. -/
structure Visitor.InStep {α σ τ : Type} [HasRename α] (ρ : NodeId → NodeId) (R : σ → τ → Prop)
    (v : Visitor α σ) (w : Visitor α τ) : Prop where
  enter : ∀ i {s t}, R s t → R (v.enter i s) (w.enter (rename ρ i) t)
  visit : ∀ a {s t}, R s t → (w.visit (rename ρ a) t).1 = (v.visit a s).1 ∧
    R (v.visit a s).2 (w.visit (rename ρ a) t).2
  finish : ∀ a {s t}, R s t → R (v.finish a s) (w.finish (rename ρ a) t)
  leave : ∀ i {s t}, R s t → R (v.leave i s) (w.leave (rename ρ i) t)

namespace Outline

variable {α σ τ : Type} [HasRename α] {ρ : NodeId → NodeId} {R : σ → τ → Prop} {v : Visitor α σ}
  {w : Visitor α τ}

mutual

theorem walk_inStep (h : v.InStep ρ R w) : (c : Outline α) → (d : Depth) → {s : σ} → {t : τ} →
    R s t → ((c.rename ρ).walk w d t).1 = (c.walk v d s).1 ∧
      R (c.walk v d s).2 ((c.rename ρ).walk w d t).2
  | node i a cs, d, s, t, hR => by
    obtain ⟨hgo, hvisit⟩ := h.visit a (h.enter i hR)
    rw [Outline.rename]
    cases hv : (v.visit a (v.enter i s)).1 with
    | true =>
      obtain ⟨houtcome, hstate⟩ := walkChildren_inStep h cs d hvisit
      rw [walk_goOn hv, walk_goOn (hgo.trans hv)]
      exact ⟨houtcome, h.leave i (h.finish a hstate)⟩
    | false =>
      rw [walk_skip hv, walk_skip (hgo.trans hv)]
      exact ⟨rfl, h.leave i (h.finish a hvisit)⟩

theorem walkChildren_inStep (h : v.InStep ρ R w) : (cs : List (Outline α)) → (d : Depth) →
    {s : σ} → {t : τ} → R s t →
    (walkChildren w d (renameEach ρ cs) t).1 = (walkChildren v d cs s).1 ∧
      R (walkChildren v d cs s).2 (walkChildren w d (renameEach ρ cs) t).2
  | [], d, s, t, hR => by
    rw [renameEach, walkChildren, walkChildren]
    exact ⟨rfl, hR⟩
  | c :: cs, d, s, t, hR => by
    rw [renameEach]
    rcases Nat.lt_or_ge d.current d.limit with hbelow | hceiling
    · obtain ⟨houtcome, hstate⟩ := walk_inStep h c ⟨d.current + 1, d.limit⟩ hR
      cases hc : (c.walk v ⟨d.current + 1, d.limit⟩ s).1 with
      | ok _ =>
        rw [walkChildren_ok hbelow hc, walkChildren_ok hbelow (houtcome.trans hc)]
        exact walkChildren_inStep h cs d hstate
      | error e =>
        rw [walkChildren_error hbelow hc, walkChildren_error hbelow (houtcome.trans hc)]
        exact ⟨rfl, hstate⟩
    · rw [walkChildren_ceiling hceiling, walkChildren_ceiling hceiling]
      exact ⟨rfl, hR⟩

end

end Outline

theorem Visitor.InStep.recorded {α σ τ : Type} [HasRename α] {ρ : NodeId → NodeId}
    {R : σ → τ → Prop} {v : Visitor α σ} {w : Visitor α τ} (h : v.InStep ρ R w) :
    v.recorded.InStep ρ (fun s t => R s.1 t.1 ∧ t.2 = rename ρ s.2) w.recorded where
  enter i := by
    rintro s t ⟨hR, ht⟩
    refine ⟨h.enter i hR, ?_⟩
    simp [Visitor.recorded, ht]
    rfl
  visit a := by
    rintro s t ⟨hR, ht⟩
    obtain ⟨hgo, hvisit⟩ := h.visit a hR
    refine ⟨hgo, hvisit, ?_⟩
    simp [Visitor.recorded, ht]
    rfl
  finish a := by
    rintro s t ⟨hR, ht⟩
    refine ⟨h.finish a hR, ?_⟩
    simp [Visitor.recorded, ht]
    rfl
  leave i := by
    rintro s t ⟨hR, ht⟩
    refine ⟨h.leave i hR, ?_⟩
    simp [Visitor.recorded, ht]
    rfl

/-! ## The parent index -/

namespace ParentIndex

/-- The second index has the renamed links and open nodes of the first. -/
structure Renamed (ρ : NodeId → NodeId) (x y : ParentIndex) : Prop where
  stack : y.stack = rename ρ x.stack
  parents : ∀ n, y.parents[ρ n]? = rename ρ x.parents[n]?
  size : y.parents.size = x.parents.size

variable {ρ : NodeId → NodeId}

theorem renamed_empty : Renamed ρ empty empty where
  stack := rfl
  parents n := by simp [empty]
  size := rfl

theorem Renamed.insert (hρ : Function.Injective ρ) {x y : ParentIndex} (h : Renamed ρ x y)
    (n owner : NodeId) (stack : List NodeId) :
    Renamed ρ ⟨x.parents.insert n owner, stack⟩
      ⟨y.parents.insert (ρ n) (ρ owner), rename ρ stack⟩ where
  stack := rfl
  parents m := by
    simp only [Std.HashMap.getElem?_insert, beq_iff_eq, hρ.eq_iff]
    split
    · rfl
    · exact h.parents m
  size := by
    have hmem : ρ n ∈ y.parents ↔ n ∈ x.parents := by
      rw [Std.HashMap.mem_iff_isSome_getElem?, Std.HashMap.mem_iff_isSome_getElem?, h.parents,
        rename_slot, Option.isSome_map]
    rw [Std.HashMap.size_insert, Std.HashMap.size_insert, h.size]
    exact if_congr hmem rfl rfl

theorem Renamed.enter (hρ : Function.Injective ρ) {x y : ParentIndex} (h : Renamed ρ x y)
    (i : NodeInfo) : Renamed ρ (x.enter i) (y.enter (rename ρ i)) := by
  obtain ⟨parents, stack⟩ := x
  obtain ⟨parents', stack'⟩ := y
  obtain ⟨rfl, hparents, hsize⟩ := h
  cases stack with
  | nil => exact ⟨rfl, hparents, hsize⟩
  | cons owner rest => exact Renamed.insert hρ ⟨rfl, hparents, hsize⟩ i.id owner _

theorem visitor_inStep (hρ : Function.Injective ρ) (α : Type) [HasRename α] :
    (visitor α).InStep ρ (Renamed ρ) (visitor α) where
  enter i _ _ h := h.enter hρ i
  visit _ _ _ h := ⟨rfl, h⟩
  finish _ _ _ h := h
  leave i x y h := by
    refine ⟨?_, h.parents, h.size⟩
    change y.stack.tail = x.stack.tail.map ρ
    rw [h.stack]
    exact List.map_tail.symm

/-- Both walks succeed or fail together, and indexes that were built have renamed links. -/
theorem build_renamed (hρ : Function.Injective ρ) {α : Type} [HasRename α] (c : Outline α) :
    (∃ x y, build c = .ok x ∧ build (c.rename ρ) = .ok y ∧ Renamed ρ x y) ∨
      ∃ e, build c = .error e ∧ build (c.rename ρ) = .error e := by
  have hwalk := Outline.walk_inStep (visitor_inStep hρ α) c (.root Depth.defaultLimit) renamed_empty
  rw [build, build, Outline.walkFrom, Outline.walkFrom]
  generalize c.walk (visitor α) (.root Depth.defaultLimit) empty = r at hwalk ⊢
  generalize (c.rename ρ).walk (visitor α) (.root Depth.defaultLimit) empty = r' at hwalk ⊢
  obtain ⟨_, x⟩ := r
  obtain ⟨o, y⟩ := r'
  obtain ⟨rfl, hstate⟩ := hwalk
  cases o with
  | ok _ => exact .inl ⟨x, y, rfl, rfl, hstate⟩
  | error e => exact .inr ⟨e, rfl, rfl⟩

theorem Renamed.parentOf? {x y : ParentIndex} (h : Renamed ρ x y) (n : NodeId) :
    y.parentOf? (ρ n) = rename ρ (x.parentOf? n) :=
  h.parents n

theorem Renamed.ancestorsUpTo {x y : ParentIndex} (h : Renamed ρ x y) (k : Nat) (n : NodeId) :
    y.ancestorsUpTo k (ρ n) = rename ρ (x.ancestorsUpTo k n) := by
  induction k generalizing n with
  | zero => rfl
  | succ k ih =>
    rw [ParentIndex.ancestorsUpTo, ParentIndex.ancestorsUpTo, h.parentOf?]
    cases x.parentOf? n with
    | none => rfl
    | some p => exact congrArg (ρ p :: ·) (ih p)

theorem Renamed.isEmpty {x y : ParentIndex} (h : Renamed ρ x y) : y.isEmpty = x.isEmpty := by
  rw [ParentIndex.isEmpty, ParentIndex.isEmpty, Std.HashMap.isEmpty_eq_size_eq_zero,
    Std.HashMap.isEmpty_eq_size_eq_zero, h.size]

end ParentIndex

end SqlTree
