import SqlTree.Clone
import SqlTree.Proofs.Equivariance

/-! # Computations that draw in step

One supply follows another under a renaming if the identities that come next in the two correspond
one by one. Constructors, edits and copies of renamed nodes, run from a supply that follows, draw
in step with the originals and give the renamed results. -/

namespace SqlTree

variable {δ ε : Type} {ρ : NodeId → NodeId}

namespace Supply

/-- The supply with the next `m` identities taken. -/
def skip (s : Supply) (m : Nat) : Supply := { s with drawn := s.drawn + m }

/-- The next `m` identities of `t` are those of `s` under the renaming. -/
def Follows (ρ : NodeId → NodeId) (m : Nat) (s t : Supply) : Prop :=
  ∀ k < m, t.nth (t.drawn + k) = ρ (s.nth (s.drawn + k))

theorem skip_skip (s : Supply) (m n : Nat) : (s.skip m).skip n = s.skip (m + n) := by
  simp only [skip, Nat.add_assoc]

theorem Follows.first {m n : Nat} {s t : Supply} (h : Follows ρ (m + n) s t) : Follows ρ m s t :=
  fun k hk => h k (Nat.lt_add_right n hk)

theorem Follows.later {m n : Nat} {s t : Supply} (h : Follows ρ (m + n) s t) :
    Follows ρ n (s.skip m) (t.skip m) := by
  intro k hk
  have hnext := h (m + k) (Nat.add_lt_add_left hk m)
  rwa [← Nat.add_assoc, ← Nat.add_assoc] at hnext

end Supply

/-- Both computations draw the same number of identities, and from a supply that follows, `y` gives
the renamed result of `x`. -/
def Mirrors {α : Type} [HasRename α] (ρ : NodeId → NodeId) (x y : Fresh α) : Prop :=
  ∀ s, ∃ m, (x s).2 = s.skip m ∧
    ∀ t, s.Follows ρ m t → (y t).1 = rename ρ (x s).1 ∧ (y t).2 = t.skip m

namespace Mirrors

variable {α β : Type} [HasRename α] [HasRename β]

theorem pure {a b : α} (h : b = rename ρ a) : Mirrors ρ (Pure.pure a) (Pure.pure b) :=
  fun _ => ⟨0, rfl, fun _ _ => ⟨h, rfl⟩⟩

theorem bind {x y : Fresh α} {f g : α → Fresh β} (hx : Mirrors ρ x y)
    (hf : ∀ a, Mirrors ρ (f a) (g (rename ρ a))) : Mirrors ρ (x >>= f) (y >>= g) := by
  intro s
  obtain ⟨m, hdrawn, hm⟩ := hx s
  obtain ⟨n, hdrawn', hn⟩ := hf (x s).1 (x s).2
  rw [hdrawn] at hdrawn' hn
  refine ⟨m + n, ?_, fun t hfollows => ?_⟩
  · rw [← Supply.skip_skip, ← hdrawn', ← hdrawn]
    rfl
  · obtain ⟨hresult, hrest⟩ := hm t hfollows.first
    change (g (y t).1 (y t).2).1 = rename ρ (f (x s).1 (x s).2).1 ∧ (g (y t).1 (y t).2).2 = _
    rw [hresult, hrest, hdrawn, ← Supply.skip_skip]
    exact hn _ hfollows.later

theorem map {x y : Fresh α} {f g : α → β} (hx : Mirrors ρ x y)
    (hf : ∀ a, g (rename ρ a) = rename ρ (f a)) :
    Mirrors ρ (x >>= fun a => Pure.pure (f a)) (y >>= fun a => Pure.pure (g a)) :=
  hx.bind fun a => .pure (hf a)

theorem freshId : Mirrors ρ freshId freshId :=
  fun _ => ⟨1, rfl, fun _ hfollows => ⟨hfollows 0 Nat.one_pos, rfl⟩⟩

theorem newInfo : Mirrors ρ newInfo newInfo := freshId.map fun _ => rfl

theorem mapM {f : α → Fresh β} {as : List α} (h : ∀ a ∈ as, Mirrors ρ (f a) (f (rename ρ a))) :
    Mirrors ρ (as.mapM f) ((rename ρ as).mapM f) := by
  induction as with
  | nil => exact .pure rfl
  | cons a as ih =>
    rw [rename_list, List.map_cons, List.mapM_cons, List.mapM_cons]
    refine (h a List.mem_cons_self).bind fun b => ?_
    exact (ih fun a' ha => h a' (List.mem_cons_of_mem _ ha)).map fun _ => rfl

theorem foldlM {γ : Type} {f : α → γ → Fresh α}
    (h : ∀ a c, Mirrors ρ (f a c) (f (rename ρ a) c)) (cs : List γ) (a : α) :
    Mirrors ρ (cs.foldlM f a) (cs.foldlM f (rename ρ a)) := by
  induction cs generalizing a with
  | nil => exact .pure rfl
  | cons c cs ih =>
    rw [List.foldlM_cons, List.foldlM_cons]
    exact (h a c).bind ih

end Mirrors

/-! ## Constructors -/

namespace Expr

theorem newIdentifier_mirrors (name : String) :
    Mirrors ρ (newIdentifier name) (newIdentifier name) :=
  Mirrors.newInfo.map fun _ => rfl

theorem newLiteral_mirrors (value : Value) : Mirrors ρ (newLiteral value) (newLiteral value) :=
  Mirrors.newInfo.map fun _ => rfl

theorem newProperty_mirrors (owner : Expr) (name : String) :
    Mirrors ρ (newProperty owner name) (newProperty (rename ρ owner) name) := by
  refine Mirrors.newInfo.map fun i => ?_
  exact congrArg (property (rename ρ i) · name) (rename_adopt ρ i.id owner).symm

theorem newBinary_mirrors (left : Expr) (op : BinaryOperator) (right : Expr) :
    Mirrors ρ (newBinary left op right) (newBinary (rename ρ left) op (rename ρ right)) := by
  refine Mirrors.newInfo.map fun i => ?_
  exact congrArg₂ (binary (rename ρ i) · op ·) (rename_adopt ρ i.id left).symm
    (rename_adopt ρ i.id right).symm

theorem newPath?_mirrors (segments : List String) :
    Mirrors ρ (newPath? segments) (newPath? segments) := by
  cases segments with
  | nil => exact .pure rfl
  | cons first rest =>
    refine (newIdentifier_mirrors first).bind fun e => ?_
    exact (Mirrors.foldlM newProperty_mirrors rest e).map fun _ => rfl

end Expr

theorem DataType.new_mirrors (name : String) : Mirrors ρ (new name) (new name) :=
  Mirrors.newInfo.map fun _ => rfl

theorem Hint.new_mirrors (text : String) : Mirrors ρ (new text) (new text) :=
  Mirrors.newInfo.map fun _ => rfl

theorem Select.new_mirrors (text : String) : Mirrors ρ (new text) (new text) :=
  Mirrors.newInfo.map fun _ => rfl

theorem SourceHeader.new_mirrors : Mirrors ρ new new := Mirrors.newInfo.map fun _ => rfl

theorem TableRef.empty_mirrors : Mirrors ρ empty empty :=
  SourceHeader.new_mirrors.map fun _ => rfl

theorem TableRef.new_mirrors (e : Expr) : Mirrors ρ (new e) (new (rename ρ e)) :=
  empty_mirrors.map fun t => (congrArg Prod.fst (t.rename_setExpr ρ (some e))).symm

theorem Join.empty_mirrors {σ : Type} [HasRename σ] :
    Mirrors ρ (empty : Fresh (Join σ)) empty :=
  SourceHeader.new_mirrors.map fun _ => rfl

theorem Join.new_mirrors {σ : Type} [HasInfo σ] [HasFamily σ] [HasRename σ] [Renames σ]
    (left : σ) (kind : JoinKind) (right : σ) (condition : Option Expr) :
    Mirrors ρ (new left kind right condition)
      (new (rename ρ left) kind (rename ρ right) (rename ρ condition)) := by
  refine Join.empty_mirrors.map fun j => ?_
  rw [rename_fst (Join.rename_setCondition ρ _ condition),
    rename_fst (Join.rename_setRight ρ _ (some right)),
    rename_fst (Join.rename_setLeft ρ _ (some left))]
  rfl

theorem TableSource.newDialect_mirrors (kind : δ) (parts : List Expr) :
    Mirrors ρ (newDialect kind parts) (newDialect kind (rename ρ parts)) :=
  SourceHeader.new_mirrors.map fun _ => rfl

theorem Column.new_mirrors (name : Expr) : Mirrors ρ (new name) (new (rename ρ name)) := by
  refine Mirrors.newInfo.map fun i => ?_
  simp

theorem UniqueKey.new_mirrors (columns : List Expr) (primaryKey : Bool) :
    Mirrors ρ (new columns primaryKey) (new (rename ρ columns) primaryKey) :=
  Mirrors.newInfo.map fun i =>
    (foldl_rename ρ (UniqueKey.rename_addColumn ρ) columns { info := i, primaryKey }).symm

theorem TableIndex.new_mirrors (name : Expr) (columns : List Expr) :
    Mirrors ρ (new name columns) (new (rename ρ name) (rename ρ columns)) := by
  refine Mirrors.newInfo.map fun i => ?_
  simp [Function.comp_def]

theorem Check.new_mirrors (e : Expr) : Mirrors ρ (new e) (new (rename ρ e)) := by
  refine Mirrors.newInfo.map fun i => ?_
  simp

theorem TableElement.newDialect_mirrors (kind : ε) (parts inner : List Expr) :
    Mirrors ρ (newDialect kind parts inner)
      (newDialect kind (rename ρ parts) (rename ρ inner)) :=
  Mirrors.newInfo.map fun _ => rfl

theorem CreateTable.new_mirrors (dbType : Option String) :
    Mirrors ρ (new dbType : Fresh (CreateTable ε)) (new dbType) :=
  Mirrors.newInfo.map fun _ => rfl

theorem Parameter.empty_mirrors : Mirrors ρ empty empty := Mirrors.newInfo.map fun _ => rfl

/-! ## Edits -/

theorem CreateTable.setName_mirrors (c : CreateTable ε) (e : Expr) :
    Mirrors ρ (c.setName e) ((rename ρ c).setName (rename ρ e)) :=
  (TableRef.new_mirrors e).map fun t => (c.rename_setSource ρ (some t)).symm

theorem CreateTable.edit_mirrors (c : CreateTable ε) (e : Edit δ ε) :
    Mirrors ρ (c.edit e) ((rename ρ c).edit (rename ρ e)) := by
  cases e with
  | setName e =>
    cases e with
    | none => exact .pure rfl
    | some e =>
      exact (c.setName_mirrors e).map fun _ => Eq.symm (rename_editedSlot rfl fun _ => rfl)
  | setSource t =>
    exact .pure (rename_editedSlot (c.rename_setSource ρ t) fun _ => rfl).symm
  | addElement e => exact .pure (congrArg edited (c.rename_addElement ρ e)).symm
  | removeElement i =>
    exact .pure (rename_editedSlot (c.rename_removeElement ρ i) (·.rename_toNode)).symm
  | swapElements i j => exact .pure (congrArg edited (c.rename_swapElements ρ i j)).symm
  | setInherits t =>
    exact .pure (rename_editedSlot (c.rename_setInherits ρ t) fun _ => rfl).symm
  | setSelect s => exact .pure (rename_editedSlot (c.rename_setSelect ρ s) fun _ => rfl).symm
  | addComments cs => exact .pure (congrArg edited (c.rename_addBodyComments ρ cs)).symm
  | _ => exact .pure rfl

theorem Node.edit_mirrors (n : Node δ ε) (e : Edit δ ε) :
    Mirrors ρ (n.edit e) ((rename ρ n).edit (rename ρ e)) := by
  have hwrap {α : Type} [HasRename α] (wrap : α → Node δ ε)
      (h : ∀ a, rename ρ (wrap a) = wrap (rename ρ a)) {r r' : Edited δ ε α}
      (hr : rename ρ r = r') :
      r'.map (fun (a, back) => (wrap a, back)) =
        rename ρ (r.map fun (a, back) => (wrap a, back)) := by
    rw [← hr]
    cases r with
    | none => rfl
    | some r => exact congrArg (fun n => some (n, rename ρ r.2)) (h r.1).symm
  cases n with
  | create c => exact (c.edit_mirrors e).map fun _ => hwrap create (fun _ => rfl) rfl
  | source s =>
    have hsource : rename ρ (editHeader s e) = _ :=
      rename_editHeader ρ s e s.header_rename fun h => s.rename_setHeader h
    exact .pure (hwrap source (fun _ => rfl) hsource)
  | join j => exact .pure (hwrap join (fun _ => rfl) (JoinSource.rename_edit ρ j e))
  | dataType a => exact .pure (hwrap dataType (fun _ => rfl) (a.rename_edit ρ e))
  | table a => exact .pure (hwrap table (fun _ => rfl) (a.rename_edit ρ e))
  | column a => exact .pure (hwrap column (fun _ => rfl) (a.rename_edit ρ e))
  | unique a => exact .pure (hwrap unique (fun _ => rfl) (a.rename_edit ρ e))
  | index a => exact .pure (hwrap index (fun _ => rfl) (a.rename_edit ρ e))
  | check a => exact .pure (hwrap check (fun _ => rfl) (a.rename_edit ρ e))
  | parameter a => exact .pure (hwrap parameter (fun _ => rfl) (a.rename_edit ρ e))
  | _ => exact .pure rfl

/-! ## Copies -/

theorem Expr.clone_mirrors (e : Expr) : Mirrors ρ e.clone (rename ρ e).clone := by
  induction e with
  | identifier _ name => exact newIdentifier_mirrors name
  | literal _ value => exact newLiteral_mirrors value
  | property _ owner name ih => exact ih.bind fun c => newProperty_mirrors c name
  | binary _ left op right ihl ihr =>
    exact ihl.bind fun l => ihr.bind fun r => newBinary_mirrors l op r

theorem cloneSlot_mirrors {α : Type} [HasRename α] {clone : α → Fresh α}
    (h : ∀ a, Mirrors ρ (clone a) (clone (rename ρ a))) (slot : Option α) :
    Mirrors ρ (cloneSlot clone slot) (cloneSlot clone (rename ρ slot)) := by
  cases slot with
  | none => exact .pure rfl
  | some a => exact (h a).map fun _ => rfl

theorem cloneExprs_mirrors (es : List Expr) :
    Mirrors ρ (es.mapM Expr.clone) ((rename ρ es).mapM Expr.clone) :=
  .mapM fun e _ => e.clone_mirrors

theorem DataType.clone_mirrors (t : DataType) : Mirrors ρ t.clone (rename ρ t).clone := by
  refine (DataType.new_mirrors t.name).bind fun c => ?_
  exact (cloneExprs_mirrors t.arguments).map fun es =>
    (foldl_rename ρ (DataType.rename_addArgument ρ) es c).symm

theorem Hint.clone_mirrors (h : Hint) : Mirrors ρ h.clone (rename ρ h).clone :=
  Hint.new_mirrors h.text

theorem Select.clone_mirrors (s : Select) : Mirrors ρ s.clone (rename ρ s).clone :=
  Select.new_mirrors s.text

theorem SourceHeader.clone_mirrors (h : SourceHeader) :
    Mirrors ρ h.clone (rename ρ h).clone := by
  refine SourceHeader.new_mirrors.bind fun c => ?_
  refine (Mirrors.mapM fun x _ => Hint.clone_mirrors x).bind fun hints => ?_
  refine (cloneSlot_mirrors Expr.clone_mirrors h.flashback).map fun e => ?_
  rw [rename_fst (SourceHeader.rename_setFlashback ρ _ e),
    rename_fst (SourceHeader.rename_setHints ρ _ hints), rename_fst (c.rename_setAlias ρ h.alias?)]
  rfl

theorem TableRef.clone_mirrors (t : TableRef) : Mirrors ρ t.clone (rename ρ t).clone := by
  refine t.header.clone_mirrors.bind fun h => ?_
  refine (cloneSlot_mirrors Expr.clone_mirrors t.expr).bind fun e => ?_
  refine (cloneExprs_mirrors t.partitions).map fun es => ?_
  rw [foldl_rename ρ (TableRef.rename_addPartition ρ), rename_fst (TableRef.rename_setExpr ρ _ e)]
  rfl

theorem Parameter.cloneAround_mirrors (p : Parameter) {x y : Fresh (List Parameter)}
    (h : Mirrors ρ x y) : Mirrors ρ (p.cloneAround x) ((rename ρ p).cloneAround y) := by
  obtain ⟨i, n, t, d, dir, nc, k, c, ps⟩ := p
  refine Parameter.empty_mirrors.bind fun p => ?_
  refine (cloneSlot_mirrors Expr.clone_mirrors n).bind fun n' => ?_
  refine (cloneSlot_mirrors DataType.clone_mirrors t).bind fun t' => ?_
  refine (cloneSlot_mirrors Expr.clone_mirrors d).bind fun d' => ?_
  refine (cloneSlot_mirrors Expr.clone_mirrors c).bind fun c' => ?_
  refine h.map fun ps' => ?_
  rw [rename_fst (Parameter.rename_setParameters ρ _ ps'),
    rename_fst (Parameter.rename_setCursor ρ _ c'),
    rename_fst (Parameter.rename_setDefaultValue ρ _ d'),
    rename_fst (Parameter.rename_setDataType ρ _ t'), rename_fst (Parameter.rename_setName ρ _ n')]
  obtain ⟨i', n', t', d', dir', nc', k', c', ps'⟩ := p
  rfl

theorem Parameter.cloneEach_mirrors {ps : List Parameter}
    (h : ∀ p ∈ ps, Mirrors ρ p.clone (rename ρ p).clone) :
    Mirrors ρ (cloneEach ps) (cloneEach (rename ρ ps)) := by
  induction ps with
  | nil => exact .pure rfl
  | cons p ps ih =>
    rw [rename_list, List.map_cons, cloneEach, cloneEach]
    refine (h p List.mem_cons_self).bind fun c => ?_
    exact (ih fun q hq => h q (List.mem_cons_of_mem _ hq)).map fun _ => rfl

theorem Parameter.clone_mirrors (p : Parameter) : Mirrors ρ p.clone (rename ρ p).clone := by
  induction p using Parameter.nested with
  | parameter p ih =>
    obtain ⟨i, n, t, d, dir, nc, k, c, ps⟩ := p
    have haround := cloneAround_mirrors ⟨i, n, t, d, dir, nc, k, c, ps⟩ (cloneEach_mirrors ih)
    rw [rename_mk] at haround ⊢
    rw [clone, clone]
    exact haround

/-! ## Copies that can fail -/

instance {α : Type} [HasRename α] : HasRename (Except TreeError α) where
  rename ρ r := r.map (rename ρ)
  rename_rename ρ σ r := by cases r <;> simp [Except.map]

namespace Mirrors

variable {α β : Type} [HasRename α] [HasRename β]

theorem ok {a b : α} (h : b = rename ρ a) :
    Mirrors ρ (Pure.pure a : Cloning α).run (Pure.pure b : Cloning α).run :=
  .pure (congrArg Except.ok h)

theorem fail (e : TreeError) :
    Mirrors ρ (throw e : Cloning α).run (throw e : Cloning α).run :=
  .pure rfl

theorem lift {x y : Fresh α} (h : Mirrors ρ x y) :
    Mirrors ρ (liftM x : Cloning α).run (liftM y : Cloning α).run :=
  h.map fun _ => rfl

theorem next {x y : Cloning α} {f g : α → Cloning β} (hx : Mirrors ρ x.run y.run)
    (hf : ∀ a, Mirrors ρ (f a).run (g (rename ρ a)).run) :
    Mirrors ρ (x >>= f).run (y >>= g).run := by
  have hcont (r : Except TreeError α) :
      Mirrors ρ (ExceptT.bindCont f r) (ExceptT.bindCont g (rename ρ r)) := by
    cases r with
    | ok a => exact hf a
    | error e => exact .pure rfl
  exact hx.bind hcont

end Mirrors

theorem Join.cloneAround_mirrors {σ : Type} [HasInfo σ] [HasFamily σ] [HasRename σ] [Renames σ]
    (j : Join σ) {left left' right right' : Cloning (Option σ)}
    (hleft : Mirrors ρ left.run left'.run) (hright : Mirrors ρ right.run right'.run) :
    Mirrors ρ (j.cloneAround left right).run ((rename ρ j).cloneAround left' right').run := by
  refine Mirrors.next j.header.clone_mirrors.lift fun h => ?_
  refine Mirrors.next (cloneExprs_mirrors j.columns).lift fun es => ?_
  refine hleft.next fun l => hright.next fun r => ?_
  refine Mirrors.next (cloneSlot_mirrors Expr.clone_mirrors j.condition).lift fun e => .ok ?_
  rw [foldl_rename ρ (Join.rename_addColumn ρ), rename_fst (Join.rename_setCondition ρ _ e),
    rename_fst (Join.rename_setRight ρ _ r), rename_fst (Join.rename_setLeft ρ _ l)]
  rfl

namespace TableSource

variable [SourceDialect δ]

theorem cloneDialect_mirrors (h : SourceHeader) (kind : δ) (parts : List Expr) :
    Mirrors ρ (cloneDialect h kind parts).run
      (cloneDialect (rename ρ h) kind (rename ρ parts)).run := by
  unfold cloneDialect
  split
  · refine Mirrors.next h.clone_mirrors.lift fun h => ?_
    refine Mirrors.next (cloneExprs_mirrors parts).lift fun es => ?_
    exact .ok rfl
  · exact .fail _

theorem cloneSide_mirrors {side : Option (TableSource δ)}
    (h : ∀ s ∈ side, ∀ d, Mirrors ρ (s.cloneAt d).run ((rename ρ s).cloneAt d).run) (d : Depth) :
    Mirrors ρ (cloneSide d side).run (cloneSide d (rename ρ side)).run := by
  cases side with
  | none =>
    rw [rename_slot, Option.map_none, cloneSide]
    exact .ok rfl
  | some s =>
    rw [rename_slot, Option.map_some, cloneSide, cloneSide]
    cases d.descend with
    | error e => exact .fail e
    | ok below => exact (h s rfl below).next fun c => .ok rfl

theorem cloneAt_mirrors (s : TableSource δ) (d : Depth) :
    Mirrors ρ (s.cloneAt d).run ((rename ρ s).cloneAt d).run := by
  induction s using TableSource.nested generalizing d with
  | table t =>
    change Mirrors ρ _ (cloneAt d (table (rename ρ t))).run
    rw [cloneAt, cloneAt]
    exact t.clone_mirrors.lift.next fun c => .ok rfl
  | join j ihl ihr =>
    obtain ⟨h, l, k, r, e, us, n⟩ := j
    have haround := Join.cloneAround_mirrors (⟨h, l, k, r, e, us, n⟩ : JoinSource δ)
      (cloneSide_mirrors ihl d) (cloneSide_mirrors ihr d)
    rw [rename_join, Join.rename_mk, cloneAt, cloneAt, map_eq_pure_bind, map_eq_pure_bind]
    rw [Join.rename_mk] at haround
    exact haround.next fun c => .ok (rename_join ρ c).symm
  | dialect h kind parts =>
    change Mirrors ρ _ (cloneAt d (dialect (rename ρ h) kind (rename ρ parts))).run
    rw [cloneAt, cloneAt]
    exact cloneDialect_mirrors h kind parts

end TableSource

theorem JoinSource.tryClone_mirrors [SourceDialect δ] (j : JoinSource δ) (limit : Nat) :
    Mirrors ρ (JoinSource.tryClone j limit).run (JoinSource.tryClone (rename ρ j) limit).run := by
  have hside (side : Option (TableSource δ)) :=
    TableSource.cloneSide_mirrors (ρ := ρ) (fun s (_ : s ∈ side) => s.cloneAt_mirrors) (.root limit)
  exact j.cloneAround_mirrors (hside j.left) (hside j.right)

/-- A copy of a renamed node, if the node can be copied at all. -/
theorem Node.tryClone?_mirrors [SourceDialect δ] (n : Node δ ε) (limit : Nat) :
    (n.tryClone? limit = none ∧ (rename ρ n).tryClone? limit = none) ∨
      ∃ x y, n.tryClone? limit = some x ∧ (rename ρ n).tryClone? limit = some y ∧
        Mirrors ρ x.run y.run := by
  cases n with
  | expr e => exact .inr ⟨_, _, rfl, rfl, e.clone_mirrors.lift.next fun _ => .ok rfl⟩
  | dataType t => exact .inr ⟨_, _, rfl, rfl, t.clone_mirrors.lift.next fun _ => .ok rfl⟩
  | hint h => exact .inr ⟨_, _, rfl, rfl, h.clone_mirrors.lift.next fun _ => .ok rfl⟩
  | select s => exact .inr ⟨_, _, rfl, rfl, s.clone_mirrors.lift.next fun _ => .ok rfl⟩
  | table t => exact .inr ⟨_, _, rfl, rfl, t.clone_mirrors.lift.next fun _ => .ok rfl⟩
  | join j =>
    exact .inr ⟨_, _, rfl, rfl, (JoinSource.tryClone_mirrors j limit).next fun _ => .ok rfl⟩
  | source s => exact .inr ⟨_, _, rfl, rfl, (s.cloneAt_mirrors _).next fun _ => .ok rfl⟩
  | parameter p => exact .inr ⟨_, _, rfl, rfl, p.clone_mirrors.lift.next fun _ => .ok rfl⟩
  | create _ | column _ | unique _ | index _ | check _ | element _ => exact .inl ⟨rfl, rfl⟩

end SqlTree
