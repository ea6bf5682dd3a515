import SqlTree.Proofs.Nested
import SqlTree.Proofs.Setters

/-! # New nodes and copies

A constructor draws one identity and takes in the nodes that it is given. A copy draws all its
identities. -/

namespace SqlTree

open Family

variable {T : Attributes → Prop}

/-! ## Constructors -/

/-- The last step of a constructor: what it displaces is dropped. -/
theorem Makes.ofExchange {α : Type} [HasInfo α] [HasFamily α] {a : α} {before : Family}
    {given back : List Family} (he : Exchange T before given (family a) back) :
    Makes T (Pure.pure a) (before :: given) fun a => [family a] := by
  intro r s rest h
  have hperm : (back ++ family a :: rest).Perm (family a :: (back ++ rest)) := List.perm_middle
  exact ((h.exchange he).perm hperm).drop

section

variable (hT : T .empty)

include hT

theorem Grown.newWith {s s' : Supply} {given fs : List Family} {after : Family}
    (h : Grown T s s' (given ++ fs))
    (he : Exchange T (.node (newInfo s').1 [] []) given after []) :
    Grown T s s'.draw.2 (after :: fs) :=
  (h.new hT).exchange he

theorem Expr.newIdentifier_makes (name : String) :
    Makes T (newIdentifier name) [] fun e => [family e] :=
  fun _ _ _ h => h.new hT

theorem Expr.newLiteral_makes (value : Value) :
    Makes T (newLiteral value) [] fun e => [family e] :=
  fun _ _ _ h => h.new hT

theorem Expr.newProperty_makes (owner : Expr) (name : String) :
    Makes T (newProperty owner name) [family owner] fun e => [family e] :=
  fun _ s _ h => h.newWith hT ((renew_turnover (newInfo s).1.id [] [owner]).exchange [] [] [])

theorem Expr.newBinary_makes (left : Expr) (op : BinaryOperator) (right : Expr) :
    Makes T (newBinary left op right) [family left, family right] fun e => [family e] :=
  fun _ s _ h =>
    h.newWith hT ((renew_turnover (newInfo s).1.id [] [left, right]).exchange [] [] [])

theorem Expr.newPath?_makes (segments : List String) :
    Makes T (newPath? segments) [] slotFamilies := by
  cases segments with
  | nil => exact .pure none slotFamilies
  | cons first rest =>
    have hfold : ∀ e : Expr, Makes T (rest.foldlM newProperty e) [family e] fun e => [family e] := by
      induction rest with
      | nil => exact fun e => .pure e fun e => [family e]
      | cons name rest ih =>
        intro e
        rw [List.foldlM_cons]
        exact (newProperty_makes hT e name).bind ih
    refine (newIdentifier_makes hT first).bind fun e => ?_
    exact (hfold e).bind fun e => .pure (some e) slotFamilies

theorem DataType.new_makes (name : String) : Makes T (DataType.new name) [] fun t => [family t] :=
  fun _ _ _ h => h.new hT

theorem Hint.new_makes (text : String) : Makes T (Hint.new text) [] fun h => [family h] :=
  fun _ _ _ h => h.new hT

theorem Select.new_makes (text : String) : Makes T (Select.new text) [] fun s => [family s] :=
  fun _ _ _ h => h.new hT

theorem TableRef.empty_makes : Makes T TableRef.empty [] fun t => [family t] :=
  fun _ _ _ h => h.new hT

theorem TableRef.new_makes (e : Expr) : Makes T (TableRef.new e) [family e] fun t => [family t] := by
  refine ((TableRef.empty_makes hT).frame [family e]).bind fun t => ?_
  exact .ofExchange (t.setExpr_exchange (some e))

theorem Join.empty_makes {σ : Type} [HasInfo σ] [HasFamily σ] :
    Makes T (Join.empty (σ := σ)) [] fun j => [family j] :=
  fun _ _ _ h => h.new hT

theorem Join.new_makes {σ : Type} [HasInfo σ] [HasFamily σ] (left : σ) (kind : JoinKind) (right : σ)
    (condition : Option Expr) :
    Makes T (Join.new left kind right condition)
      ([family left, family right] ++ slotFamilies condition) fun j => [family j] := by
  refine ((Join.empty_makes hT).frame _).bind fun j => ?_
  have hleft := (j.setKind kind).setLeft_exchange (T := T) (some left)
  have hright := ((j.setKind kind).setLeft (some left)).1.setRight_exchange (T := T) (some right)
  exact .ofExchange ((hleft.trans hright).trans (Join.setCondition_exchange _ condition))

theorem TableSource.newDialect_makes {δ : Type} (kind : δ) (parts : List Expr) :
    Makes T (newDialect kind parts) (parts.map family) fun s => [family s] :=
  fun _ s _ h => h.newWith hT (keep_exchange (newInfo s).1 [] (parts.map family))

theorem Column.new_makes (name : Expr) :
    Makes T (Column.new name) [family name] fun c => [family c] :=
  fun _ s _ h => h.newWith hT ((renew_turnover (newInfo s).1.id [] [name]).exchange [] [] [])

theorem UniqueKey.new_makes (columns : List Expr) (primaryKey : Bool) :
    Makes T (UniqueKey.new columns primaryKey) (columns.map family) fun k => [family k] := by
  refine ((Makes.newInfo hT).frame (columns.map family)).bind fun i => ?_
  exact .ofExchange (foldl_exchange UniqueKey.addColumn_exchange { info := i, primaryKey } columns)

theorem TableIndex.new_makes (name : Expr) (columns : List Expr) :
    Makes T (TableIndex.new name columns) (family name :: columns.map family) fun x => [family x] := by
  intro _ s _ h
  have hname := (renew_turnover (T := T) (newInfo s).1.id [] [name]).exchange [] [[]] []
  have hcolumns := (renew_turnover (T := T) (newInfo s).1.id [] columns).exchange
    [[family (adopt (newInfo s).1.id name)]] [] []
  exact h.newWith hT (hname.trans hcolumns)

theorem Check.new_makes (e : Expr) : Makes T (Check.new e) [family e] fun c => [family c] :=
  fun _ s _ h => h.newWith hT ((renew_turnover (newInfo s).1.id [] [e]).exchange [] [] [])

theorem TableElement.newDialect_makes {ε : Type} (kind : ε) (parts inner : List Expr) :
    Makes T (newDialect kind parts inner) ((inner ++ parts).map family) fun e => [family e] :=
  fun _ s _ h => h.newWith hT (keep_exchange (newInfo s).1 [] ((inner ++ parts).map family))

theorem CreateTable.new_makes {ε : Type} (dbType : Option String) :
    Makes T (CreateTable.new (ε := ε) dbType) [] fun c => [family c] :=
  fun _ _ _ h => h.new hT

theorem Parameter.empty_makes : Makes T Parameter.empty [] fun p => [family p] :=
  fun _ _ _ h => h.new hT

/-! ## Copies -/

theorem Expr.clone_makes (e : Expr) : Makes T e.clone [] fun c => [family c] := by
  induction e with
  | identifier _ name => exact newIdentifier_makes hT name
  | property _ owner name ih => exact ih.bind fun owner => newProperty_makes hT owner name
  | literal _ value => exact newLiteral_makes hT value
  | binary _ left op right ihl ihr =>
    refine ihl.bind fun left => (ihr.frame [family left]).bind fun right => ?_
    exact (newBinary_makes hT left op right).perm_given (List.Perm.swap _ _ _)

omit hT in
theorem cloneSlot_makes {α : Type} [HasInfo α] [HasFamily α] {clone : α → Fresh α}
    (h : ∀ a, Makes T (clone a) [] fun b => [family b]) (slot : Option α) :
    Makes T (cloneSlot clone slot) [] slotFamilies := by
  cases slot with
  | none => exact .pure none slotFamilies
  | some a => exact (h a).bind fun b => .pure (some b) slotFamilies

theorem cloneExprs_makes (es : List Expr) : Makes T (es.mapM Expr.clone) [] (List.map family) :=
  .mapM es fun e _ => e.clone_makes hT

theorem DataType.clone_makes (t : DataType) : Makes T t.clone [] fun c => [family c] := by
  refine (DataType.new_makes hT t.name).bind fun c => ?_
  refine ((cloneExprs_makes hT t.arguments).next _).bind fun es => ?_
  exact .ofExchange (foldl_exchange DataType.addArgument_exchange c es)

theorem Hint.clone_makes (h : Hint) : Makes T h.clone [] fun c => [family c] :=
  Hint.new_makes hT h.text

theorem Select.clone_makes (s : Select) : Makes T s.clone [] fun c => [family c] :=
  Select.new_makes hT s.text

theorem SourceHeader.clone_makes (h : SourceHeader) : Makes T h.clone [] fun c => [family c] := by
  have hnew : Makes T SourceHeader.new [] fun c => [family c] := fun _ _ _ h => h.new hT
  have hhints : Makes T (h.hints.mapM Hint.clone) [] (List.map family) :=
    .mapM h.hints fun x _ => x.clone_makes hT
  have hflashback := cloneSlot_makes (Expr.clone_makes hT) h.flashback
  refine hnew.bind fun c => (hhints.next _).bind fun hints => (hflashback.next _).bind fun e => ?_
  have hset := (c.setAlias h.alias?).1.setHints_exchanges (T := T) hints [] []
  exact .ofExchange (hset.trans (SourceHeader.setFlashback_exchanges _ e [] []))

theorem TableRef.clone_makes (t : TableRef) : Makes T t.clone [] fun c => [family c] := by
  have hexpr := cloneSlot_makes (Expr.clone_makes hT) t.expr
  have hpartitions := cloneExprs_makes hT t.partitions
  refine (t.header.clone_makes hT).bind fun header => (hexpr.next _).bind fun e =>
    (hpartitions.next _).bind fun es => ?_
  have hset := TableRef.setExpr_exchange (T := T) { header } e
  exact .ofExchange (hset.trans (foldl_exchange TableRef.addPartition_exchange _ es))

theorem Parameter.cloneAround_makes (p : Parameter) {parameters : Fresh (List Parameter)}
    (hparameters : Makes T parameters [] (List.map family)) :
    Makes T (p.cloneAround parameters) [] fun c => [family c] := by
  have hexpr := cloneSlot_makes (Expr.clone_makes hT)
  have htype := cloneSlot_makes (DataType.clone_makes hT) p.dataType
  refine (Parameter.empty_makes hT).bind fun e => ((hexpr p.name).next _).bind fun n =>
    (htype.next _).bind fun t => ((hexpr p.defaultValue).next _).bind fun d =>
    ((hexpr p.cursor).next _).bind fun c => (hparameters.next _).bind fun ps => ?_
  have hflags : family (((e.setDirection p.direction).setNoCopy p.noCopy).setConstant p.constant) =
      family e := by
    rw [family_eq, family_eq]
    rfl
  have hname := (((e.setDirection p.direction).setNoCopy p.noCopy).setConstant
    p.constant).setName_exchange (T := T) n
  have htype := hname.trans (Parameter.setDataType_exchange _ t)
  have hdefault := htype.trans (Parameter.setDefaultValue_exchange _ d)
  have hcursor := hdefault.trans (Parameter.setCursor_exchange _ c)
  rw [← hflags]
  exact .ofExchange (hcursor.trans (Parameter.setParameters_exchange _ ps))

omit hT in
theorem Parameter.cloneEach_makes (ps : List Parameter)
    (h : ∀ p ∈ ps, Makes T p.clone [] fun c => [family c]) :
    Makes T (cloneEach ps) [] (List.map family) := by
  induction ps with
  | nil => exact .pure [] (List.map family)
  | cons p ps ih =>
    rw [cloneEach]
    refine (h p List.mem_cons_self).bind fun c => ?_
    refine ((ih fun q hq => h q (List.mem_cons_of_mem _ hq)).next _).bind fun cs => ?_
    exact .pure (c :: cs) (List.map family)

theorem Parameter.clone_makes (p : Parameter) : Makes T p.clone [] fun c => [family c] := by
  induction p using Parameter.nested with
  | parameter p ih =>
    obtain ⟨i, n, t, d, dir, nc, k, c, ps⟩ := p
    rw [Parameter.clone]
    exact cloneAround_makes hT _ (cloneEach_makes ps ih)

end

/-! ## Copies that can fail -/

/-- What is made where a computation may fail: a failure leaves nothing. -/
def madeIfOk {α : Type} (made : α → List Family) : Except TreeError α → List Family
  | .ok a => made a
  | .error _ => []

/-- The computation turns the families `given` into the families `made`, or it fails and `given` is
lost. -/
def Tries {α : Type} (T : Attributes → Prop) (x : Cloning α) (given : List Family)
    (made : α → List Family) : Prop :=
  Makes T x.run given (madeIfOk made)

namespace Tries

variable {α β : Type} {given : List Family} {made : α → List Family}

theorem pure (a : α) (made : α → List Family) : Tries T (Pure.pure a) (made a) made :=
  fun _ _ _ h => h

theorem lift {x : Fresh α} (h : Makes T x given made) : Tries T (liftM x) given made := h

theorem descend (d : Depth) : Tries T (liftM d.descend) [] fun _ => [] := by
  intro r s rest h
  change Grown T r s (madeIfOk (fun _ => []) d.descend ++ rest)
  cases d.descend <;> exact h

theorem bind {x : Cloning α} {k : α → Cloning β} {made' : β → List Family}
    (hx : Tries T x given made) (hk : ∀ a, Tries T (k a) (made a) made') :
    Tries T (x >>= k) given made' := by
  intro r s rest h
  have hmade := hx r s rest h
  have hrun : (x >>= k).run s = ExceptT.bindCont k (x.run s).1 (x.run s).2 := rfl
  rw [hrun]
  cases hresult : (x.run s).1 with
  | ok a =>
    rw [hresult] at hmade
    exact hk a r _ rest hmade
  | error e =>
    rw [hresult] at hmade
    exact hmade

theorem frame {x : Cloning α} (h : Tries T x given made) (more : List Family) :
    Tries T x (given ++ more) fun a => made a ++ more := by
  intro r s rest hg
  rw [List.append_assoc] at hg
  have hmade := h r s (more ++ rest) hg
  cases hresult : (x.run s).1 with
  | ok a =>
    rw [hresult] at hmade
    simpa [madeIfOk] using hmade
  | error e =>
    -- A failure loses what is not used too.
    rw [hresult] at hmade
    exact (show Grown T r _ (more ++ rest) from hmade).drop

theorem next {x : Cloning α} (h : Tries T x [] made) (given : List Family) :
    Tries T x given fun a => given ++ made a := by
  intro r s rest hg
  have hframe := h.frame given r s rest hg
  cases hresult : (x.run s).1 with
  | ok a =>
    rw [hresult] at hframe
    exact hframe.perm (List.perm_append_comm.append_right rest)
  | error e =>
    rw [hresult] at hframe
    exact hframe

end Tries

section

variable {δ : Type} [SourceDialect δ] (hT : T .empty)

include hT

theorem TableSource.cloneDialect_tries (h : SourceHeader) (kind : δ) (parts : List Expr) :
    Tries T (cloneDialect h kind parts) [] fun c => [family c] := by
  unfold cloneDialect
  split
  · refine Tries.bind (.lift (h.clone_makes hT)) fun header => ?_
    refine Tries.bind (.lift ((cloneExprs_makes hT parts).next _)) fun copies => ?_
    exact .lift (.ofExchange (keep_exchange header.info header.groups.flatten (copies.map family)))
  · exact fun _ _ _ hg => hg

omit [SourceDialect δ] in
theorem Join.cloneAround_tries {σ : Type} [HasInfo σ] [HasFamily σ] (j : Join σ)
    {left right : Cloning (Option σ)} (hleft : Tries T left [] slotFamilies)
    (hright : Tries T right [] slotFamilies) :
    Tries T (j.cloneAround left right) [] fun c => [family c] := by
  have hcolumns := cloneExprs_makes hT j.columns
  have hcondition := cloneSlot_makes (Expr.clone_makes hT) j.condition
  refine Tries.bind (.lift (j.header.clone_makes hT)) fun header => ?_
  refine Tries.bind (.lift (hcolumns.next _)) fun es => ?_
  refine (hleft.next _).bind fun l => (hright.next _).bind fun r => ?_
  refine Tries.bind (.lift (hcondition.next _)) fun e => ?_
  have hset := Join.setLeft_exchange (T := T) { header, kind := j.kind, natural := j.natural } l
  have hset := hset.trans (Join.setRight_exchange _ r)
  have hset := hset.trans (Join.setCondition_exchange _ e)
  have hset := hset.trans (foldl_exchange Join.addColumn_exchange _ es)
  refine .lift ((Makes.ofExchange hset).perm_given ?_)
  -- The copies of the columns came before the sides and go in last.
  have hperm : (slotFamilies l ++ slotFamilies r ++ slotFamilies e ++ es.map family).Perm
      (es.map family ++ (slotFamilies l ++ slotFamilies r ++ slotFamilies e)) :=
    List.perm_append_comm
  have hheader : family ({ header, kind := j.kind, natural := j.natural } : Join σ) =
      family header := rfl
  rw [hheader]
  simpa using hperm

omit hT in
theorem TableSource.cloneSide_tries (d : Depth) (side : Option (TableSource δ))
    (h : ∀ s ∈ side, ∀ d, Tries T (s.cloneAt d) [] fun c => [family c]) :
    Tries T (cloneSide d side) [] slotFamilies := by
  cases side with
  | none =>
    rw [cloneSide]
    exact .pure none slotFamilies
  | some s =>
    rw [cloneSide]
    refine (Tries.descend d).bind fun below => (h s rfl below).bind fun c => ?_
    exact .pure (some c) slotFamilies

theorem TableSource.cloneAt_tries (s : TableSource δ) (d : Depth) :
    Tries T (s.cloneAt d) [] fun c => [family c] := by
  induction s using TableSource.nested generalizing d with
  | table t =>
    rw [cloneAt]
    exact Tries.bind (.lift (t.clone_makes hT)) fun c => .pure (table c) fun c => [family c]
  | join j ihl ihr =>
    obtain ⟨h, l, k, r, c, us, n⟩ := j
    rw [cloneAt]
    have hcopy := Join.cloneAround_tries hT (⟨h, l, k, r, c, us, n⟩ : JoinSource δ)
      (cloneSide_tries d l ihl) (cloneSide_tries d r ihr)
    rw [map_eq_pure_bind]
    refine hcopy.bind fun j => ?_
    rw [← family_join]
    exact .pure (join j) fun c => [family c]
  | dialect h kind parts =>
    rw [cloneAt]
    exact cloneDialect_tries hT h kind parts

theorem JoinSource.tryClone_tries (j : JoinSource δ) (limit : Nat) :
    Tries T (tryClone j limit) [] fun c => [family c] := by
  have hside (side : Option (TableSource δ)) :=
    TableSource.cloneSide_tries (T := T) (.root limit) side fun s _ => s.cloneAt_tries hT
  exact Join.cloneAround_tries hT j (hside j.left) (hside j.right)

omit hT [SourceDialect δ] in
theorem Tries.wrap {ε α : Type} [HasInfo α] [HasFamily α] {x : Cloning α} (wrap : α → Node δ ε)
    (hx : Tries T x [] fun a => [family a]) (hwrap : ∀ a, family (wrap a) = family a) :
    Tries T (x >>= fun a => Pure.pure (wrap a)) [] fun n => [family n] := by
  refine hx.bind fun a => ?_
  rw [← hwrap a]
  exact .pure (wrap a) fun n => [family n]

theorem Node.tryClone?_tries {ε : Type} {limit : Nat} {n : Node δ ε} {copy : Cloning (Node δ ε)}
    (h : n.tryClone? limit = some copy) : Tries T copy [] fun c => [family c] := by
  cases n with
  | expr e => cases h; exact .wrap .expr (.lift (e.clone_makes hT)) fun _ => rfl
  | dataType t => cases h; exact .wrap .dataType (.lift (t.clone_makes hT)) fun _ => rfl
  | hint x => cases h; exact .wrap .hint (.lift (x.clone_makes hT)) fun _ => rfl
  | select s => cases h; exact .wrap .select (.lift (s.clone_makes hT)) fun _ => rfl
  | table t => cases h; exact .wrap .table (.lift (t.clone_makes hT)) fun _ => rfl
  | join j => cases h; exact .wrap .join (JoinSource.tryClone_tries hT j limit) fun _ => rfl
  | source s => cases h; exact .wrap .source (s.cloneAt_tries hT (.root limit)) fun _ => rfl
  | parameter p => cases h; exact .wrap .parameter (.lift (p.clone_makes hT)) fun _ => rfl
  | create _ | column _ | unique _ | index _ | check _ | element _ => cases h

end

end SqlTree
