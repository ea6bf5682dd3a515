import SqlTree.Proofs.Bare
import SqlTree.Proofs.Making

/-! # Copies are faithful, new and detached

A copy has the bare form of what it is made from, so the two correspond node by node. Its identities
are new, its links are right, and it has neither attributes nor catalog entries. -/

namespace SqlTree

open Family

/-! ## What computations return -/

/-- Whatever the supply, the result is as `P` asks. -/
def Returns {α : Type} (x : Fresh α) (P : α → Prop) : Prop := ∀ s, P (x s).1

/-- Whatever the supply, a result that is no failure is as `P` asks. -/
def Yields {α : Type} (x : Cloning α) (P : α → Prop) : Prop :=
  ∀ s a s', x.run s = (.ok a, s') → P a

section

variable {α β : Type} {P : α → Prop} {Q : β → Prop}

theorem Returns.pure {a : α} (h : P a) : Returns (Pure.pure a) P := fun _ => h

theorem Returns.bind {x : Fresh α} {k : α → Fresh β} (hx : Returns x P)
    (hk : ∀ a, P a → Returns (k a) Q) : Returns (x >>= k) Q :=
  fun s => hk _ (hx s) _

theorem Returns.always (x : Fresh α) : Returns x fun _ => True := fun _ => trivial

theorem Yields.pure {a : α} (h : P a) : Yields (Pure.pure a) P := by
  rintro s _ _ ⟨⟩
  exact h

theorem Yields.bind {x : Cloning α} {k : α → Cloning β} (hx : Yields x P)
    (hk : ∀ a, P a → Yields (k a) Q) : Yields (x >>= k) Q := by
  intro s b s' h
  have hrun : (x >>= k).run s = ExceptT.bindCont k (x.run s).1 (x.run s).2 := rfl
  rw [hrun] at h
  cases hresult : (x.run s).1 with
  | ok a =>
    rw [hresult] at h
    exact hk a (hx s a _ (Prod.ext hresult rfl)) _ b s' h
  | error e =>
    rw [hresult] at h
    cases h

theorem Yields.always (x : Cloning α) : Yields x fun _ => True := fun _ _ _ _ => trivial

theorem Returns.lift {x : Fresh α} (h : Returns x P) : Yields (liftM x) P := by
  rintro s _ _ ⟨⟩
  exact h s

end

/-- Items that are added one by one stand at the end, in their order. -/
theorem foldl_push {α β : Type} {add : α → β → α} (put : List β → α) (g : β → β)
    (hadd : ∀ bs b, add (put bs) b = put (bs ++ [g b])) (bs cs : List β) :
    cs.foldl add (put bs) = put (bs ++ cs.map g) := by
  induction cs generalizing bs with
  | nil => rw [List.foldl_nil, List.map_nil, List.append_nil]
  | cons c cs ih =>
    rw [List.foldl_cons, hadd, ih, List.append_assoc, List.singleton_append, List.map_cons]

theorem DataType.foldl_addArgument (t : DataType) (es : List Expr) :
    es.foldl addArgument t = { t with arguments := t.arguments ++ es.map (adopt t.info.id) } :=
  foldl_push (fun es => { t with arguments := es }) (adopt t.info.id) (fun _ _ => rfl) t.arguments es

theorem TableRef.foldl_addPartition (t : TableRef) (es : List Expr) :
    es.foldl addPartition t = { t with partitions := t.partitions ++ es.map (adopt (nodeId t)) } :=
  foldl_push (fun es => { t with partitions := es }) (adopt (nodeId t)) (fun _ _ => rfl)
    t.partitions es

theorem Join.foldl_addColumn {σ : Type} (j : Join σ) (es : List Expr) :
    es.foldl addColumn j = { j with columns := j.columns ++ es.map (adopt (nodeId j)) } :=
  foldl_push (fun es => { j with columns := es }) (adopt (nodeId j)) (fun _ _ => rfl) j.columns es

/-! ## Expressions, data types, hints and queries -/

theorem Expr.clone_returns (e : Expr) : Returns e.clone fun c => bare c = bare e := by
  induction e with
  | identifier _ _ | literal _ _ => exact fun _ => rfl
  | property _ owner name ih =>
    refine ih.bind fun c hc s => ?_
    change Expr.property blankInfo (bare (adopt _ c)) name = .property blankInfo (bare owner) name
    rw [bare_adopt, hc]
  | binary _ left op right ihl ihr =>
    refine ihl.bind fun l hl => ihr.bind fun r hr s => ?_
    change Expr.binary blankInfo (bare (adopt _ l)) op (bare (adopt _ r)) =
      .binary blankInfo (bare left) op (bare right)
    rw [bare_adopt, bare_adopt, hl, hr]

section

variable {α : Type} [HasInfo α] [HasBare α] {clone : α → Fresh α}

theorem cloneSlot_returns (h : ∀ a, Returns (clone a) fun c => bare c = bare a) (slot : Option α) :
    Returns (cloneSlot clone slot) fun c => c.map bare = slot.map bare := by
  cases slot with
  | none => exact .pure rfl
  | some a => exact (h a).bind fun c hc => .pure (congrArg some hc)

theorem mapM_returns (h : ∀ a, Returns (clone a) fun c => bare c = bare a) (as : List α) :
    Returns (as.mapM clone) fun cs => cs.map bare = as.map bare := by
  induction as with
  | nil => exact .pure rfl
  | cons a as ih =>
    rw [List.mapM_cons]
    refine (h a).bind fun c hc => ih.bind fun cs hcs => .pure ?_
    rw [List.map_cons, List.map_cons, hc, hcs]

end

theorem DataType.clone_returns (t : DataType) : Returns t.clone fun c => bare c = bare t := by
  have hnew : Returns (DataType.new t.name) fun c => c.name = t.name ∧ c.arguments = [] :=
    fun _ => ⟨rfl, rfl⟩
  have harguments := mapM_returns Expr.clone_returns t.arguments
  refine hnew.bind fun c hc => harguments.bind fun es hes => .pure ?_
  rw [foldl_addArgument, hc.2, List.nil_append]
  change DataType.mk blankInfo c.name ((es.map (adopt _)).map bare) =
    .mk blankInfo t.name (t.arguments.map bare)
  rw [bare_map_adopt, hes, hc.1]

theorem Hint.clone_returns (h : Hint) : Returns h.clone fun c => bare c = bare h := fun _ => rfl

theorem Select.clone_returns (s : Select) : Returns s.clone fun c => bare c = bare s := fun _ => rfl

/-! ## Sources -/

theorem SourceHeader.clone_returns (h : SourceHeader) :
    Returns h.clone fun c => bare c = bare h := by
  have hnew := Returns.always SourceHeader.new
  have hhints := mapM_returns Hint.clone_returns h.hints
  have hflashback := cloneSlot_returns Expr.clone_returns h.flashback
  refine hnew.bind fun c _ => hhints.bind fun xs hxs => hflashback.bind fun e he => .pure ?_
  change SourceHeader.mk blankInfo h.alias? ((xs.map (adopt _)).map bare)
    ((e.map (adopt _)).map bare) = .mk blankInfo h.alias? (h.hints.map bare) (h.flashback.map bare)
  rw [bare_map_adopt, bare_option_adopt, hxs, he]

theorem TableRef.clone_returns (t : TableRef) :
    Returns t.clone fun c => bare c = bare t ∧ c.schemaObject = none := by
  have hexpr := cloneSlot_returns Expr.clone_returns t.expr
  have hpartitions := mapM_returns Expr.clone_returns t.partitions
  refine t.header.clone_returns.bind fun h hh => hexpr.bind fun e he =>
    hpartitions.bind fun es hes => .pure ?_
  rw [foldl_addPartition]
  refine ⟨?_, rfl⟩
  change TableRef.mk (bare h) ((e.map (adopt _)).map bare) ((es.map (adopt _)).map bare) none =
    .mk (bare t.header) (t.expr.map bare) (t.partitions.map bare) none
  rw [bare_option_adopt, bare_map_adopt, hh, he, hes]

namespace TableSource

variable {δ : Type}

mutual

/-- The catalog entries in a source. -/
def schemaObjects : TableSource δ → List String
  | table t => t.schemaObject.toList
  | join ⟨_, l, _, r, _, _, _⟩ => schemaObjectsSide l ++ schemaObjectsSide r
  | dialect _ _ _ => []

def schemaObjectsSide : Option (TableSource δ) → List String
  | none => []
  | some s => s.schemaObjects

end

theorem schemaObjects_join (j : JoinSource δ) :
    (join j).schemaObjects = schemaObjectsSide j.left ++ schemaObjectsSide j.right := by
  rw [schemaObjects]

theorem schemaObjectsSide_adopt (owner : NodeId) (side : Option (TableSource δ)) :
    schemaObjectsSide (side.map (adopt owner)) = schemaObjectsSide side := by
  cases side with
  | none => rfl
  | some s => cases s <;> rfl

/-- The copy of a side says the same as the side, without catalog entries. -/
def YieldsSide (x : Cloning (Option (TableSource δ))) (side : Option (TableSource δ)) : Prop :=
  Yields x fun c => c.map bare = side.map bare ∧ schemaObjectsSide c = []

theorem cloneAround_yields (j : JoinSource δ) {left right : Cloning (Option (TableSource δ))}
    (hleft : YieldsSide left j.left) (hright : YieldsSide right j.right) :
    Yields (j.cloneAround left right) fun c => bare c = bare j ∧ (join c).schemaObjects = [] := by
  have hcolumns := mapM_returns Expr.clone_returns j.columns
  have hcondition := cloneSlot_returns Expr.clone_returns j.condition
  refine j.header.clone_returns.lift.bind fun h hh => hcolumns.lift.bind fun es hes => ?_
  refine Yields.bind hleft fun l hl => Yields.bind hright fun r hr => ?_
  refine hcondition.lift.bind fun e he => .pure ?_
  rw [Join.foldl_addColumn]
  constructor
  · change Join.mk (bare h) ((l.map (adopt _)).map bare) j.kind ((r.map (adopt _)).map bare)
      ((e.map (adopt _)).map bare) ((es.map (adopt _)).map bare) j.natural =
      .mk (bare j.header) (j.left.map bare) j.kind (j.right.map bare) (j.condition.map bare)
        (j.columns.map bare) j.natural
    simp only [bare_option_adopt, bare_map_adopt, hh, hl.1, hr.1, he, hes]
  · rw [schemaObjects_join]
    change schemaObjectsSide (l.map (adopt _)) ++ schemaObjectsSide (r.map (adopt _)) = []
    rw [schemaObjectsSide_adopt, schemaObjectsSide_adopt, hl.2, hr.2, List.append_nil]

variable [SourceDialect δ]

theorem cloneDialect_yields (h : SourceHeader) (kind : δ) (parts : List Expr) :
    Yields (cloneDialect h kind parts) fun c =>
      bare c = bare (dialect h kind parts) ∧ c.schemaObjects = [] := by
  unfold cloneDialect
  split
  · refine h.clone_returns.lift.bind fun c hc => ?_
    refine (mapM_returns Expr.clone_returns parts).lift.bind fun es hes => .pure ⟨?_, rfl⟩
    change dialect (bare c) kind (es.map bare) = dialect (bare h) kind (parts.map bare)
    rw [hc, hes]
  · rintro s _ _ ⟨⟩

theorem cloneSide_yields (d : Depth) (side : Option (TableSource δ))
    (h : ∀ s ∈ side, ∀ d, Yields (s.cloneAt d) fun c => bare c = bare s ∧ c.schemaObjects = []) :
    YieldsSide (cloneSide d side) side := by
  cases side with
  | none =>
    rw [cloneSide]
    exact .pure ⟨rfl, rfl⟩
  | some s =>
    rw [cloneSide]
    refine (Yields.always _).bind fun below _ => (h s rfl below).bind fun c hc => ?_
    exact .pure ⟨congrArg some hc.1, hc.2⟩

theorem cloneAt_yields (s : TableSource δ) (d : Depth) :
    Yields (s.cloneAt d) fun c => bare c = bare s ∧ c.schemaObjects = [] := by
  induction s using TableSource.nested generalizing d with
  | table t =>
    rw [cloneAt]
    refine t.clone_returns.lift.bind fun c hc => .pure ⟨congrArg table hc.1, ?_⟩
    rw [schemaObjects, hc.2, Option.toList_none]
  | join j ihl ihr =>
    obtain ⟨h, l, k, r, e, us, n⟩ := j
    have hcopy := cloneAround_yields ⟨h, l, k, r, e, us, n⟩ (cloneSide_yields d l ihl)
      (cloneSide_yields d r ihr)
    rw [cloneAt, map_eq_pure_bind]
    refine hcopy.bind fun c hc => .pure ⟨?_, hc.2⟩
    rw [bare_join, bare_join, hc.1]
  | dialect h kind parts =>
    rw [cloneAt]
    exact cloneDialect_yields h kind parts

theorem tryClone_join_yields (j : JoinSource δ) (limit : Nat) :
    Yields (JoinSource.tryClone j limit) fun c => bare c = bare j ∧ (join c).schemaObjects = [] := by
  have hside (side : Option (TableSource δ)) :=
    cloneSide_yields (.root limit) side fun s _ => s.cloneAt_yields
  exact cloneAround_yields j (hside j.left) (hside j.right)

end TableSource

/-! ## Parameters -/

theorem Parameter.cloneAround_returns (p : Parameter) {parameters : Fresh (List Parameter)}
    (hparameters : Returns parameters fun ps => ps.map bare = p.parameters.map bare) :
    Returns (p.cloneAround parameters) fun c => bare c = bare p := by
  have hname := cloneSlot_returns Expr.clone_returns p.name
  have htype := cloneSlot_returns DataType.clone_returns p.dataType
  have hdefault := cloneSlot_returns Expr.clone_returns p.defaultValue
  have hcursor := cloneSlot_returns Expr.clone_returns p.cursor
  refine (Returns.always Parameter.empty).bind fun e _ => hname.bind fun n hn =>
    htype.bind fun t ht => hdefault.bind fun d hd => hcursor.bind fun c hc =>
    hparameters.bind fun ps hps => .pure ?_
  rw [bare_eq, bare_eq]
  change Parameter.mk blankInfo ((n.map (adopt _)).map bare) ((t.map (adopt _)).map bare)
    ((d.map (adopt _)).map bare) p.direction p.noCopy p.constant ((c.map (adopt _)).map bare)
    ((ps.map (adopt _)).map bare) = .mk blankInfo (p.name.map bare) (p.dataType.map bare)
    (p.defaultValue.map bare) p.direction p.noCopy p.constant (p.cursor.map bare)
    (p.parameters.map bare)
  simp only [bare_option_adopt, bare_map_adopt, hn, ht, hd, hc, hps]

theorem Parameter.cloneEach_returns (ps : List Parameter)
    (h : ∀ p ∈ ps, Returns p.clone fun c => bare c = bare p) :
    Returns (cloneEach ps) fun cs => cs.map bare = ps.map bare := by
  induction ps with
  | nil => exact .pure rfl
  | cons p ps ih =>
    rw [cloneEach]
    refine (h p List.mem_cons_self).bind fun c hc => ?_
    refine (ih fun q hq => h q (List.mem_cons_of_mem _ hq)).bind fun cs hcs => .pure ?_
    rw [List.map_cons, List.map_cons, hc, hcs]

theorem Parameter.clone_returns (p : Parameter) : Returns p.clone fun c => bare c = bare p := by
  induction p using Parameter.nested with
  | parameter p ih =>
    obtain ⟨i, n, t, d, dir, nc, k, c, ps⟩ := p
    rw [Parameter.clone]
    exact cloneAround_returns _ (cloneEach_returns ps ih)

/-! ## Any node -/

namespace Node

variable {δ ε : Type} [SourceDialect δ]

/-- The catalog entries in a node, for the kinds that can be copied. -/
def schemaObjects : Node δ ε → List String
  | table t => t.schemaObject.toList
  | join j => (TableSource.join j).schemaObjects
  | source s => s.schemaObjects
  | _ => []

theorem tryClone?_yields (hδ : ∀ k : δ, SourceDialect.Same k k) {limit : Nat} {x : Node δ ε}
    {copy : Cloning (Node δ ε)} (h : x.tryClone? limit = some copy) :
    Yields copy fun c => c.bare = x.bare ∧ c.schemaObjects = [] ∧ c.same? x = some true := by
  cases x with
  | expr e =>
    cases h
    refine e.clone_returns.lift.bind fun c hc => .pure ⟨congrArg expr hc, rfl, ?_⟩
    exact congrArg some (Expr.same_of_bare hc)
  | dataType t =>
    cases h
    refine t.clone_returns.lift.bind fun c hc => .pure ⟨congrArg dataType hc, rfl, ?_⟩
    exact congrArg some (DataType.same_of_bare hc)
  | hint x =>
    cases h
    refine x.clone_returns.lift.bind fun c hc => .pure ⟨congrArg hint hc, rfl, ?_⟩
    exact congrArg some (Hint.same_of_bare hc)
  | select s =>
    cases h
    refine s.clone_returns.lift.bind fun c hc => .pure ⟨congrArg select hc, rfl, ?_⟩
    exact congrArg some (Select.same_of_bare hc)
  | table t =>
    cases h
    refine t.clone_returns.lift.bind fun c hc => .pure ⟨congrArg table hc.1, ?_, ?_⟩
    · rw [schemaObjects, hc.2, Option.toList_none]
    · exact congrArg some (TableRef.same_of_bare hc.1)
  | join j =>
    cases h
    refine (TableSource.tryClone_join_yields j limit).bind fun c hc => ?_
    exact .pure ⟨congrArg join hc.1, hc.2, congrArg some (JoinSource.same_of_bare hδ hc.1)⟩
  | source s =>
    cases h
    refine (s.cloneAt_yields (.root limit)).bind fun c hc => ?_
    exact .pure ⟨congrArg source hc.1, hc.2, congrArg some (TableSource.same_of_bare hδ hc.1)⟩
  | parameter p =>
    cases h
    refine p.clone_returns.lift.bind fun c hc => .pure ⟨congrArg parameter hc, rfl, ?_⟩
    exact congrArg some (Parameter.same_of_bare hc)
  | create _ | column _ | unique _ | index _ | check _ | element _ => cases h

/-- A copy, under any ceiling that lets it through, corresponds to the node that it is made from.
Its identities are new and different, its links are right and it is a root; it has no attributes and
no catalog entries. So it is equal to the node, feeds the same words and has the same text. -/
theorem copy_faithful_new_detached [ElementDialect ε] (hδ : ∀ k : δ, SourceDialect.Same k k)
    {limit : Nat} {x c : Node δ ε} {copy : Cloning (Node δ ε)} {s s' : Supply}
    (hkind : x.tryClone? limit = some copy) (hcopy : copy.run s = (.ok c, s')) :
    c.bare = x.bare ∧ c.schemaObjects = [] ∧
      (family c).ids.Nodup ∧ (∀ id ∈ (family c).ids, ∀ k < s.drawn, id ≠ s.nth k) ∧
      parent? c = none ∧
      (∀ m ∈ (family c).members, ∀ o ∈ m.owned, o.info.parent = some m.info.id) ∧
      (∀ m ∈ (family c).members, m.info.attributes = .empty) ∧
      c.same? x = some true ∧ c.feed? = x.feed? ∧ c.render = x.render := by
  obtain ⟨hbare, hobjects, hsame⟩ := tryClone?_yields hδ hkind s c s' hcopy
  have hgrown : Grown (· = .empty) s s' [family c] := by
    have hmade := tryClone?_tries (T := (· = .empty)) rfl hkind s s [] (.nil ⟨rfl, Nat.le_refl _⟩)
    rw [hcopy] at hmade
    exact hmade
  obtain ⟨hparent, hlinked⟩ := hgrown.rooted _ List.mem_cons_self
  have hids : [family c].flatMap ids = (family c).ids := by
    rw [List.flatMap_cons, List.flatMap_nil, List.append_nil]
  refine ⟨hbare, hobjects, ?_, fun id hid k hk heq => ?_, ?_, fun m hm => (hlinked m hm).1,
    hgrown.tagged _ List.mem_cons_self, hsame, ?_, ?_⟩
  · rw [← hids]
    exact hgrown.distinct
  · obtain ⟨n, hn, -, hid'⟩ := hgrown.issued id (by rwa [hids])
    rw [hid', s.nth_inj] at heq
    omega
  · rwa [HasFamily.family_info] at hparent
  · rw [← c.feed?_bare, hbare, x.feed?_bare]
  · rw [← c.render_bare, hbare, x.render_bare]

/-- A copy of a join: the table on its left has a hint and a catalog entry, and what stands on its
right is of a dialect's kind. -/
theorem copy_faithful_new_detached_join :
    let info (n : Nat) : NodeInfo := { id := ⟨n⟩ }
    let table : TableRef := {
      header := { info := info 2, alias? := some "t", hints := [⟨info 3, "FULL"⟩] }
      expr := some (.identifier (info 4) "orders")
      schemaObject := some "public.orders" }
    let x : Node SourceKind ElementKind := .source (.join {
      header := { info := info 1 }
      left := some (.table table)
      right := some (.dialect { info := info 5 } (.series 3) []) })
    let s : Supply := { Supply.counting with drawn := 5 }
    (∀ k : SourceKind, SourceDialect.Same k k) ∧
      ∃ copy c s', x.tryClone? 1 = some copy ∧ copy.run s = (.ok c, s') ∧
        (family c).ids = [⟨6⟩, ⟨7⟩, ⟨8⟩, ⟨9⟩, ⟨10⟩] ∧ c.bare = x.bare ∧ c.schemaObjects = [] ∧
        parent? c = none ∧ c.render = x.render := by
  intro info table x s
  have hδ (k : SourceKind) : SourceDialect.Same k k := SourceKind.same_equivalence.refl k
  refine ⟨hδ, _, _, _, rfl, rfl, ?_⟩
  obtain ⟨hbare, hobjects, -, -, hparent, -, -, -, -, hrender⟩ :=
    copy_faithful_new_detached (s := s) hδ (show x.tryClone? 1 = some _ from rfl) rfl
  exact ⟨rfl, hbare, hobjects, hparent, hrender⟩

end Node

end SqlTree
