import SqlTree.Blueprint.Bytes
import SqlTree.Blueprint.Decode
import SqlTree.Proofs.Audited

/-! # Blueprints from bytes stay small

Whatever the bytes and whatever reader chooses from them, a blueprint that is read nests few joins
and has short lists, since the reader keeps to the ranges it is given. How high the built source is
can be read off the blueprint, so it stays far below the ceiling, and its audit passes. -/

namespace SqlTree

variable {δ ε : Type}

/-! ## What is read -/

namespace Reading

variable {ρ α β : Type} {P : α → Prop} {Q : β → Prop}

/-- Wherever the reader stands, what is read without an error is as `P` asks. -/
def Gives (x : Reading ρ ε α) (P : α → Prop) : Prop :=
  ∀ r a r', x.run r = .ok (a, r') → P a

theorem Gives.pure {a : α} (h : P a) : Gives (Pure.pure a : Reading ρ ε α) P := by
  intro r b r' hrun
  cases hrun
  exact h

theorem Gives.bind {x : Reading ρ ε α} {k : α → Reading ρ ε β} (hx : Gives x P)
    (hk : ∀ a, P a → Gives (k a) Q) : Gives (x >>= k) Q := by
  intro r b r' hrun
  rw [StateT.run_bind] at hrun
  cases hfirst : x.run r with
  | error e =>
    rw [hfirst] at hrun
    cases hrun
  | ok found =>
    rw [hfirst] at hrun
    exact hk found.1 (hx r found.1 found.2 hfirst) found.2 b r' hrun

theorem Gives.imp {Q : α → Prop} {x : Reading ρ ε α} (h : Gives x P) (hPQ : ∀ a, P a → Q a) :
    Gives x Q :=
  fun r a r' hrun => hPQ a (h r a r' hrun)

theorem Gives.always (x : Reading ρ ε α) : Gives x fun _ => True := fun _ _ _ _ => trivial

end Reading

open Reading

namespace ChoiceReader

variable {ρ : Type} [ChoiceReader ρ ε] [LawfulChoiceReader ρ]

theorem inRange_gives {low high : Nat} (h : low ≤ high) :
    Gives (inRange low high : Reading ρ ε Nat) fun n => low ≤ n ∧ n ≤ high :=
  fun _ _ _ hrun => LawfulChoiceReader.inRange_mem h hrun

end ChoiceReader

/-- A number that is read from a byte lies in its range, being a remainder. -/
instance : LawfulChoiceReader (List UInt8) where
  inRange_mem := by
    intro low high n bytes rest hle hrun
    obtain ⟨rfl, -⟩ : low + ByteReader.bigEndian (bytes.take 1) % (high - low + 1) = n ∧
        bytes.drop 1 = rest := by
      cases hrun
      exact ⟨rfl, rfl⟩
    have hrest : ByteReader.bigEndian (bytes.take 1) % (high - low + 1) < high - low + 1 :=
      Nat.mod_lt _ (Nat.succ_pos _)
    omega

namespace Blueprint

open ChoiceReader

/-- Every table has one to three segments, at most three partitions and at most two hints, and every
join has at most three columns. -/
def InBounds : Blueprint → Prop
  | table path _ partitions hints _ =>
    1 ≤ path.length ∧ path.length ≤ 3 ∧ partitions.length ≤ 3 ∧ hints.length ≤ 2
  | join left _ right _ columns _ _ => left.InBounds ∧ right.InBounds ∧ columns.length ≤ 3

section

variable {ρ : Type} [ChoiceReader ρ ε]

theorem readNames_gives (n : Nat) :
    Gives (readNames n : Reading ρ ε (List String)) fun names => names.length = n := by
  induction n with
  | zero => exact .pure rfl
  | succ n ih =>
    refine (Gives.always readName).bind fun name _ => ih.bind fun names hnames => .pure ?_
    rw [List.length_cons, hnames]

variable [LawfulChoiceReader ρ]

theorem readNamesUpTo_gives (max : Nat) :
    Gives (readNamesUpTo max : Reading ρ ε (List String)) fun names => names.length ≤ max := by
  refine (inRange_gives max.zero_le).bind fun n hn => (readNames_gives n).imp fun names hnames => ?_
  omega

theorem readTable_gives :
    Gives (readTable : Reading ρ ε Blueprint) fun b => b.InBounds ∧ b.nesting = 0 := by
  refine (inRange_gives (by decide : 1 ≤ 3)).bind fun n hn => ?_
  refine (readNames_gives n).bind fun path hpath => (Gives.always _).bind fun alias? _ => ?_
  refine (readNamesUpTo_gives 3).bind fun ps hps => (readNamesUpTo_gives 2).bind fun hs hhs => ?_
  refine (Gives.always int64?).bind fun flashback _ => .pure ?_
  exact ⟨⟨by omega, by omega, hps, hhs⟩, rfl⟩

/-- The level that is handed down bounds the joins, whatever the reader chooses. -/
theorem read_gives (n : Nat) :
    Gives (read n : Reading ρ ε Blueprint) fun b => b.InBounds ∧ b.nesting ≤ n := by
  have htable (n : Nat) :
      Gives (readTable : Reading ρ ε Blueprint) fun b => b.InBounds ∧ b.nesting ≤ n :=
    readTable_gives.imp fun b hb => ⟨hb.1, by omega⟩
  induction n with
  | zero => exact htable 0
  | succ n ih =>
    refine (Gives.always (ratio 3 5)).bind fun leaf _ => ?_
    cases leaf with
    | true => exact htable (n + 1)
    | false =>
      refine ih.bind fun left hleft => (Gives.always joinKind).bind fun kind _ => ?_
      refine ih.bind fun right hright => (Gives.always _).bind fun on _ => ?_
      refine (readNamesUpTo_gives 3).bind fun columns hcolumns => ?_
      refine (Gives.always bool).bind fun natural _ => (Gives.always _).bind fun alias? _ => .pure ?_
      refine ⟨⟨hleft.1, hright.1, hcolumns⟩, ?_⟩
      rw [nesting]
      omega

theorem decode_gives {bytes : List UInt8} {b : Blueprint} (h : decode ρ bytes = .ok b) :
    b.InBounds ∧ b.nesting ≤ 6 := by
  rw [decode, StateT.run'_eq] at h
  cases hrun : (read maxNesting).run (start bytes : ρ) with
  | error e =>
    rw [hrun] at h
    cases h
  | ok found =>
    rw [hrun] at h
    cases h
    exact read_gives 6 (start bytes : ρ) found.1 found.2 hrun

end

end Blueprint

/-! ## Heights -/

namespace Outline

variable {α : Type}

theorem heightEach_append (as bs : List (Outline α)) :
    heightEach (as ++ bs) = max (heightEach as) (heightEach bs) := by
  induction as with
  | nil => simp [heightEach]
  | cons a as ih => simp only [List.cons_append, heightEach, ih, Nat.max_assoc]

theorem heightEach_le {cs : List (Outline α)} {n : Nat} (h : ∀ c ∈ cs, c.height < n) :
    heightEach cs ≤ n := by
  induction cs with
  | nil => simp [heightEach]
  | cons c cs ih =>
    have hc := h c List.mem_cons_self
    have hcs := ih fun d hd => h d (List.mem_cons_of_mem _ hd)
    rw [heightEach]
    omega

end Outline

/-- The number of levels below an expression. -/
def Expr.levels : Expr → Nat
  | identifier _ _ | literal _ _ => 0
  | property _ owner _ => owner.levels + 1
  | binary _ left _ right => max left.levels right.levels + 1

/-- The number of levels that an expression in a slot takes below the node with the slot. -/
def slotLevels : Option Expr → Nat
  | none => 0
  | some e => e.levels + 1

namespace Expr

theorem height_outline (e : Expr) : (outline (δ := δ) (ε := ε) e).height = e.levels := by
  induction e with
  | identifier | literal => rfl
  | property i owner name ih => simp [outline, Outline.height, Outline.heightEach, levels, ih]
  | binary i left op right ihl ihr =>
    simp [outline, Outline.height, Outline.heightEach, levels, ihl, ihr]

theorem levels_adopt (owner : NodeId) (e : Expr) : (adopt owner e).levels = e.levels := by
  cases e <;> rfl

theorem heightEach_slot (e : Option Expr) :
    Outline.heightEach (outlineSlot (outline (δ := δ) (ε := ε)) e) = slotLevels e := by
  cases e with
  | none => rfl
  | some e => simp [outlineSlot, Outline.heightEach, height_outline, slotLevels]

theorem slotLevels_adopt (owner : NodeId) (e : Option Expr) :
    slotLevels (e.map (adopt owner)) = slotLevels e := by
  cases e with
  | none => rfl
  | some e => simp [slotLevels, levels_adopt]

theorem foldlM_newProperty_levels (rest : List String) (e : Expr) :
    Returns (rest.foldlM newProperty e) fun e' => e'.levels = e.levels + rest.length := by
  induction rest generalizing e with
  | nil => exact .pure rfl
  | cons name rest ih =>
    have hstep : Returns (newProperty e name) fun e' => e'.levels = e.levels + 1 := fun s =>
      congrArg (· + 1) (levels_adopt (newInfo s).1.id e)
    rw [List.foldlM_cons]
    refine hstep.bind fun e' he' s => ?_
    rw [ih e' s, he', List.length_cons]
    omega

theorem newPath?_levels (path : List String) :
    Returns (newPath? path) fun e => slotLevels e = path.length := by
  cases path with
  | nil => exact .pure rfl
  | cons name rest =>
    have hfirst : Returns (newIdentifier name) fun e => e.levels = 0 := fun _ => rfl
    refine hfirst.bind fun e he => (foldlM_newProperty_levels rest e).bind fun e' he' => .pure ?_
    rw [slotLevels, he', he, Nat.zero_add, List.length_cons]

/-- Columns and partitions are names, which have nothing below them. -/
theorem heightEach_names {es : List Expr} (h : ∀ e ∈ es, e.levels = 0) :
    Outline.heightEach (es.map (outline (δ := δ) (ε := ε))) ≤ 1 := by
  refine Outline.heightEach_le fun c hc => ?_
  obtain ⟨e, he, rfl⟩ := List.mem_map.mp hc
  rw [height_outline, h e he]
  exact Nat.one_pos

end Expr

theorem TableSource.height_adopt (owner : NodeId) (s : TableSource δ) :
    (outline (ε := ε) (adopt owner s)).height = (outline (ε := ε) s).height := by
  rcases s with _ | ⟨_, _, _, _, _, _, _⟩ | _ <;> rfl

theorem TableRef.height_outline (t : TableRef) (h : ∀ e ∈ t.partitions, e.levels = 0)
    (hslot : 1 ≤ slotLevels t.expr) :
    (outline (δ := δ) (ε := ε) t).height = slotLevels t.expr := by
  have hpartitions := Expr.heightEach_names (δ := δ) (ε := ε) h
  rw [outline, Outline.height, Outline.heightEach_append, Expr.heightEach_slot]
  omega

theorem TableSource.height_join {j : JoinSource δ} {l r : TableSource δ} (hl : j.left = some l)
    (hr : j.right = some r) (h : ∀ e ∈ j.columns, e.levels = 0) :
    (outline (ε := ε) (join j)).height =
      max (max (outline (ε := ε) l).height (outline (ε := ε) r).height + 1)
        (slotLevels j.condition) := by
  have hcolumns := Expr.heightEach_names (δ := δ) (ε := ε) h
  change (JoinSource.outline j).height = _
  rw [JoinSource.outline_eq, hl, hr, Outline.height, Outline.heightEach_append,
    Outline.heightEach_append, Outline.heightEach_append, Expr.heightEach_slot]
  simp only [outlineSlot, Option.map_some, Option.toList_some, Outline.heightEach]
  omega

namespace Blueprint

/-- The number of levels below what is built: under a table there is its path, under a join there
are its sides and its condition. -/
def height : Blueprint → Nat
  | table path _ _ _ _ => path.length
  | join left _ right on _ _ _ =>
    max (max left.height right.height + 1) (if on.isSome then 2 else 0)

theorem names_levels (names : List String) :
    Returns (names.mapM Expr.newIdentifier) fun es => ∀ e ∈ es, e.levels = 0 := by
  induction names with
  | nil => exact .pure (by simp)
  | cons name names ih =>
    have hname : Returns (Expr.newIdentifier name) fun e => e.levels = 0 := fun _ => rfl
    rw [List.mapM_cons]
    refine hname.bind fun e he => ih.bind fun es hes => .pure ?_
    exact List.forall_mem_cons.mpr ⟨he, hes⟩

theorem levels_map_adopt {es : List Expr} (h : ∀ e ∈ es, e.levels = 0) (owner : NodeId) :
    ∀ e ∈ es.map (adopt owner), e.levels = 0 := by
  intro e he
  obtain ⟨e, hmem, rfl⟩ := List.mem_map.mp he
  rw [Expr.levels_adopt, h e hmem]

theorem buildTable_levels (e : Expr) (alias? : Option String) (partitions hints : List String)
    (flashback : Option Int64) : Returns (buildTable e alias? partitions hints flashback) fun t =>
      slotLevels t.expr = e.levels + 1 ∧ ∀ p ∈ t.partitions, p.levels = 0 := by
  have hnew : Returns (TableRef.new e) fun t =>
      slotLevels t.expr = e.levels + 1 ∧ t.partitions = [] := fun s =>
    ⟨Expr.slotLevels_adopt _ (some e), rfl⟩
  refine hnew.bind fun t ht => (names_levels partitions).bind fun es hes => ?_
  refine (Returns.always _).bind fun xs _ => ?_
  have hfolded : slotLevels (es.foldl TableRef.addPartition t).expr = e.levels + 1 ∧
      ∀ p ∈ (es.foldl TableRef.addPartition t).partitions, p.levels = 0 := by
    rw [TableRef.foldl_addPartition, ht.2, List.nil_append]
    exact ⟨ht.1, levels_map_adopt hes _⟩
  cases flashback with
  | none => exact .pure hfolded
  | some n => exact (Returns.always _).bind fun f _ => .pure hfolded

theorem buildCondition_levels (on : Option (String × String)) :
    Returns (buildCondition on) fun e => slotLevels e = if on.isSome then 2 else 0 := by
  cases on with
  | none => exact .pure rfl
  | some names => exact fun _ => rfl

theorem build_height (b : Blueprint) :
    Returns b.build fun s : TableSource δ => (s.outline (ε := ε)).height = b.height := by
  induction b with
  | table path alias? partitions hints flashback =>
    refine (Expr.newPath?_levels path).bind fun e he => ?_
    cases e with
    | none =>
      have hempty : Returns TableRef.empty fun t => t.expr = none ∧ t.partitions = [] :=
        fun _ => ⟨rfl, rfl⟩
      refine hempty.bind fun t ht => .pure ?_
      simpa [TableSource.outline, TableRef.outline, ht, outlineSlot, Outline.height,
        Outline.heightEach, height, slotLevels] using he
    | some e =>
      refine (buildTable_levels e alias? partitions hints flashback).bind fun t ht => .pure ?_
      rw [TableSource.outline, TableRef.height_outline t ht.2 (by omega), ht.1]
      exact he
  | join left kind right on columns natural alias? ihl ihr =>
    refine (buildCondition_levels on).bind fun c hc => ihl.bind fun l hl => ihr.bind fun r hr => ?_
    have hnew : Returns (Join.new l kind r c) fun j =>
        j.left = some (adopt (nodeId j) l) ∧ j.right = some (adopt (nodeId j) r) ∧
          j.condition = c.map (adopt (nodeId j)) ∧ j.columns = [] :=
      fun _ => ⟨rfl, rfl, rfl, rfl⟩
    refine hnew.bind fun j hj => (names_levels columns).bind fun es hes => .pure ?_
    obtain ⟨hleft, hright, hcondition, hcolumns⟩ := hj
    rw [Join.foldl_addColumn, hcolumns, List.nil_append]
    refine (TableSource.height_join (l := adopt (nodeId j) l) (r := adopt (nodeId j) r) ?_ ?_
      ?_).trans ?_
    · exact hleft
    · exact hright
    · exact levels_map_adopt hes (nodeId j)
    · have hslot : slotLevels j.condition = if on.isSome then 2 else 0 := by
        rw [hcondition, Expr.slotLevels_adopt, hc]
      rw [TableSource.height_adopt, TableSource.height_adopt, hl, hr, height]
      exact congrArg _ hslot

theorem InBounds.height_le {b : Blueprint} (h : b.InBounds) : b.height ≤ b.nesting + 3 := by
  induction b with
  | table path _ _ _ _ => exact h.2.1
  | join left _ right on _ _ _ ihl ihr =>
    have hl := ihl h.1
    have hr := ihr h.2.1
    rw [height, nesting]
    split <;> omega

/-- Whatever the bytes and the reader, a blueprint read from them nests at most six joins and keeps
to the bounds of its lists, and what is built from it is at most nine levels high. So the audit of
the bytes passes, also where no blueprint is read. -/
theorem decoded_in_bounds {ρ : Type} [ChoiceReader ρ ε] [LawfulChoiceReader ρ] [SourceDialect δ]
    {η : Type} [DecidableEq η] (digest : List Word → η) (bytes : List UInt8) (u : Supply) :
    (∀ b, decode ρ bytes = .ok b → b.nesting ≤ 6 ∧ b.InBounds ∧
      (Node.source (ε := Empty) ((b.build : Fresh (TableSource δ)) u).1).outline.height ≤ 9) ∧
    ((auditBytes (δ := δ) ρ digest bytes).run u).1 = .ok () := by
  have hheight (b : Blueprint) (hb : decode ρ bytes = .ok b) :
      (Node.source (ε := Empty) ((b.build : Fresh (TableSource δ)) u).1).outline.height ≤ 9 := by
    obtain ⟨hbounds, hnesting⟩ := decode_gives hb
    have hbuilt : (((b.build : Fresh (TableSource δ)) u).1.outline (ε := Empty)).height = b.height :=
      b.build_height u
    have hle := hbounds.height_le
    change (((b.build : Fresh (TableSource δ)) u).1.outline (ε := Empty)).height ≤ 9
    omega
  refine ⟨fun b hb => ⟨(decode_gives hb).2, (decode_gives hb).1, hheight b hb⟩, ?_⟩
  cases hb : decode ρ bytes with
  | error e =>
    rw [auditBytes, hb]
    rfl
  | ok b =>
    obtain ⟨-, hnesting⟩ := decode_gives hb
    have hverdict := auditWith_eq digest (b.build_frames (δ := δ) u) (b.build_grown u)
    rw [if_pos (by omega), if_pos (Nat.le_trans (hheight b hb) (by decide))] at hverdict
    rw [auditBytes, hb]
    exact hverdict

/-- The bytes choose six joins, each below the one before, and a table with three segments below the
innermost: nothing that is read nests more joins or is built higher. -/
theorem decoded_in_bounds_deepest :
    let bytes : List UInt8 := [3, 3, 3, 3, 3, 3, 2]
    LawfulChoiceReader (List UInt8) ∧
      (∃ b, decode (List UInt8) bytes = .ok b ∧ b.nesting = 6 ∧ b.InBounds ∧ b.height = 9 ∧
        (Node.source (ε := Empty)
          ((b.build : Fresh (TableSource SourceKind)) .counting).1).outline.height ≤ 9) ∧
      ((auditBytes (δ := SourceKind) (List UInt8) id bytes).run .counting).1 = Except.ok () := by
  intro bytes
  obtain ⟨hread, hpasses⟩ :=
    decoded_in_bounds (δ := SourceKind) (ρ := List UInt8) id bytes .counting
  have hsizes : (decode (List UInt8) bytes).toOption.map (fun b => (b.nesting, b.height)) =
      some (6, 9) := by
    decide +kernel
  refine ⟨inferInstance, ?_, hpasses⟩
  cases hb : decode (List UInt8) bytes with
  | error e =>
    rw [hb] at hsizes
    cases hsizes
  | ok b =>
    rw [hb] at hsizes
    obtain ⟨hnesting, hheight⟩ := Prod.mk.inj (Option.some.inj hsizes)
    exact ⟨b, rfl, hnesting, (hread b hb).2.1, hheight, (hread b hb).2.2⟩

end Blueprint

end SqlTree
