import SqlTree.Proofs.Editing

/-! # Links and identities over whole runs

A run works on a set of live trees. Each step makes a node, changes one, copies one, turns one into
a source or an element and back, or drops one; it consumes the nodes that it is given. In every
state that a run can reach, all identities are different and every link is right. -/

namespace SqlTree

open Family

variable {δ ε : Type}

/-! ## The operations -/

/-- The constructors of every kind of node, with the nodes that they are given. -/
inductive Construction (δ ε : Type)
  | identifier (name : String)
  | property (owner : Expr) (name : String)
  | path (segments : List String)
  | literal (value : Value)
  | binary (left : Expr) (op : BinaryOperator) (right : Expr)
  | dataType (name : String)
  | hint (text : String)
  | select (text : String)
  | emptyTable
  | table (e : Expr)
  | emptyJoin
  | join (left : TableSource δ) (kind : JoinKind) (right : TableSource δ) (condition : Option Expr)
  | dialectSource (kind : δ) (parts : List Expr)
  | column (name : Expr)
  | unique (columns : List Expr) (primaryKey : Bool)
  | index (name : Expr) (columns : List Expr)
  | check (e : Expr)
  | dialectElement (kind : ε) (parts inner : List Expr)
  | create (dbType : Option String)
  | parameter

namespace Construction

def given : Construction δ ε → List (Node δ ε)
  | property e _ | table e | column e | check e => [.expr e]
  | binary l _ r => [.expr l, .expr r]
  | join l _ r c => [.source l, .source r] ++ (c.map .expr).toList
  | dialectSource _ es | unique es _ => es.map .expr
  | dialectElement _ es inner => (inner ++ es).map .expr
  | index e es => .expr e :: es.map .expr
  | _ => []

/-- What is built: one node, or none from a path without segments. -/
def build : Construction δ ε → Fresh (List (Node δ ε))
  | identifier name => do return [.expr (← Expr.newIdentifier name)]
  | property owner name => do return [.expr (← Expr.newProperty owner name)]
  | path segments => do return ((← Expr.newPath? segments).map .expr).toList
  | literal value => do return [.expr (← Expr.newLiteral value)]
  | binary left op right => do return [.expr (← Expr.newBinary left op right)]
  | dataType name => do return [.dataType (← DataType.new name)]
  | hint text => do return [.hint (← Hint.new text)]
  | select text => do return [.select (← Select.new text)]
  | emptyTable => do return [.table (← TableRef.empty)]
  | table e => do return [.table (← TableRef.new e)]
  | emptyJoin => do return [.join (← Join.empty)]
  | join left kind right condition => do return [.join (← Join.new left kind right condition)]
  | dialectSource kind parts => do return [.source (← TableSource.newDialect kind parts)]
  | column name => do return [.column (← Column.new name)]
  | unique columns primaryKey => do return [.unique (← UniqueKey.new columns primaryKey)]
  | index name columns => do return [.index (← TableIndex.new name columns)]
  | check e => do return [.check (← Check.new e)]
  | dialectElement kind parts inner => do
    return [.element (← TableElement.newDialect kind parts inner)]
  | create dbType => do return [.create (← CreateTable.new dbType)]
  | parameter => do return [.parameter (← Parameter.empty)]

end Construction

inductive Change (δ ε : Type)
  | edit (e : Edit δ ε)
  | replace (id : NodeId) (target : Expr)
  | replaceFlashback (id : NodeId) (target : Expr)
  | setAttributes (b : Attributes)

namespace Change

def given : Change δ ε → List (Node δ ε)
  | edit e => e.given
  | replace _ target | replaceFlashback _ target => [.expr target]
  | setAttributes _ => []

/-- The changed node and the nodes that are handed back; none if the node does not take the
change. -/
def apply (n : Node δ ε) : Change δ ε → Fresh (Option (Node δ ε × List (Node δ ε)))
  | edit e => do return (← n.edit e).map fun (n, back) => (n, back.toList)
  | replace id target => return (n.replace? id target).map fun (n, r) => (n, [.expr r.inner])
  | replaceFlashback id target =>
    return (n.replaceFlashback? id target).map fun (n, r) => (n, [.expr r.inner])
  | setAttributes b => return some (SqlTree.setAttributes b n, [])

end Change

/-- The node inside a source or an element. -/
def Node.inner : Node δ ε → Node δ ε
  | source (.table t) => table t
  | source (.join j) => join j
  | element e => e.toNode
  | n => n

/-- The operations. Copies only look at a node. -/
inductive Action (δ ε : Type)
  | make (c : Construction δ ε)
  | change (n : Node δ ε) (focus : Node.Focus) (c : Change δ ε)
  | clone (n : Node δ ε) (limit : Nat)
  | toSource (n : Node δ ε)
  | toElement (n : Node δ ε)
  | toInner (n : Node δ ε)
  | drop (n : Node δ ε)

namespace Action

/-- The nodes that an operation consumes. -/
def taken : Action δ ε → List (Node δ ε)
  | make c => c.given
  | change n _ c => n :: c.given
  | clone _ _ => []
  | toSource n | toElement n | toInner n | drop n => [n]

/-- The nodes that an operation leaves behind; none if it does not apply. A copy that fails leaves
nothing. -/
def perform [SourceDialect δ] : Action δ ε → Fresh (Option (List (Node δ ε)))
  | make c => do return some (← c.build)
  | change n focus c =>
    match n.part? focus with
    | none => return none
    | some part => do return (← c.apply part).map fun (part, back) => part.setPart focus n :: back
  | clone n limit =>
    match n.tryClone? limit with
    | none => return none
    | some copy => do return some ((← copy.run).toOption.toList)
  | toSource n => return n.source?.map fun s => [.source s]
  | toElement n => return n.element?.map fun e => [.element e]
  | toInner n => return some [n.inner]
  | drop _ => return some []

end Action

/-! ## Runs -/

/-- The live trees and the supply of identities. -/
structure World (δ ε : Type) where
  live : List (Node δ ε)
  supply : Supply

/-- The worlds that runs lead to. A run starts without any trees. -/
inductive Reachable [SourceDialect δ] (start : Supply) : World δ ε → Prop
  | start : Reachable start ⟨[], start⟩
  | step {w : World δ ε} (a : Action δ ε) (rest : List (Node δ ε)) {result : List (Node δ ε)}
    {s : Supply} : Reachable start w → w.live.Perm (a.taken ++ rest) →
    a.perform w.supply = (some result, s) → Reachable start ⟨result ++ rest, s⟩

/-! ## What one operation does -/

theorem Makes.wrap {T : Attributes → Prop} {α : Type} [HasInfo α] [HasFamily α] {x : Fresh α}
    {given : List Family} (wrap : α → Node δ ε) (hwrap : ∀ a, family (wrap a) = family a)
    (hx : Makes T x given fun a => [family a]) :
    Makes T (x >>= fun a => Pure.pure [wrap a]) given (List.map family) := by
  refine hx.bind fun a => ?_
  rw [← hwrap a]
  exact .pure [wrap a] (List.map family)

theorem Construction.build_makes (c : Construction δ ε) :
    Makes AnyAttributes c.build (c.given.map family) (List.map family) := by
  have hempty : AnyAttributes .empty := trivial
  have hexprs (es : List Expr) : (es.map (Node.expr (δ := δ) (ε := ε))).map family = es.map family :=
    List.map_map
  cases c with
  | identifier name => exact .wrap .expr (fun _ => rfl) (Expr.newIdentifier_makes hempty name)
  | property owner name =>
    exact .wrap .expr (fun _ => rfl) (Expr.newProperty_makes hempty owner name)
  | path segments =>
    refine (Expr.newPath?_makes hempty segments).bind fun e => ?_
    rw [← families_slot (δ := δ) (ε := ε) .expr fun _ => rfl]
    exact .pure _ (List.map family)
  | literal value => exact .wrap .expr (fun _ => rfl) (Expr.newLiteral_makes hempty value)
  | binary left op right =>
    exact .wrap .expr (fun _ => rfl) (Expr.newBinary_makes hempty left op right)
  | dataType name => exact .wrap .dataType (fun _ => rfl) (DataType.new_makes hempty name)
  | hint text => exact .wrap .hint (fun _ => rfl) (Hint.new_makes hempty text)
  | select text => exact .wrap .select (fun _ => rfl) (Select.new_makes hempty text)
  | emptyTable => exact .wrap .table (fun _ => rfl) (TableRef.empty_makes hempty)
  | table e => exact .wrap .table (fun _ => rfl) (TableRef.new_makes hempty e)
  | emptyJoin => exact .wrap .join (fun _ => rfl) (Join.empty_makes hempty)
  | join left kind right condition =>
    have hjoin := Join.new_makes hempty left kind right condition
    rw [← families_slot (δ := δ) (ε := ε) .expr fun _ => rfl] at hjoin
    exact .wrap .join (fun _ => rfl) hjoin
  | dialectSource kind parts =>
    rw [given, hexprs]
    exact .wrap .source (fun _ => rfl) (TableSource.newDialect_makes hempty kind parts)
  | column name => exact .wrap .column (fun _ => rfl) (Column.new_makes hempty name)
  | unique columns primaryKey =>
    rw [given, hexprs]
    exact .wrap .unique (fun _ => rfl) (UniqueKey.new_makes hempty columns primaryKey)
  | index name columns =>
    rw [given, List.map_cons, hexprs]
    exact .wrap .index (fun _ => rfl) (TableIndex.new_makes hempty name columns)
  | check e => exact .wrap .check (fun _ => rfl) (Check.new_makes hempty e)
  | dialectElement kind parts inner =>
    rw [given, hexprs]
    exact .wrap .element (fun _ => rfl) (TableElement.newDialect_makes hempty kind parts inner)
  | create dbType => exact .wrap .create (fun _ => rfl) (CreateTable.new_makes hempty dbType)
  | parameter => exact .wrap .parameter (fun _ => rfl) (Parameter.empty_makes hempty)

theorem Change.apply_works {c : Change δ ε} {n n' : Node δ ε} {back : List (Node δ ε)}
    {s s' : Supply} (h : c.apply n s = (some (n', back), s')) :
    Works AnyAttributes s s' (family n) (c.given.map family) (family n') (back.map family) := by
  cases c with
  | edit e =>
    obtain ⟨hmap, rfl⟩ := Prod.mk.inj h
    obtain ⟨⟨n₁, back₁⟩, hedit, heq⟩ := Option.map_eq_some_iff.mp hmap
    cases heq
    exact Node.edit_works (Prod.ext hedit rfl)
  | replace id target =>
    obtain ⟨hmap, rfl⟩ := Prod.mk.inj h
    obtain ⟨⟨n₁, r⟩, hreplace, heq⟩ := Option.map_eq_some_iff.mp hmap
    cases heq
    exact (Node.replace?_exchange hreplace).works s
  | replaceFlashback id target =>
    obtain ⟨hmap, rfl⟩ := Prod.mk.inj h
    obtain ⟨⟨n₁, r⟩, hreplace, heq⟩ := Option.map_eq_some_iff.mp hmap
    cases heq
    exact (Node.replaceFlashback?_exchange hreplace).works s
  | setAttributes b =>
    obtain ⟨hset, rfl⟩ := Prod.mk.inj h
    cases hset
    exact (setAttributes_exchange n b).works s

/-- The kinds of node that stand at a focus. -/
def Node.fits : Node.Focus → Node δ ε → Bool
  | .whole, _ => true
  | .element _, n => n.element?.isSome
  | .join, join _ => true
  | .join, _ => false

theorem Node.fits_part? {f : Node.Focus} {n part : Node δ ε} (h : n.part? f = some part) :
    part.fits f = true := by
  unfold Node.part? at h
  split at h
  · rfl
  · obtain ⟨e, -, rfl⟩ := Option.map_eq_some_iff.mp h
    cases e <;> rfl
  · cases h; rfl
  · cases h

theorem Node.fits_edit {e : Edit δ ε} {n n' : Node δ ε} {back : Handback δ ε} {s : Supply}
    (h : (n.edit e s).1 = some (n', back)) (f : Node.Focus) : n'.fits f = n.fits f := by
  cases n with
  | dataType _ | table _ | join _ | source _ | create _ | column _ | unique _ | index _ | check _
  | parameter _ =>
    obtain ⟨_, -, heq⟩ := Option.map_eq_some_iff.mp h
    cases heq
    cases f <;> rfl
  | expr _ | hint _ | select _ | element _ => cases h

theorem Node.fits_replace? {n n' : Node δ ε} {id : NodeId} {target : Expr} {r : Replacement}
    (h : n.replace? id target = some (n', r) ∨ n.replaceFlashback? id target = some (n', r))
    (f : Node.Focus) : n'.fits f = n.fits f := by
  cases n with
  | table _ | join _ | source _ => rcases h with h | h <;> cases h <;> cases f <;> rfl
  | expr _ | dataType _ | hint _ | select _ | create _ | column _ | unique _ | index _ | check _
  | element _ | parameter _ => rcases h with h | h <;> cases h

theorem Change.fits_apply {c : Change δ ε} {n n' : Node δ ε} {back : List (Node δ ε)}
    {s s' : Supply} (h : c.apply n s = (some (n', back), s')) (f : Node.Focus) :
    n'.fits f = n.fits f := by
  obtain ⟨happly, -⟩ := Prod.mk.inj h
  cases c with
  | edit e =>
    obtain ⟨_, hedit, heq⟩ := Option.map_eq_some_iff.mp happly
    cases heq
    exact Node.fits_edit hedit f
  | replace id target =>
    obtain ⟨_, hreplace, heq⟩ := Option.map_eq_some_iff.mp happly
    cases heq
    exact Node.fits_replace? (.inl hreplace) f
  | replaceFlashback id target =>
    obtain ⟨_, hreplace, heq⟩ := Option.map_eq_some_iff.mp happly
    cases heq
    exact Node.fits_replace? (.inr hreplace) f
  | setAttributes b =>
    cases happly
    cases n with
    | element e => cases e <;> cases f <;> rfl
    | expr _ | dataType _ | hint _ | select _ | table _ | join _ | source _ | create _ | column _
    | unique _ | index _ | check _ | parameter _ => cases f <;> rfl

theorem Node.setPart_works {T : Attributes → Prop} {f : Node.Focus} {n part part' : Node δ ε}
    {s s' : Supply} {given back : List Family} (hpart : n.part? f = some part)
    (hfits : part'.fits f = true) (h : Works T s s' (family part) given (family part') back) :
    Works T s s' (family n) given (family (part'.setPart f n)) back := by
  obtain ⟨made, hmade, he⟩ := h
  refine ⟨made, hmade, ?_⟩
  unfold Node.part? at hpart
  split at hpart
  · cases hpart
    exact he
  · rename_i i c
    obtain ⟨a, ha, rfl⟩ := Option.map_eq_some_iff.mp hpart
    obtain ⟨b, hb⟩ := Option.isSome_iff_exists.mp hfits
    rw [family_toNode, ← family_element? hb] at he
    simp only [Node.setPart, hb]
    exact c.putElement_exchange ha he
  · rename_i j
    cases hpart
    cases part' with
    | join j' =>
      have hbefore : family (Node.source (ε := ε) (.join j)) = family j := TableSource.family_join j
      have hafter : family (Node.source (ε := ε) (.join j')) = family j' := TableSource.family_join j'
      change Exchange T (family (Node.source (ε := ε) (.join j))) made
        (family (Node.source (ε := ε) (.join j'))) back
      rw [hbefore, hafter]
      exact he
    | expr _ | dataType _ | hint _ | select _ | table _ | source _ | create _ | column _ | unique _
    | index _ | check _ | element _ | parameter _ => cases hfits
  · cases hpart

theorem Node.family_inner (n : Node δ ε) : family n.inner = family n := by
  unfold Node.inner
  split
  · rfl
  · exact (TableSource.family_join _).symm
  · exact family_toNode _
  · rfl

/-- An operation turns the families of the nodes that it consumes into those of the nodes that it
leaves behind. -/
theorem Action.perform_grown [SourceDialect δ] {a : Action δ ε} {r s s' : Supply}
    {result : List (Node δ ε)} {rest : List Family} (h : a.perform s = (some result, s'))
    (hg : Grown AnyAttributes r s (a.taken.map family ++ rest)) :
    Grown AnyAttributes r s' (result.map family ++ rest) := by
  cases a with
  | make c =>
    obtain ⟨hbuild, rfl⟩ := Prod.mk.inj h
    cases hbuild
    exact c.build_makes r s rest hg
  | change n f c =>
    cases hpart : n.part? f with
    | none =>
      rw [perform, hpart] at h
      cases h
    | some part =>
      rw [perform, hpart] at h
      obtain ⟨hmap, rfl⟩ := Prod.mk.inj h
      obtain ⟨⟨part', back⟩, happly, heq⟩ := Option.map_eq_some_iff.mp hmap
      cases heq
      have hchange : c.apply part s = (some (part', back), (c.apply part s).2) := Prod.ext happly rfl
      -- Only a part of the same kind can be put back in its place.
      have hfits := (Change.fits_apply hchange f).trans (Node.fits_part? hpart)
      exact (Node.setPart_works hpart hfits (Change.apply_works hchange)).grown hg
  | clone n limit =>
    cases hcopy : n.tryClone? limit with
    | none =>
      rw [perform, hcopy] at h
      cases h
    | some copy =>
      rw [perform, hcopy] at h
      obtain ⟨hresult, rfl⟩ := Prod.mk.inj h
      have hmade := Node.tryClone?_tries (T := AnyAttributes) trivial hcopy r s rest hg
      have hlist (x : Except TreeError (Node δ ε)) :
          madeIfOk (fun c => [family c]) x = x.toOption.toList.map family := by
        cases x <;> rfl
      rw [hlist] at hmade
      cases hresult
      exact hmade
  | toSource n =>
    obtain ⟨hmap, rfl⟩ := Prod.mk.inj h
    obtain ⟨x, hx, rfl⟩ := Option.map_eq_some_iff.mp hmap
    have hfamily : family (Node.source (ε := ε) x) = family n := family_source? hx
    rwa [List.map_singleton, hfamily]
  | toElement n =>
    obtain ⟨hmap, rfl⟩ := Prod.mk.inj h
    obtain ⟨x, hx, rfl⟩ := Option.map_eq_some_iff.mp hmap
    have hfamily : family (Node.element (δ := δ) x) = family n := family_element? hx
    rwa [List.map_singleton, hfamily]
  | toInner n =>
    cases h
    rwa [List.map_singleton, n.family_inner]
  | drop n =>
    cases h
    exact hg.drop

/-! ## What a run keeps -/

theorem Reachable.grown [SourceDialect δ] {start : Supply} {w : World δ ε} (h : Reachable start w) :
    Grown AnyAttributes start w.supply (w.live.map family) := by
  induction h with
  | start => exact .nil ⟨rfl, Nat.le_refl _⟩
  | step _ _ _ hperm hperform ih =>
    rw [List.map_append]
    refine Action.perform_grown hperform (ih.perm ?_)
    rw [← List.map_append]
    exact (hperm.map family).symm

/-- In every state that a run can reach, the nodes of all live trees have different identities,
every owned node names its owner, and every root names none. -/
theorem reachable_links [SourceDialect δ] {start : Supply} {w : World δ ε}
    (h : Reachable start w) :
    (w.live.flatMap fun n => (family n).ids).Nodup ∧
      (∀ n ∈ w.live, ∀ m ∈ (family n).members, ∀ c ∈ m.owned, c.info.parent = some m.info.id) ∧
      ∀ n ∈ w.live, parent? n = none := by
  have hgrown := h.grown
  refine ⟨?_, fun n hn m hm c hc => ?_, fun n hn => ?_⟩
  · have hdistinct := hgrown.distinct
    rwa [List.flatMap_map] at hdistinct
  · obtain ⟨-, hlinked⟩ := hgrown.rooted _ (List.mem_map_of_mem hn)
    exact (hlinked m hm).1 c hc
  · obtain ⟨hparent, -⟩ := hgrown.rooted _ (List.mem_map_of_mem hn)
    rwa [HasFamily.family_info] at hparent

/-- A run that names a table, copies it and takes the name out again. -/
theorem reachable_links_renamed :
    ∃ w : World SourceKind ElementKind, Reachable .counting w ∧
      w.live.map (fun n => (family n).ids) = [[⟨2⟩], [⟨1⟩], [⟨3⟩, ⟨4⟩]] ∧
      (w.live.flatMap fun n => (family n).ids).Nodup ∧
      (∀ n ∈ w.live, ∀ m ∈ (family n).members, ∀ c ∈ m.owned, c.info.parent = some m.info.id) ∧
      ∀ n ∈ w.live, parent? n = none := by
  let name : Expr := .identifier { id := ⟨1⟩ } "t"
  let named : TableRef := { header := { info := { id := ⟨2⟩ } }, expr := some (adopt ⟨2⟩ name) }
  have hname : Reachable (δ := SourceKind) (ε := ElementKind) .counting _ :=
    .step (.make (.identifier "t")) [] .start (.refl _) rfl
  have hnamed := Reachable.step (.make (.table name)) [] hname (.refl _) rfl
  have hcopied := Reachable.step (.clone (.table named) 0) [.table named] hnamed (.refl _) rfl
  have hdone := Reachable.step (.change (.table named) .whole (.edit (.setExpr none))) _ hcopied
    (.swap _ _ _) rfl
  exact ⟨_, hdone, rfl, reachable_links hdone⟩

end SqlTree
