import Mathlib.Data.List.Basic
import SqlTree.Proofs.Nested
import SqlTree.Walk.Outline

/-! # What is walked below a node

`Node.walked` lists the children that a walk goes to, kind by kind and in their order. The outline
of a node is the node with the outlines of these children. -/

namespace SqlTree

variable {δ ε : Type}

/-! ## Outlines as trees -/

namespace Outline

variable {α : Type} {P : Outline α → Prop}

def info : Outline α → NodeInfo
  | node i _ _ => i

mutual

/-- What `f` gives for every node, the node before its children. -/
def gather {β : Type} (f : NodeInfo → α → List β) : Outline α → List β
  | node i a cs => f i a ++ gatherEach f cs

def gatherEach {β : Type} (f : NodeInfo → α → List β) : List (Outline α) → List β
  | [] => []
  | c :: cs => c.gather f ++ gatherEach f cs

end

/-- The identities of all nodes. -/
def ids (t : Outline α) : List NodeId := t.gather fun i _ => [i.id]

mutual

/-- The identities of all nodes but the root, each with that of its owner. -/
def links : Outline α → List (NodeId × NodeId)
  | node i _ cs => linksEach i.id cs

def linksEach (owner : NodeId) : List (Outline α) → List (NodeId × NodeId)
  | [] => []
  | c :: cs => (c.info.id, owner) :: (c.links ++ linksEach owner cs)

end

mutual

/-- The number of levels below the root. -/
def height : Outline α → Nat
  | node _ _ cs => heightEach cs

def heightEach : List (Outline α) → Nat
  | [] => 0
  | c :: cs => max (c.height + 1) (heightEach cs)

end

mutual

theorem nested_outline (h : ∀ i a cs, (∀ c ∈ cs, P c) → P (node i a cs)) : (t : Outline α) → P t
  | node i a cs => h i a cs (nested_children h cs)

theorem nested_children (h : ∀ i a cs, (∀ c ∈ cs, P c) → P (node i a cs)) :
    (cs : List (Outline α)) → ∀ c ∈ cs, P c
  | [] => by simp
  | c :: cs => by
    have hc := nested_outline h c
    have hcs := nested_children h cs
    intro d hd
    rcases List.mem_cons.mp hd with rfl | hd
    · exact hc
    · exact hcs d hd

end

@[elab_as_elim]
theorem nested (node : ∀ i a cs, (∀ c ∈ cs, P c) → P (node i a cs)) (t : Outline α) : P t :=
  nested_outline node t

theorem gatherEach_eq {β : Type} (f : NodeInfo → α → List β) (cs : List (Outline α)) :
    gatherEach f cs = cs.flatMap (gather f) := by
  induction cs with
  | nil => rfl
  | cons c cs ih => rw [gatherEach, ih, List.flatMap_cons]

theorem map_gather {β γ : Type} (f : NodeInfo → α → List β) (g : β → γ) (t : Outline α) :
    (t.gather f).map g = t.gather fun i a => (f i a).map g := by
  induction t using Outline.nested with
  | node i a cs ih =>
    rw [gather, gather, gatherEach_eq, gatherEach_eq, List.map_append, List.map_flatMap]
    exact congrArg _ (List.flatMap_congr ih)

theorem linksEach_eq (owner : NodeId) (cs : List (Outline α)) :
    linksEach owner cs = cs.flatMap fun c => (c.info.id, owner) :: c.links := by
  induction cs with
  | nil => rfl
  | cons c cs ih => simp [linksEach, ih]

theorem height_lt_heightEach {c : Outline α} {cs : List (Outline α)} (h : c ∈ cs) :
    c.height < heightEach cs := by
  induction cs with
  | nil => cases h
  | cons d cs ih =>
    rw [heightEach]
    rcases List.mem_cons.mp h with rfl | h
    · omega
    · have := ih h
      omega

theorem ids_eq (t : Outline α) : t.ids = t.info.id :: t.links.map Prod.fst := by
  induction t using Outline.nested with
  | node i a cs ih =>
    rw [ids, gather, gatherEach_eq, links, linksEach_eq, List.map_flatMap]
    refine congrArg (i.id :: ·) (List.flatMap_congr fun c hc => ?_)
    rw [List.map_cons, ← ih c hc, ids]

end Outline

/-! ## The walked children -/

namespace Node

/-- The node as a visitor is told of it. -/
def subject : Node δ ε → Subject δ ε
  | expr e => .expr e
  | dataType t => .dataType t
  | hint h => .hint h
  | select s => .select s
  | table t | source (.table t) => .table t
  | join j | source (.join j) => .join j
  | source (.dialect h kind parts) => .dialect h kind parts
  | create c => .create c
  | column c | element (.column c) => .column c
  | unique k | element (.unique k) => .unique k
  | index x | element (.index x) => .index x
  | check c | element (.check c) => .check c
  | element (.dialect i kind parts inner) => .dialectElement i kind parts inner
  | parameter p => .parameter p

/-- What is in a slot, as a node: one or none. -/
def ofSlot {α : Type} (wrap : α → Node δ ε) (slot : Option α) : List (Node δ ε) :=
  slot.toList.map wrap

/-- The children that are walked, in the order in which they are. -/
def walked : Node δ ε → List (Node δ ε)
  | expr (.identifier _ _) | expr (.literal _ _) => []
  | expr (.property _ owner _) => [expr owner]
  | expr (.binary _ left _ right) => [expr left, expr right]
  | dataType t => t.arguments.map expr
  | hint _ | select _ => []
  | table t | source (.table t) => ofSlot expr t.expr ++ t.partitions.map expr
  | join j | source (.join j) =>
    ofSlot source j.left ++ ofSlot source j.right ++ ofSlot expr j.condition ++ j.columns.map expr
  | source (.dialect _ _ parts) | element (.dialect _ _ parts _) => parts.map expr
  | create c =>
    ofSlot table c.source ++ c.elements.map element ++ ofSlot table c.inherits ++
      ofSlot select c.select
  | column c | element (.column c) =>
    expr c.name :: (ofSlot dataType c.dataType ++ ofSlot expr c.defaultValue)
  | unique k | element (.unique k) => ofSlot expr k.name ++ k.columns.map expr
  | index x | element (.index x) => expr x.name :: x.columns.map expr
  | check c | element (.check c) => ofSlot expr c.name ++ [expr c.expr]
  | parameter p =>
    ofSlot expr p.name ++ ofSlot dataType p.dataType ++ ofSlot expr p.defaultValue ++
      ofSlot expr p.cursor ++ p.parameters.map parameter

/-! ## Outlines of the walked children -/

theorem outline_ofSlot {α : Type} (f : α → Node δ ε) (slot : Option α) :
    (ofSlot f slot).map outline = outlineSlot (fun a => (f a).outline) slot := by
  cases slot <;> rfl

end Node

theorem TableSource.outlineSide_eq (s : Option (TableSource δ)) :
    outlineSide (ε := ε) s = outlineSlot outline s := by
  cases s <;> rfl

theorem JoinSource.outline_eq (j : JoinSource δ) :
    outline (ε := ε) j = .node j.header.info (.join j)
      (outlineSlot TableSource.outline j.left ++ outlineSlot TableSource.outline j.right ++
        outlineSlot Expr.outline j.condition ++ j.columns.map Expr.outline) := by
  obtain ⟨h, l, k, r, c, us, n⟩ := j
  simp only [outline, TableSource.outline, JoinSource.outlineAround, TableSource.outlineSide_eq]

theorem Parameter.outlineAll_eq (ps : List Parameter) :
    outlineAll (δ := δ) (ε := ε) ps = ps.map outline := by
  induction ps with
  | nil => rfl
  | cons p ps ih => rw [outlineAll, ih, List.map_cons]

theorem Parameter.outline_eq (p : Parameter) :
    p.outline = p.outlineAround (p.parameters.map (outline (δ := δ) (ε := ε))) := by
  obtain ⟨i, n, t, d, dir, nc, k, c, ps⟩ := p
  rw [outline, outlineAll_eq]

theorem Node.outline_eq (n : Node δ ε) :
    n.outline = .node (info n) n.subject (n.walked.map outline) := by
  have hjoin (j : JoinSource δ) : (join (ε := ε) j).outline =
      .node j.header.info (.join j) ((join (ε := ε) j).walked.map outline) := by
    simp only [outline, JoinSource.outline_eq, walked, List.map_append, List.map_map,
      outline_ofSlot]
    rfl
  cases n with
  | expr e => cases e <;> rfl
  | hint _ | select _ => rfl
  | join j => exact hjoin j
  | source s =>
    cases s with
    | join j => exact hjoin j
    | table _ | dialect _ _ _ =>
      simp only [walked, List.map_append, List.map_map, outline_ofSlot]
      rfl
  | element e =>
    cases e <;> simp only [walked, List.map_append, List.map_cons, List.map_map, outline_ofSlot] <;>
      rfl
  | parameter p =>
    simp only [outline, p.outline_eq, walked, List.map_append, List.map_map, outline_ofSlot]
    rfl
  | dataType _ | table _ | create _ | column _ | unique _ | index _ | check _ =>
    simp only [walked, List.map_append, List.map_cons, List.map_map, outline_ofSlot]
    rfl

/-- Every node follows from the nodes that are walked below it. -/
@[elab_as_elim]
theorem Node.walked_induction {P : Node δ ε → Prop} (node : ∀ n, (∀ c ∈ n.walked, P c) → P n)
    (n : Node δ ε) : P n := by
  have houtline (t : Outline (Subject δ ε)) : ∀ n, n.outline = t → P n := by
    induction t using Outline.nested with
    | node i a cs ih =>
      intro n hn
      rw [n.outline_eq, Outline.node.injEq] at hn
      obtain ⟨-, -, rfl⟩ := hn
      refine node n fun c hc => ih c.outline ?_ c rfl
      exact List.mem_map_of_mem hc
  exact houtline n.outline n rfl

/-! ## Below a node -/

namespace Node

theorem info_outline (n : Node δ ε) : n.outline.info = SqlTree.info n := by
  rw [outline_eq, Outline.info]

theorem gather_outline {β : Type} (f : NodeInfo → Subject δ ε → List β) (n : Node δ ε) :
    n.outline.gather f = f (info n) n.subject ++ n.walked.flatMap (·.outline.gather f) := by
  rw [outline_eq, Outline.gather, Outline.gatherEach_eq, List.flatMap_map]

theorem ids_outline (n : Node δ ε) :
    n.outline.ids = nodeId n :: n.walked.flatMap (·.outline.ids) :=
  n.gather_outline _

theorem links_outline (n : Node δ ε) :
    n.outline.links = n.walked.flatMap fun c => (nodeId c, nodeId n) :: c.outline.links := by
  rw [outline_eq, Outline.links, Outline.linksEach_eq, List.flatMap_map]
  simp only [info_outline]
  rfl

theorem height_walked {n c : Node δ ε} (h : c ∈ n.walked) :
    c.outline.height < n.outline.height := by
  rw [n.outline_eq, Outline.height]
  exact Outline.height_lt_heightEach (List.mem_map_of_mem h)

/-- `c` is walked below `r`, or is `r`; its owners up to `r` are `path`, the nearest one first. -/
inductive Under (r : Node δ ε) : Node δ ε → List NodeId → Prop
  | root : Under r r []
  | child {m c : Node δ ε} {path : List NodeId} :
    Under r m path → c ∈ m.walked → Under r c (nodeId m :: path)

theorem Under.above {r m c : Node δ ε} {path : List NodeId} (h : Under m c path)
    (hm : m ∈ r.walked) : Under r c (path ++ [nodeId r]) := by
  induction h with
  | root => exact .child .root hm
  | child _ hc ih => exact .child ih hc

theorem Under.owner {r c : Node δ ε} {path : List NodeId} (h : Under r c path) (hpath : path ≠ []) :
    ∃ m above, Under r m above ∧ c ∈ m.walked := by
  cases h with
  | root => exact absurd rfl hpath
  | child hm hc => exact ⟨_, _, hm, hc⟩

theorem mem_gather {β : Type} {f : NodeInfo → Subject δ ε → List β} {r : Node δ ε} {b : β}
    (h : b ∈ r.outline.gather f) : ∃ c path, Under r c path ∧ b ∈ f (info c) c.subject := by
  induction r using Node.walked_induction with
  | node r ih =>
    rw [gather_outline, List.mem_append, List.mem_flatMap] at h
    rcases h with h | ⟨c, hc, h⟩
    · exact ⟨r, [], .root, h⟩
    · obtain ⟨m, path, hm, hb⟩ := ih c hc h
      exact ⟨m, path ++ [nodeId r], hm.above hc, hb⟩

theorem Under.links_subset {r c : Node δ ε} {path : List NodeId} (h : Under r c path) :
    c.outline.links ⊆ r.outline.links := by
  induction h with
  | root => exact List.Subset.refl _
  | @child m c _ _ hc ih =>
    intro l hl
    apply ih
    rw [m.links_outline]
    exact List.mem_flatMap.mpr ⟨c, hc, List.mem_cons_of_mem _ hl⟩

theorem mem_links_iff {r : Node δ ε} {n p : NodeId} :
    (n, p) ∈ r.outline.links ↔ ∃ c path, Under r c (p :: path) ∧ nodeId c = n := by
  constructor
  · intro h
    induction r using Node.walked_induction with
    | node r ih =>
      rw [links_outline, List.mem_flatMap] at h
      obtain ⟨c, hc, hmem⟩ := h
      rcases List.mem_cons.mp hmem with heq | hmem
      · obtain ⟨rfl, rfl⟩ := Prod.mk.inj heq
        exact ⟨c, [], .child .root hc, rfl⟩
      · obtain ⟨e, path, he, hid⟩ := ih c hc hmem
        exact ⟨e, path ++ [nodeId r], he.above hc, hid⟩
  · rintro ⟨c, path, h, rfl⟩
    cases h with
    | @child m _ _ hm hc =>
      apply hm.links_subset
      rw [m.links_outline]
      exact List.mem_flatMap.mpr ⟨c, hc, List.mem_cons_self⟩

/-- In the order of a walk, the owners of a node come before it, the root first. -/
theorem Under.ids_split {r c : Node δ ε} {path : List NodeId} (h : Under r c path) :
    ∃ before after, r.outline.ids = before ++ c.outline.ids ++ after ∧
      path.reverse.Sublist before := by
  induction h with
  | root => exact ⟨[], [], by simp, .refl _⟩
  | @child m c path _ hc ih =>
    obtain ⟨before, after, hids, hpath⟩ := ih
    obtain ⟨cs, ds, hsplit⟩ := List.append_of_mem hc
    refine ⟨before ++ nodeId m :: cs.flatMap (·.outline.ids),
      ds.flatMap (·.outline.ids) ++ after, ?_, ?_⟩
    · rw [hids, m.ids_outline, hsplit]
      simp
    · rw [List.reverse_cons]
      exact hpath.append (by simp)

end Node

end SqlTree
