import SqlTree.Proofs.Ceiling

/-! # The levels that are left

A walk that starts some levels below a root makes the calls of a walk that starts at a root with a
ceiling as much lower; only the error names the ceiling that was set. This holds of every kind of
node, whatever a dialect arranges for its kinds, as long as a depth is passed on by descending. -/

namespace SqlTree

variable {α σ δ ε : Type}

/-! ## Depths -/

namespace Depth

variable {d below : Depth} {n : Nat}

/-- The depth `k` levels further down, under a ceiling that lies as much lower. -/
def shift (k : Nat) (d : Depth) : Depth := ⟨d.current + k, d.limit + k⟩

theorem descend_of_lt (h : d.current < d.limit) : d.descend = .ok ⟨d.current + 1, d.limit⟩ :=
  if_pos h

theorem descend_of_le (h : d.limit ≤ d.current) :
    d.descend = .error (.depthLimitExceeded d.limit) :=
  if_neg (Nat.not_lt.mpr h)

/-- Going down ends at the ceiling, and never beyond. -/
theorem descents_ok_iff (h : d.current ≤ d.limit) : (d.descents n).2 = .ok below ↔
    d.current + n ≤ d.limit ∧ below = ⟨d.current + n, d.limit⟩ := by
  induction n generalizing d with
  | zero => simp [descents, h, eq_comm]
  | succ n ih =>
    rcases Nat.lt_or_ge d.current d.limit with hlt | hge
    · rw [descents, descend_of_lt hlt]
      simp only [ih (d := ⟨d.current + 1, d.limit⟩) hlt, Nat.add_assoc, Nat.add_comm 1]
    · have hout : ¬ d.current + (n + 1) ≤ d.limit := by omega
      simp [descents, descend_of_le hge, hout]

end Depth

/-- The info of the node that an event enters. -/
def Event.entered? : Event α → Option NodeInfo
  | enter i => some i
  | visit _ | finish _ | leave _ => none

/-! ## Routes -/

/-- How a walk goes on from a depth. The depth is handed to the nodes that are walked there, and
passed on by descending only. What comes next may depend on whether the walk succeeded so far, and
`fail` passes a failure on. -/
inductive Route (α : Type)
  | done
  | fail
  | node (info : NodeInfo) (subject : α) (children : Route α)
  | descend (below : Route α)
  | andThen (first : Route α) (next : Bool → Route α)

namespace Route

/-- One after the other, the second only if the first does not fail. -/
def both (first second : Route α) : Route α :=
  first.andThen fun ok => if ok then second else fail

/-- Walks a route: a node as any walk does, and what lies further down unless the ceiling is
reached. -/
def walk (v : Visitor α σ) : Route α → Depth → σ → Outcome × σ
  | done, _, s => (.ok (), s)
  | fail, d, s => (.error (.depthLimitExceeded d.limit), s)
  | node i a children, d, s =>
    let (goOn, s) := v.visit a (v.enter i s)
    let (outcome, s) := if goOn then children.walk v d s else (.ok (), s)
    (outcome, v.leave i (v.finish a s))
  | descend below, d, s =>
    match d.descend with
    | .error e => (.error e, s)
    | .ok d => below.walk v d s
  | andThen first next, d, s =>
    let (outcome, s) := first.walk v d s
    (next outcome.isOk).walk v d s

/-- The calls that a walk makes. -/
def events (v : Visitor α σ) (r : Route α) (d : Depth) (s : σ) : List (Event α) :=
  (r.walk v.recorded d (s, [])).2.2

/-- The nodes that a walk goes to, each with the depth that it is handed. -/
def handed (v : Visitor α σ) : Route α → Depth → σ → List (NodeInfo × Depth)
  | done, _, _ | fail, _, _ => []
  | node i a children, d, s =>
    let (goOn, s) := v.visit a (v.enter i s)
    (i, d) :: if goOn then children.handed v d s else []
  | descend below, d, s =>
    match d.descend with
    | .error _ => []
    | .ok d => below.handed v d s
  | andThen first next, d, s =>
    let (outcome, after) := first.walk v d s
    first.handed v d s ++ (next outcome.isOk).handed v d after

/-! ### One step of a walk -/

section

variable {v : Visitor α σ} {d : Depth} {i : NodeInfo} {a : α} {r first second : Route α} {s : σ}

theorem walk_goOn (h : (v.visit a (v.enter i s)).1 = true) :
    (node i a r).walk v d s =
      ((r.walk v d (v.visit a (v.enter i s)).2).1,
        v.leave i (v.finish a (r.walk v d (v.visit a (v.enter i s)).2).2)) := by
  simp only [walk, h, if_true]

theorem walk_skip (h : (v.visit a (v.enter i s)).1 = false) :
    (node i a r).walk v d s = (.ok (), v.leave i (v.finish a (v.visit a (v.enter i s)).2)) := by
  simp [walk, h]

theorem walk_descend (h : d.current < d.limit) :
    (descend r).walk v d s = r.walk v ⟨d.current + 1, d.limit⟩ s := by
  rw [walk, Depth.descend_of_lt h]

theorem walk_ceiling (h : d.limit ≤ d.current) :
    (descend r).walk v d s = (.error (.depthLimitExceeded d.limit), s) := by
  rw [walk, Depth.descend_of_le h]

theorem walk_andThen {next : Bool → Route α} : (first.andThen next).walk v d s =
    (next (first.walk v d s).1.isOk).walk v d (first.walk v d s).2 :=
  rfl

end

/-! ### Levels under a ceiling -/

/-- A walk `k` levels further down, under a ceiling as much lower, does the same; an error names the
ceiling over it. -/
theorem walk_shift (v : Visitor α σ) (k : Nat) (r : Route α) (d : Depth) (s : σ) :
    r.walk v (d.shift k) s =
      ((r.walk v d s).1.mapError fun _ => .depthLimitExceeded (d.limit + k), (r.walk v d s).2) := by
  induction r generalizing d s with
  | done | fail => rfl
  | node i a children ih =>
    cases hvisit : (v.visit a (v.enter i s)).1 with
    | true => rw [walk_goOn hvisit, walk_goOn hvisit, ih]
    | false =>
      rw [walk_skip hvisit, walk_skip hvisit]
      rfl
  | descend below ih =>
    rcases Nat.lt_or_ge d.current d.limit with hlt | hge
    · have hshift : (⟨d.current + k + 1, d.limit + k⟩ : Depth) =
          Depth.shift k ⟨d.current + 1, d.limit⟩ := by simp [Depth.shift, Nat.add_right_comm]
      rw [walk_descend hlt, walk_descend (Nat.add_lt_add_right hlt k)]
      exact (congrArg (below.walk v · s) hshift).trans (ih _ s)
    · rw [walk_ceiling hge, walk_ceiling (Nat.add_le_add_right hge k)]
      rfl
  | andThen first next ihFirst ihNext =>
    have hok (o : Outcome) (e : TreeError) : (o.mapError fun _ => e).isOk = o.isOk := by
      cases o <;> rfl
    rw [walk_andThen, walk_andThen, ihFirst, hok, ihNext]

section

variable {v : Visitor α σ} {d : Depth} {r first second : Route α} {s : σ} {e : TreeError}

theorem walk_error (h : (r.walk v d s).1 = .error e) : e = .depthLimitExceeded d.limit := by
  have hshift : r.walk v d s = _ := r.walk_shift v 0 d s
  rw [Prod.ext_iff, h] at hshift
  exact Except.error.inj hshift.1

theorem walk_both_ok (h : (first.walk v d s).1 = .ok ()) :
    (both first second).walk v d s = second.walk v d (first.walk v d s).2 := by
  rw [both, walk_andThen, h]
  rfl

/-- Failing again is failing with the same error, as every error names the ceiling. -/
theorem walk_both_error (h : (first.walk v d s).1 = .error e) :
    (both first second).walk v d s = (.error e, (first.walk v d s).2) := by
  rw [both, walk_andThen, h, walk_error h]
  rfl

end

theorem events_shift (v : Visitor α σ) (k : Nat) (r : Route α) (d : Depth) (s : σ) :
    r.events v (d.shift k) s = r.events v d s := by
  rw [events, walk_shift, events]

/-- No node is handed a depth beyond the ceiling. -/
theorem handed_within {v : Visitor α σ} {r : Route α} {d : Depth} {s : σ}
    (h : d.current ≤ d.limit) {p : NodeInfo × Depth} (hp : p ∈ r.handed v d s) :
    p.2.current ≤ p.2.limit ∧ p.2.limit = d.limit := by
  induction r generalizing d s with
  | done | fail => cases hp
  | node i a children ih =>
    rcases List.mem_cons.mp hp with rfl | hp
    · exact ⟨h, rfl⟩
    · split at hp
      · exact ih h hp
      · cases hp
  | descend below ih =>
    rcases Nat.lt_or_ge d.current d.limit with hlt | hge
    · rw [handed, Depth.descend_of_lt hlt] at hp
      exact ih (d := ⟨d.current + 1, d.limit⟩) hlt hp
    · rw [handed, Depth.descend_of_le hge] at hp
      cases hp
  | andThen first next ihFirst ihNext =>
    rcases List.mem_append.mp hp with hp | hp
    · exact ihFirst h hp
    · exact ihNext _ h hp

/-- Keeping a list of the calls changes nothing else, and every node that is entered was handed a
depth. -/
theorem walk_recorded (v : Visitor α σ) (r : Route α) (d : Depth) (s : σ) : ∃ calls,
    (∀ es, r.walk v.recorded d (s, es) = ((r.walk v d s).1, (r.walk v d s).2, es ++ calls)) ∧
      calls.filterMap Event.entered? = (r.handed v d s).map Prod.fst := by
  induction r generalizing d s with
  | done | fail => exact ⟨[], fun es => by simp [walk], rfl⟩
  | node i a children ih =>
    obtain ⟨calls, hcalls, hentered⟩ := ih d (v.visit a (v.enter i s)).2
    cases hvisit : (v.visit a (v.enter i s)).1 with
    | true =>
      have hrecorded (es : List (Event α)) :
          (v.recorded.visit a (v.recorded.enter i (s, es))).1 = true := hvisit
      refine ⟨.enter i :: .visit a :: (calls ++ [.finish a, .leave i]), fun es => ?_, ?_⟩
      · rw [walk_goOn hvisit, walk_goOn (hrecorded es)]
        simp [Visitor.recorded_open, Visitor.recorded_close, hcalls]
      · simp [handed, hvisit, hentered, Event.entered?, List.filterMap_cons]
    | false =>
      have hrecorded (es : List (Event α)) :
          (v.recorded.visit a (v.recorded.enter i (s, es))).1 = false := hvisit
      refine ⟨[.enter i, .visit a, .finish a, .leave i], fun es => ?_, ?_⟩
      · rw [walk_skip hvisit, walk_skip (hrecorded es)]
        simp [Visitor.recorded_open, Visitor.recorded_close]
      · simp [handed, hvisit, Event.entered?, List.filterMap_cons]
  | descend below ih =>
    rcases Nat.lt_or_ge d.current d.limit with hlt | hge
    · simp only [walk_descend hlt, handed, Depth.descend_of_lt hlt]
      exact ih _ s
    · simp only [walk_ceiling hge, handed, Depth.descend_of_le hge]
      exact ⟨[], fun es => by simp, rfl⟩
  | andThen first next ihFirst ihNext =>
    obtain ⟨calls, hcalls, hentered⟩ := ihFirst d s
    obtain ⟨more, hmore, henteredMore⟩ := ihNext (first.walk v d s).1.isOk d (first.walk v d s).2
    refine ⟨calls ++ more, fun es => ?_, ?_⟩
    · rw [walk_andThen, walk_andThen, hcalls, hmore, List.append_assoc]
    · rw [handed, List.map_append, List.filterMap_append, hentered, henteredMore]

theorem entered_eq_handed (v : Visitor α σ) (r : Route α) (d : Depth) (s : σ) :
    (r.events v d s).filterMap Event.entered? = (r.handed v d s).map Prod.fst := by
  obtain ⟨calls, hcalls, hentered⟩ := r.walk_recorded v d s
  rw [events, hcalls, ← hentered]
  rfl

end Route

/-! ## The routes of nodes -/

namespace Outline

mutual

/-- The walk of an outline as a route: to every child, one level further down, unless `arranged`
says what is walked below a node. -/
def route (arranged : α → Option (Route α)) : Outline α → Route α
  | node i a cs => .node i a ((arranged a).getD (routeEach arranged cs))

def routeEach (arranged : α → Option (Route α)) : List (Outline α) → Route α
  | [] => .done
  | c :: cs => .both (.descend (c.route arranged)) (routeEach arranged cs)

end

theorem walk_routeEach {arranged : α → Option (Route α)} {v : Visitor α σ} {cs : List (Outline α)}
    (h : ∀ c ∈ cs, ∀ d s, (c.route arranged).walk v d s = c.walk v d s) (d : Depth) (s : σ) :
    (routeEach arranged cs).walk v d s = walkChildren v d cs s := by
  induction cs generalizing s with
  | nil => rw [routeEach, Route.walk, walkChildren]
  | cons c cs ih =>
    have hc := h c List.mem_cons_self
    have hcs := ih fun c hc => h c (List.mem_cons_of_mem _ hc)
    rw [routeEach]
    rcases Nat.lt_or_ge d.current d.limit with hlt | hge
    · have hfirst := (Route.walk_descend hlt).trans (hc ⟨d.current + 1, d.limit⟩ s)
      cases hresult : (c.walk v ⟨d.current + 1, d.limit⟩ s).1 with
      | ok _ =>
        rw [Route.walk_both_ok (by rw [hfirst, hresult]), walkChildren_ok hlt hresult, hfirst, hcs]
      | error e =>
        rw [Route.walk_both_error (by rw [hfirst, hresult]), walkChildren_error hlt hresult, hfirst]
    · have hfirst : (Route.descend (c.route arranged)).walk v d s =
          (.error (.depthLimitExceeded d.limit), s) := Route.walk_ceiling hge
      rw [Route.walk_both_error (by rw [hfirst]), walkChildren_ceiling hge, hfirst]

theorem walk_route_node {arranged : α → Option (Route α)} {v : Visitor α σ} {i : NodeInfo} {a : α}
    {cs : List (Outline α)}
    (h : ∀ d s, ((arranged a).getD (routeEach arranged cs)).walk v d s = walkChildren v d cs s)
    (d : Depth) (s : σ) : ((node i a cs).route arranged).walk v d s = (node i a cs).walk v d s := by
  rw [route]
  cases hvisit : (v.visit a (v.enter i s)).1 with
  | true => rw [Route.walk_goOn hvisit, walk_goOn hvisit, h]
  | false => rw [Route.walk_skip hvisit, walk_skip hvisit]

theorem walk_route_none (v : Visitor α σ) (t : Outline α) (d : Depth) (s : σ) :
    (t.route fun _ => none).walk v d s = t.walk v d s := by
  induction t using Outline.nested generalizing d s with
  | node i a cs ih => exact walk_route_node (walk_routeEach ih) d s

end Outline

/-- What the dialects arrange for the walk below a node of one of their kinds. -/
structure Arrangement (δ ε : Type) where
  source : SourceHeader → δ → List Expr → Route (Subject δ ε)
  element : NodeInfo → ε → (parts inner : List Expr) → Route (Subject δ ε)

namespace Arrangement

/-- The parts one after another, one level further down. -/
def parts : Arrangement δ ε where
  source _ _ parts := Outline.routeEach (fun _ => none) (parts.map Expr.outline)
  element _ _ parts _ := Outline.routeEach (fun _ => none) (parts.map Expr.outline)

def below? (arrangement : Arrangement δ ε) : Subject δ ε → Option (Route (Subject δ ε))
  | .dialect h kind parts => some (arrangement.source h kind parts)
  | .dialectElement i kind parts inner => some (arrangement.element i kind parts inner)
  | _ => none

end Arrangement

namespace Node

/-- Only at a dialect's own kinds is anything arranged. -/
theorem below?_subject (arrangement : Arrangement δ ε) (n : Node δ ε) :
    arrangement.below? n.subject = none ∨ (∃ h kind parts, n = source (.dialect h kind parts)) ∨
      ∃ i kind parts inner, n = element (.dialect i kind parts inner) := by
  cases n with
  | source s =>
    cases s with
    | dialect h kind parts => exact .inr (.inl ⟨h, kind, parts, rfl⟩)
    | _ => exact .inl rfl
  | element e =>
    cases e with
    | dialect i kind parts inner => exact .inr (.inr ⟨i, kind, parts, inner, rfl⟩)
    | _ => exact .inl rfl
  | _ => exact .inl rfl

/-- The walk of a node as a route. -/
def route (arrangement : Arrangement δ ε) (n : Node δ ε) : Route (Subject δ ε) :=
  n.outline.route arrangement.below?

/-- The walk of a node is the one in which a dialect's parts are walked one after another. -/
theorem walk_route_parts (v : Visitor (Subject δ ε) σ) (n : Node δ ε) (d : Depth) (s : σ) :
    (n.route .parts).walk v d s = n.outline.walk v d s := by
  induction n using Node.walked_induction generalizing d s with
  | node n ih =>
    have hparts (parts : List Expr) (d : Depth) (s : σ) :
        (Outline.routeEach (fun _ => none) (parts.map Expr.outline)).walk v d s =
          Outline.walkChildren v d ((parts.map (expr (δ := δ) (ε := ε))).map outline) s := by
      rw [List.map_map]
      exact Outline.walk_routeEach (fun c _ => c.walk_route_none v) d s
    rw [route, n.outline_eq]
    refine Outline.walk_route_node (fun d s => ?_) d s
    rcases below?_subject .parts n with hnone | ⟨h, kind, parts, rfl⟩ | ⟨i, kind, parts, _, rfl⟩
    · rw [hnone]
      refine Outline.walk_routeEach (fun c hc => ?_) d s
      obtain ⟨m, hm, rfl⟩ := List.mem_map.mp hc
      exact ih m hm
    · exact hparts parts d s
    · exact hparts parts d s

/-- Only the levels that are left matter to a walk, however the dialects arrange the walks of their
kinds. After `k` descents from a root it makes the calls, leaves the state and has the success of a
walk from a root whose ceiling is `k` lower, and an error names the ceiling that was set. Every node
that is entered is handed a depth within the ceiling, so that no descent leaves the machine's
numbers. -/
theorem walk_by_levels_left (arrangement : Arrangement δ ε) (n : Node δ ε)
    (v : Visitor (Subject δ ε) σ) (s : σ) {limit k : Nat} (hk : k ≤ limit) :
    let r := n.route arrangement
    let fewer := Depth.root (limit - k)
    (∀ d s, n.outline.walk v d s = (n.route .parts).walk v d s ∧
      n.outline.events v d s = (n.route .parts).events v d s) ∧
    ∃ d, ((Depth.root limit).descents k).2 = .ok d ∧
      r.events v d s = r.events v fewer s ∧
      (r.walk v d s).2 = (r.walk v fewer s).2 ∧
      ((r.walk v d s).1 = .ok () ↔ (r.walk v fewer s).1 = .ok ()) ∧
      (∀ e, (r.walk v d s).1 = .error e → e = .depthLimitExceeded limit) ∧
      (r.events v d s).filterMap Event.entered? = (r.handed v d s).map Prod.fst ∧
      ∀ p ∈ r.handed v d s, p.2.current ≤ p.2.limit ∧ p.2.limit = limit ∧
        (limit < USize.size → ∀ m below, (p.2.descents m).2 = .ok below →
          below.current = p.2.current + m ∧ below.current < USize.size) := by
  intro r fewer
  have hd : ((Depth.root limit).descents k).2 = .ok ⟨k, limit⟩ :=
    (Depth.descents_ok_iff (Nat.zero_le _)).mpr (by simp [Depth.root, hk])
  have hshift : (⟨k, limit⟩ : Depth) = fewer.shift k := by
    simp [fewer, Depth.shift, Depth.root, Nat.sub_add_cancel hk]
  have hwalk : r.walk v ⟨k, limit⟩ s =
      ((r.walk v fewer s).1.mapError fun _ => .depthLimitExceeded limit, (r.walk v fewer s).2) := by
    rw [hshift, Route.walk_shift]
    simp [fewer, Depth.root, Nat.sub_add_cancel hk]
  refine ⟨fun d s => ⟨(walk_route_parts v n d s).symm, ?_⟩, ⟨k, limit⟩, hd, ?_, ?_, ?_, ?_,
    r.entered_eq_handed v _ s, fun p hp => ?_⟩
  · rw [Outline.events, Route.events, walk_route_parts]
  · rw [hshift, Route.events_shift]
  · rw [hwalk]
  · rw [hwalk]
    cases (r.walk v fewer s).1 <;> simp [Except.mapError]
  · rw [hwalk]
    cases (r.walk v fewer s).1 <;> simp [Except.mapError, eq_comm]
  · obtain ⟨hle, hlimit⟩ := r.handed_within hk hp
    refine ⟨hle, hlimit, fun hsize m below hbelow => ?_⟩
    obtain ⟨hfits, rfl⟩ := (Depth.descents_ok_iff hle).mp hbelow
    exact ⟨rfl, by rw [hlimit] at hfits; exact Nat.lt_of_le_of_lt hfits hsize⟩

/-- A lateral call with one level left: the schema of its function lies too deep, and the error
names the ceiling over the whole walk. -/
theorem walk_by_levels_left_lateral :
    let info (k : Nat) : NodeInfo := { id := ⟨k⟩ }
    let function : Expr := .property (info 2) (.identifier (info 3) "shop") "near"
    let n : Node SourceKind ElementKind := .source (.dialect { info := info 1 } .lateral [function])
    let v : Visitor (Subject SourceKind ElementKind) Unit := {}
    let r := n.route .parts
    2 ≤ 3 ∧ r.events v ⟨2, 3⟩ () = r.events v (.root 1) () ∧
      (r.walk v ⟨2, 3⟩ ()).1 = .error (.depthLimitExceeded 3) ∧
      (r.walk v (.root 1) ()).1 = .error (.depthLimitExceeded 1) ∧
      r.handed v ⟨2, 3⟩ () = [(info 1, ⟨2, 3⟩), (info 2, ⟨3, 3⟩)] := by
  intro info function n v r
  have hk : 2 ≤ 3 := by decide
  obtain ⟨-, d, hd, hevents, -⟩ := n.walk_by_levels_left .parts v () hk
  obtain rfl : ⟨2, 3⟩ = d := Except.ok.inj hd
  exact ⟨hk, hevents, rfl, rfl, rfl⟩

end Node

end SqlTree
