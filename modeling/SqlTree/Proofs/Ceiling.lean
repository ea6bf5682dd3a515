import SqlTree.Dialect
import SqlTree.Proofs.Walked
import SqlTree.Walk.Trace

/-! # Walks under a ceiling

A walk calls the visitor's hooks: these calls are its events. `freeWalk` gives the events of a walk
without a ceiling. Under a ceiling the events are the same up to the first node that lies too deep;
then every open node is finished and left, the innermost first. -/

namespace SqlTree

variable {α σ : Type}

/-! ## The events of a walk -/

/-- The visitor, with a list of the calls made to it. -/
def Visitor.recorded (v : Visitor α σ) : Visitor α (σ × List (Event α)) where
  enter i s := (v.enter i s.1, s.2 ++ [.enter i])
  visit a s := ((v.visit a s.1).1, (v.visit a s.1).2, s.2 ++ [.visit a])
  finish a s := (v.finish a s.1, s.2 ++ [.finish a])
  leave i s := (v.leave i s.1, s.2 ++ [.leave i])

theorem Visitor.recorded_open (v : Visitor α σ) (i : NodeInfo) (a : α) (s : σ)
    (es : List (Event α)) :
    v.recorded.visit a (v.recorded.enter i (s, es)) =
      ((v.visit a (v.enter i s)).1, (v.visit a (v.enter i s)).2, es ++ [.enter i, .visit a]) := by
  simp [recorded]

theorem Visitor.recorded_close (v : Visitor α σ) (i : NodeInfo) (a : α) (s : σ)
    (es : List (Event α)) :
    v.recorded.leave i (v.recorded.finish a (s, es)) =
      (v.leave i (v.finish a s), es ++ [.finish a, .leave i]) := by
  simp [recorded]

namespace Outline

/-- The calls that a walk at a depth makes. -/
def events (v : Visitor α σ) (d : Depth) (t : Outline α) (s : σ) : List (Event α) :=
  (t.walk v.recorded d (s, [])).2.2

def eventsEach (v : Visitor α σ) (d : Depth) (ts : List (Outline α)) (s : σ) : List (Event α) :=
  (walkChildren v.recorded d ts (s, [])).2.2

mutual

/-- The calls of a walk without a ceiling, and the state that they lead to. -/
def freeWalk (v : Visitor α σ) : Outline α → σ → List (Event α) × σ
  | node i a children, s =>
    let (goOn, s) := v.visit a (v.enter i s)
    let (below, s) := if goOn then freeWalkEach v children s else ([], s)
    (.enter i :: .visit a :: (below ++ [.finish a, .leave i]), v.leave i (v.finish a s))

def freeWalkEach (v : Visitor α σ) : List (Outline α) → σ → List (Event α) × σ
  | [], s => ([], s)
  | child :: rest, s =>
    let (first, s) := child.freeWalk v s
    let (more, s) := freeWalkEach v rest s
    (first ++ more, s)

end

/-! ## One step of a walk -/

section

variable {v : Visitor α σ} {d : Depth} {i : NodeInfo} {a : α} {cs : List (Outline α)} {s : σ}

theorem walk_goOn (h : (v.visit a (v.enter i s)).1 = true) :
    (node i a cs).walk v d s =
      ((walkChildren v d cs (v.visit a (v.enter i s)).2).1,
        v.leave i (v.finish a (walkChildren v d cs (v.visit a (v.enter i s)).2).2)) := by
  simp only [walk, h, if_true]

theorem walk_skip (h : (v.visit a (v.enter i s)).1 = false) :
    (node i a cs).walk v d s = (.ok (), v.leave i (v.finish a (v.visit a (v.enter i s)).2)) := by
  simp [walk, h]

theorem walkChildren_ceiling {c : Outline α} (h : d.limit ≤ d.current) :
    walkChildren v d (c :: cs) s = (.error (.depthLimitExceeded d.limit), s) := by
  simp [walkChildren, Depth.descend, Nat.not_lt.mpr h]

theorem walkChildren_ok {c : Outline α} (h : d.current < d.limit)
    (hc : (c.walk v ⟨d.current + 1, d.limit⟩ s).1 = .ok ()) :
    walkChildren v d (c :: cs) s = walkChildren v d cs (c.walk v ⟨d.current + 1, d.limit⟩ s).2 := by
  rw [walkChildren, Depth.descend, if_pos h]
  simp only
  rw [← Prod.eta (c.walk v ⟨d.current + 1, d.limit⟩ s), hc]

theorem walkChildren_error {c : Outline α} {e : TreeError} (h : d.current < d.limit)
    (hc : (c.walk v ⟨d.current + 1, d.limit⟩ s).1 = .error e) :
    walkChildren v d (c :: cs) s = (.error e, (c.walk v ⟨d.current + 1, d.limit⟩ s).2) := by
  rw [walkChildren, Depth.descend, if_pos h]
  simp only
  rw [← Prod.eta (c.walk v ⟨d.current + 1, d.limit⟩ s), hc]

end

end Outline

/-! ## What every walk keeps -/

/-- The visitor leaves states in a relation: around a node it holds as soon as it holds of what
happens while the node is open. -/
structure Visitor.Keeps (v : Visitor α σ) (R : σ → σ → Prop) : Prop where
  refl : ∀ s, R s s
  trans : ∀ {s s' s''}, R s s' → R s' s'' → R s s''
  node : ∀ i a s s', R (v.visit a (v.enter i s)).2 s' → R s (v.leave i (v.finish a s'))

namespace Outline

mutual

theorem walk_keeps {v : Visitor α σ} {R : σ → σ → Prop} (h : v.Keeps R) : (t : Outline α) →
    (d : Depth) → (s : σ) → R s (t.walk v d s).2
  | node i a cs, d, s => by
    cases hvisit : (v.visit a (v.enter i s)).1 with
    | true =>
      rw [walk_goOn hvisit]
      exact h.node i a s _ (walkChildren_keeps h cs d _)
    | false =>
      rw [walk_skip hvisit]
      exact h.node i a s _ (h.refl _)

theorem walkChildren_keeps {v : Visitor α σ} {R : σ → σ → Prop} (h : v.Keeps R) :
    (ts : List (Outline α)) → (d : Depth) → (s : σ) → R s (walkChildren v d ts s).2
  | [], _, s => h.refl s
  | c :: cs, d, s => by
    rcases Nat.lt_or_ge d.current d.limit with hlt | hge
    · have hc := walk_keeps h c ⟨d.current + 1, d.limit⟩ s
      cases hresult : (c.walk v ⟨d.current + 1, d.limit⟩ s).1 with
      | ok _ =>
        rw [walkChildren_ok hlt hresult]
        exact h.trans hc (walkChildren_keeps h cs d _)
      | error e =>
        rw [walkChildren_error hlt hresult]
        exact hc
    · rw [walkChildren_ceiling hge]
      exact h.refl s

end

/-! ## Keeping a list of the calls changes nothing else -/

mutual

theorem walk_recorded (v : Visitor α σ) : (t : Outline α) → (d : Depth) → (s : σ) →
    (es : List (Event α)) →
    t.walk v.recorded d (s, es) = ((t.walk v d s).1, (t.walk v d s).2, es ++ t.events v d s)
  | node i a cs, d, s, es => by
    have hcs := walkChildren_recorded v cs d (v.visit a (v.enter i s)).2
    cases hvisit : (v.visit a (v.enter i s)).1 with
    | true =>
      have hrecorded (es : List (Event α)) :
          (v.recorded.visit a (v.recorded.enter i (s, es))).1 = true := hvisit
      rw [events, walk_goOn hvisit, walk_goOn (hrecorded _), walk_goOn (hrecorded _)]
      simp [Visitor.recorded_open, Visitor.recorded_close, hcs]
    | false =>
      have hrecorded (es : List (Event α)) :
          (v.recorded.visit a (v.recorded.enter i (s, es))).1 = false := hvisit
      rw [events, walk_skip hvisit, walk_skip (hrecorded _), walk_skip (hrecorded _)]
      simp [Visitor.recorded_open, Visitor.recorded_close]

theorem walkChildren_recorded (v : Visitor α σ) : (ts : List (Outline α)) → (d : Depth) → (s : σ) →
    (es : List (Event α)) →
    walkChildren v.recorded d ts (s, es) =
      ((walkChildren v d ts s).1, (walkChildren v d ts s).2, es ++ eventsEach v d ts s)
  | [], d, s, es => by simp [walkChildren, eventsEach]
  | c :: cs, d, s, es => by
    rcases Nat.lt_or_ge d.current d.limit with hlt | hge
    · have hc := walk_recorded v c ⟨d.current + 1, d.limit⟩ s
      cases hresult : (c.walk v ⟨d.current + 1, d.limit⟩ s).1 with
      | ok =>
        have hcs := walkChildren_recorded v cs d (c.walk v ⟨d.current + 1, d.limit⟩ s).2
        rw [eventsEach, walkChildren_ok hlt hresult, walkChildren_ok hlt (by rw [hc, hresult]),
          walkChildren_ok hlt (by rw [hc, hresult]), hc, hc]
        simp [hcs]
      | error e =>
        rw [eventsEach, walkChildren_error hlt hresult, walkChildren_error hlt (by rw [hc, hresult]),
          walkChildren_error hlt (by rw [hc, hresult]), hc, hc]
        simp
    · rw [eventsEach, walkChildren_ceiling hge, walkChildren_ceiling hge, walkChildren_ceiling hge]
      simp

end

/-! ## The events step by step -/

section

variable {v : Visitor α σ} {d : Depth} {i : NodeInfo} {a : α} {c : Outline α}
  {cs : List (Outline α)} {s : σ}

theorem events_goOn (h : (v.visit a (v.enter i s)).1 = true) :
    (node i a cs).events v d s = .enter i :: .visit a ::
      (eventsEach v d cs (v.visit a (v.enter i s)).2 ++ [.finish a, .leave i]) := by
  have hrecorded : (v.recorded.visit a (v.recorded.enter i (s, []))).1 = true := h
  rw [events, walk_goOn hrecorded]
  simp [Visitor.recorded_open, Visitor.recorded_close, walkChildren_recorded]

theorem events_skip (h : (v.visit a (v.enter i s)).1 = false) :
    (node i a cs).events v d s = [.enter i, .visit a, .finish a, .leave i] := by
  have hrecorded : (v.recorded.visit a (v.recorded.enter i (s, []))).1 = false := h
  rw [events, walk_skip hrecorded]
  simp [Visitor.recorded_open, Visitor.recorded_close]

theorem eventsEach_ceiling (h : d.limit ≤ d.current) : eventsEach v d (c :: cs) s = [] := by
  rw [eventsEach, walkChildren_ceiling h]

theorem eventsEach_ok (h : d.current < d.limit)
    (hc : (c.walk v ⟨d.current + 1, d.limit⟩ s).1 = .ok ()) :
    eventsEach v d (c :: cs) s = c.events v ⟨d.current + 1, d.limit⟩ s ++
      eventsEach v d cs (c.walk v ⟨d.current + 1, d.limit⟩ s).2 := by
  have hrecorded := walk_recorded v c ⟨d.current + 1, d.limit⟩ s []
  rw [eventsEach, walkChildren_ok h (by rw [hrecorded, hc]), hrecorded, walkChildren_recorded]
  simp

theorem eventsEach_error {e : TreeError} (h : d.current < d.limit)
    (hc : (c.walk v ⟨d.current + 1, d.limit⟩ s).1 = .error e) :
    eventsEach v d (c :: cs) s = c.events v ⟨d.current + 1, d.limit⟩ s := by
  have hrecorded := walk_recorded v c ⟨d.current + 1, d.limit⟩ s []
  rw [eventsEach, walkChildren_error h (by rw [hrecorded, hc]), hrecorded]
  simp

end

end Outline

/-! ## Open nodes -/

namespace Event

/-- The calls that are due after an event, the next one first: a node that was entered is to be
left, and one that was visited is to be finished before. -/
def due (pending : List (Event α)) : Event α → List (Event α)
  | enter i => leave i :: pending
  | visit a => finish a :: pending
  | finish _ | leave _ => pending.tail

def dueAfter (pending es : List (Event α)) : List (Event α) := es.foldl due pending

def isLeave : Event α → Bool
  | leave _ => true
  | _ => false

/-- The number of nodes that are open, which is the level of the node that is entered next. -/
def level (pending : List (Event α)) : Nat := pending.countP isLeave

/-- No node is entered more than `limit` levels below the root. -/
def Within (limit : Nat) (pending es : List (Event α)) : Prop :=
  ∀ before i after, es = before ++ enter i :: after → level (dueAfter pending before) ≤ limit

@[simp] theorem level_nil : level ([] : List (Event α)) = 0 := rfl

@[simp] theorem level_finish (a : α) (pending : List (Event α)) :
    level (finish a :: pending) = level pending := by
  simp [level, isLeave]

@[simp] theorem level_leave (i : NodeInfo) (pending : List (Event α)) :
    level (leave i :: pending) = level pending + 1 := by
  simp [level, isLeave, List.countP_cons]

variable {limit : Nat} {pending es fs : List (Event α)} {e : Event α}

theorem dueAfter_append (pending es fs : List (Event α)) :
    dueAfter pending (es ++ fs) = dueAfter (dueAfter pending es) fs :=
  List.foldl_append

theorem within_nil : Within limit pending [] := by
  intro before i after h
  simp at h

theorem within_cons :
    Within limit pending (e :: es) ↔
      (∀ i, e = enter i → level pending ≤ limit) ∧ Within limit (due pending e) es := by
  constructor
  · intro h
    refine ⟨fun i hi => ?_, fun before i after hes => ?_⟩
    · exact h [] i es (by rw [hi]; rfl)
    · exact h (e :: before) i after (by rw [hes]; rfl)
  · rintro ⟨hfirst, hrest⟩ before i after h
    cases before with
    | nil =>
      obtain ⟨rfl, rfl⟩ := List.cons.inj h
      exact hfirst i rfl
    | cons f before =>
      obtain ⟨rfl, rfl⟩ := List.cons.inj h
      exact hrest before i after rfl

theorem within_append :
    Within limit pending (es ++ fs) ↔
      Within limit pending es ∧ Within limit (dueAfter pending es) fs := by
  induction es generalizing pending with
  | nil => simp [within_nil, dueAfter]
  | cons e es ih =>
    rw [List.cons_append, within_cons, within_cons, ih, and_assoc]
    rfl

end Event

/-! ## Where a walk is cut -/

open Event

/-- What becomes of a walk that makes the calls `full` and ends in `final` where nothing stops it,
while the calls `pending` are due around it. -/
inductive Cut (limit : Nat) (pending full : List (Event α)) (final : σ) :
    Outcome × σ → List (Event α) → Prop
  | whole (within : Within limit pending full) (balanced : dueAfter pending full = pending) :
    Cut limit pending full final (.ok (), final) full
  | short (before : List (Event α)) (i : NodeInfo) (after : List (Event α)) {es : List (Event α)}
    {s : σ} (split : full = before ++ .enter i :: after) (within : Within limit pending before)
    (deep : level (dueAfter pending before) = limit + 1)
    (closed : es ++ pending = before ++ dueAfter pending before) :
    Cut limit pending full final (.error (.depthLimitExceeded limit), s) es

namespace Cut

variable {limit : Nat} {pending full more es fs : List (Event α)} {final final' : σ}
  {r : Outcome × σ}

theorem enclose {i : NodeInfo} {a : α}
    (h : Cut limit (.finish a :: .leave i :: pending) full final r es) (hlevel : level pending ≤ limit) (f : σ → σ) :
    Cut limit pending (.enter i :: .visit a :: (full ++ [.finish a, .leave i])) (f final)
      (r.1, f r.2) (.enter i :: .visit a :: (es ++ [.finish a, .leave i])) := by
  have hopen : Within limit pending [.enter i, .visit a] := by
    simp [within_cons, within_nil, hlevel]
  cases h with
  | whole hwithin hbalanced =>
    refine .whole ?_ ?_
    · refine within_append.mpr ⟨hopen, within_append.mpr ⟨hwithin, ?_⟩⟩
      simp [within_cons, within_nil]
    · have hdue := dueAfter_append pending [.enter i, .visit a] (full ++ [.finish a, .leave i])
      rw [dueAfter_append _ full] at hdue
      exact hdue.trans (congrArg (dueAfter · _) hbalanced)
  | short before i' after hsplit hwithin hdeep hclosed =>
    refine .short (.enter i :: .visit a :: before) i' (after ++ [.finish a, .leave i]) ?_ ?_ hdeep
      ?_
    · simp [hsplit]
    · exact within_append.mpr ⟨hopen, hwithin⟩
    · have hes : es ++ .finish a :: .leave i :: pending =
          before ++ dueAfter pending (.enter i :: .visit a :: before) := hclosed
      simp [← hes]

theorem append (h : Cut limit pending more final r es) (hwithin : Within limit pending full)
    (hbalanced : dueAfter pending full = pending) :
    Cut limit pending (full ++ more) final r (full ++ es) := by
  cases h with
  | whole hwithin' hbalanced' =>
    refine .whole (within_append.mpr ⟨hwithin, by rwa [hbalanced]⟩) ?_
    rw [dueAfter_append, hbalanced, hbalanced']
  | short before i after hsplit hwithin' hdeep hclosed =>
    refine .short (full ++ before) i after ?_ ?_ ?_ ?_
    · rw [hsplit, List.append_assoc]
    · exact within_append.mpr ⟨hwithin, by rwa [hbalanced]⟩
    · rwa [dueAfter_append, hbalanced]
    · rw [dueAfter_append, hbalanced, List.append_assoc, hclosed, List.append_assoc]

end Cut

namespace Outline

mutual

theorem walk_cut (v : Visitor α σ) : (t : Outline α) → (d : Depth) → (s : σ) →
    (pending : List (Event α)) → level pending = d.current → d.current ≤ d.limit →
    Cut d.limit pending (t.freeWalk v s).1 (t.freeWalk v s).2 (t.walk v d s) (t.events v d s)
  | node i a cs, d, s, pending, hlevel, hle => by
    cases hvisit : (v.visit a (v.enter i s)).1 with
    | true =>
      have hpending : level (.finish a :: .leave i :: pending) = d.current + 1 := by
        simp [hlevel]
      have hcs := walkChildren_cut v cs d (v.visit a (v.enter i s)).2 _ hpending hle
      have hnode := hcs.enclose (by omega) fun s => v.leave i (v.finish a s)
      rw [walk_goOn hvisit, events_goOn hvisit, freeWalk]
      simpa only [hvisit, if_true] using hnode
    | false =>
      have hnone : Cut d.limit (.finish a :: .leave i :: pending) [] (v.visit a (v.enter i s)).2
          (.ok (), (v.visit a (v.enter i s)).2) [] := .whole within_nil rfl
      have hnode := hnone.enclose (by omega) fun s => v.leave i (v.finish a s)
      rw [walk_skip hvisit, events_skip hvisit, freeWalk]
      simpa [hvisit] using hnode

theorem walkChildren_cut (v : Visitor α σ) : (ts : List (Outline α)) → (d : Depth) → (s : σ) →
    (pending : List (Event α)) → level pending = d.current + 1 → d.current ≤ d.limit →
    Cut d.limit pending (freeWalkEach v ts s).1 (freeWalkEach v ts s).2 (walkChildren v d ts s)
      (eventsEach v d ts s)
  | [], d, s, pending, hlevel, hle => by
    rw [walkChildren]
    exact .whole within_nil rfl
  | c :: cs, d, s, pending, hlevel, hle => by
    rcases Nat.lt_or_ge d.current d.limit with hlt | hge
    · have hc := walk_cut v c ⟨d.current + 1, d.limit⟩ s pending hlevel hlt
      generalize hr : c.walk v ⟨d.current + 1, d.limit⟩ s = r at hc
      generalize hes : c.events v ⟨d.current + 1, d.limit⟩ s = es at hc
      cases hc with
      | whole hwithin hbalanced =>
        rw [walkChildren_ok hlt (by rw [hr]), eventsEach_ok hlt (by rw [hr]), hr, hes]
        exact (walkChildren_cut v cs d _ pending hlevel hle).append hwithin hbalanced
      | short before i after hsplit hwithin hdeep hclosed =>
        rw [walkChildren_error hlt (by rw [hr]), eventsEach_error hlt (by rw [hr]), hr, hes]
        refine .short before i (after ++ (freeWalkEach v cs (c.freeWalk v s).2).1) ?_ hwithin hdeep
          hclosed
        simp only [freeWalkEach, hsplit, List.append_assoc, List.cons_append]
    · -- The first child already lies too deep, so nothing is called.
      rw [walkChildren_ceiling hge, eventsEach_ceiling hge]
      obtain ⟨i, a, below⟩ := c
      exact .short [] i _ rfl within_nil (by simp [dueAfter]; omega) rfl

end

theorem walkFrom_ok {v : Visitor α σ} {t : Outline α} {limit : Nat} {s : σ}
    (h : (t.walkFrom v limit s).1 = .ok ()) : (t.walkFrom v limit s).2 = (t.freeWalk v s).2 := by
  have hcut := t.walk_cut v (.root limit) s [] rfl (Nat.zero_le _)
  rw [walkFrom] at h ⊢
  generalize t.walk v (.root limit) s = r at hcut h ⊢
  generalize t.events v (.root limit) s = es at hcut
  cases hcut with
  | whole => rfl
  | short => cases h

/-! ## Visitors that skip nothing

Their walks succeed exactly if the tree is no higher than the ceiling. -/

end Outline

def Visitor.Willing (v : Visitor α σ) : Prop := ∀ a s, (v.visit a s).1 = true

namespace Outline

mutual

theorem walk_outcome {v : Visitor α σ} (hv : v.Willing) : (t : Outline α) → (d : Depth) → (s : σ) →
    d.current ≤ d.limit → (t.walk v d s).1 =
      if d.current + t.height ≤ d.limit then .ok () else .error (.depthLimitExceeded d.limit)
  | node i a cs, d, s, hle => by
    rw [walk_goOn (hv a _), height]
    exact walkChildren_outcome hv cs d _ hle

theorem walkChildren_outcome {v : Visitor α σ} (hv : v.Willing) : (ts : List (Outline α)) →
    (d : Depth) → (s : σ) → d.current ≤ d.limit → (walkChildren v d ts s).1 =
      if d.current + heightEach ts ≤ d.limit then .ok () else .error (.depthLimitExceeded d.limit)
  | [], d, s, hle => by simp [walkChildren, heightEach, hle]
  | c :: cs, d, s, hle => by
    rcases Nat.lt_or_ge d.current d.limit with hlt | hge
    · have hc := walk_outcome hv c ⟨d.current + 1, d.limit⟩ s hlt
      by_cases hfits : d.current + 1 + c.height ≤ d.limit
      · rw [if_pos hfits] at hc
        rw [walkChildren_ok hlt hc, walkChildren_outcome hv cs d _ hle, heightEach]
        have hmax : d.current + max (c.height + 1) (heightEach cs) ≤ d.limit ↔
            d.current + heightEach cs ≤ d.limit := by omega
        simp only [hmax]
      · rw [if_neg hfits] at hc
        rw [walkChildren_error hlt hc, if_neg (by rw [heightEach]; omega)]
    · rw [walkChildren_ceiling hge, if_neg (by rw [heightEach]; omega)]

end

theorem walkFrom_outcome {v : Visitor α σ} (hv : v.Willing) (t : Outline α) (limit : Nat) (s : σ) :
    (t.walkFrom v limit s).1 =
      if t.height ≤ limit then .ok () else .error (.depthLimitExceeded limit) := by
  rw [walkFrom, walk_outcome hv t _ s (Nat.zero_le _)]
  simp [Depth.root]

end Outline

/-- A ceiling cuts a walk at one place. The walk without it enters a node, visits it, goes to the
present children in their order if the visit says so, finishes the node and leaves it. Where that
walk stays within the ceiling, nothing changes. Otherwise the calls stop before the first node that
lies below the ceiling, and all nodes that are open there are finished and left. -/
theorem Node.walk_cut_at_ceiling {δ ε : Type} (n : Node δ ε) (v : Visitor (Subject δ ε) σ) (s : σ)
    (limit : Nat) :
    let full := (n.outline.freeWalk v s).1
    let called := n.outline.events v (.root limit) s
    n.outline = .node (info n) n.subject (n.walked.map Node.outline) ∧
      n.outline.walkFrom v.recorded limit (s, []) =
        ((n.outline.walkFrom v limit s).1, (n.outline.walkFrom v limit s).2, called) ∧
      (Within limit [] full →
        n.outline.walkFrom v limit s = (.ok (), (n.outline.freeWalk v s).2) ∧ called = full) ∧
      (¬ Within limit [] full →
        (n.outline.walkFrom v limit s).1 = .error (.depthLimitExceeded limit) ∧
        ∃ before i after, full = before ++ .enter i :: after ∧ Within limit [] before ∧
          level (dueAfter [] before) = limit + 1 ∧ called = before ++ dueAfter [] before) := by
  intro full called
  refine ⟨n.outline_eq, Outline.walk_recorded v n.outline (.root limit) s [], ?_⟩
  have hcut := n.outline.walk_cut v (.root limit) s [] rfl (Nat.zero_le _)
  change Cut limit [] full _ (n.outline.walkFrom v limit s) called at hcut
  generalize n.outline.walkFrom v limit s = r at hcut ⊢
  generalize called = es at hcut ⊢
  cases hcut with
  | whole hwithin hbalanced => exact ⟨fun _ => ⟨rfl, rfl⟩, fun h => absurd hwithin h⟩
  | short before i after hsplit hwithin hdeep hclosed =>
    rw [List.append_nil] at hclosed
    refine ⟨fun h => ?_, fun _ => ⟨rfl, before, i, after, hsplit, hwithin, hdeep, hclosed⟩⟩
    have hlevel := h before i after hsplit
    omega

/-- A table named by two segments: the inner segment lies two levels below it. -/
theorem Node.walk_cut_at_ceiling_name :
    let info (k : Nat) : NodeInfo := { id := ⟨k⟩ }
    let inner : Expr := .identifier (info 3) "shop"
    let name : Expr := .property (info 2) inner "orders"
    let t : TableRef := { header := { info := info 1 }, expr := some name }
    let n : Node SourceKind ElementKind := .table t
    let v : Visitor (Subject SourceKind ElementKind) Unit := {}
    n.outline.walkFrom v 2 () = (.ok (), ()) ∧
      (n.outline.walkFrom v 1 ()).1 = .error (.depthLimitExceeded 1) ∧
      n.outline.events v (.root 1) () =
        [.enter (info 1), .visit (.table t), .enter (info 2), .visit (.expr name),
          .finish (.expr name), .leave (info 2), .finish (.table t), .leave (info 1)] := by
  intro info inner name t n v
  have hfull : (n.outline.freeWalk v ()).1 =
      [.enter (info 1), .visit (.table t), .enter (info 2), .visit (.expr name), .enter (info 3),
        .visit (.expr inner), .finish (.expr inner), .leave (info 3), .finish (.expr name),
        .leave (info 2), .finish (.table t), .leave (info 1)] := rfl
  obtain ⟨-, -, hwhole, -⟩ := n.walk_cut_at_ceiling v () 2
  obtain ⟨-, -, -, hshort⟩ := n.walk_cut_at_ceiling v () 1
  have hdeep : ¬ Within 1 [] (n.outline.freeWalk v ()).1 := by
    intro h
    have hlevel := h [.enter (info 1), .visit (.table t), .enter (info 2), .visit (.expr name)]
      (info 3) _ hfull
    simp [dueAfter, due] at hlevel
  refine ⟨(hwhole ?_).1, (hshort hdeep).1, rfl⟩
  rw [hfull]
  simp [within_cons, within_nil, due]

end SqlTree
