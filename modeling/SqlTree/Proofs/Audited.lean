import SqlTree.Blueprint.Audit
import SqlTree.Proofs.Built

/-! # Audits of built sources

An audit of what a blueprint builds finds nothing wrong. It can only hit the ceiling: in the copy if
the joins nest too deep, and otherwise in the walk, which goes on into the expressions. -/

namespace SqlTree

open Family

variable {δ ε : Type}

/-! ## Balanced walks -/

namespace Balance

/-- What a walk leaves as it was: the same nodes are open, none was left out of order, and the
counts went on together. -/
structure Even (b b' : Balance) : Prop where
  stack : b'.stack = b.stack
  crossed : b'.crossed = b.crossed
  finishes : b'.visits + b.finishes = b.visits + b'.finishes
  visits : b'.visits + b.entered ≤ b.visits + b'.entered
  links : b'.entered + b.links.length = b.entered + b'.links.length

/-- Only tables and joins are counted. -/
def weight : Subject δ ε → Nat
  | .table _ | .join _ => 1
  | _ => 0

theorem weight_le (a : Subject δ ε) : weight a ≤ 1 := by
  cases a <;> simp [weight]

theorem visit_eq (a : Subject δ ε) (b : Balance) :
    visitor.visit a b = (true, { b with visits := b.visits + weight a }) := by
  cases a <;> rfl

theorem finish_eq (a : Subject δ ε) (b : Balance) :
    visitor.finish a b = { b with finishes := b.finishes + weight a } := by
  cases a <;> rfl

theorem visitor_willing : (visitor (δ := δ) (ε := ε)).Willing := by
  intro a b
  rw [visit_eq]

theorem visitor_even : (visitor (δ := δ) (ε := ε)).Keeps Even where
  refl b := ⟨rfl, rfl, rfl, Nat.le_refl _, rfl⟩
  trans {b b' b''} h h' := by
    obtain ⟨hstack, hcrossed, hfinishes, hvisits, hlinks⟩ := h
    obtain ⟨hstack', hcrossed', hfinishes', hvisits', hlinks'⟩ := h'
    exact ⟨hstack'.trans hstack, hcrossed'.trans hcrossed, by omega, by omega, by omega⟩
  node i a b b' h := by
    rw [visit_eq] at h
    obtain ⟨hstack, hcrossed, hfinishes, hvisits, hlinks⟩ := h
    have hweight := weight_le a
    rw [finish_eq]
    simp only [visitor, List.length_append, List.length_singleton] at *
    refine ⟨?_, ?_, ?_, ?_, ?_⟩
    · simp [hstack]
    · simp [hcrossed, hstack]
    · simp only; omega
    · simp only; omega
    · simp only; omega

end Balance

/-- The identities of all nodes with the parents that the nodes name. -/
def Outline.carried {α : Type} (t : Outline α) : List (NodeId × Option NodeId) :=
  t.gather fun i _ => [(i.id, i.parent)]

namespace Balance

mutual

theorem freeWalk_links : (t : Outline (Subject δ ε)) → (b : Balance) →
    (t.freeWalk visitor b).2.links = b.links ++ t.carried
  | .node i a cs, b => by
    have hcs := freeWalkEach_links cs
    rw [Outline.freeWalk, visit_eq]
    simp only [if_true, finish_eq]
    simp only [visitor] at hcs ⊢
    rw [hcs, Outline.carried, Outline.gather, List.append_assoc]

theorem freeWalkEach_links : (ts : List (Outline (Subject δ ε))) → (b : Balance) →
    (Outline.freeWalkEach visitor ts b).2.links =
      b.links ++ Outline.gatherEach (fun i _ => [(i.id, i.parent)]) ts
  | [], b => by simp [Outline.freeWalkEach, Outline.gatherEach]
  | c :: cs, b => by
    have hcs := freeWalkEach_links cs (c.freeWalk visitor b).2
    rw [freeWalk_links c b, List.append_assoc] at hcs
    exact hcs

end

theorem walkFrom_even (t : Outline (Subject δ ε)) (limit : Nat) :
    Even {} (t.walkFrom visitor limit {}).2 :=
  t.walk_keeps visitor_even (.root limit) {}

theorem walkFrom_links {t : Outline (Subject δ ε)} {limit : Nat} (h : t.height ≤ limit) :
    (t.walkFrom visitor limit {}).2.links = t.carried := by
  have houtcome := Outline.walkFrom_outcome visitor_willing t limit {}
  rw [if_pos h] at houtcome
  rw [Outline.walkFrom_ok houtcome, freeWalk_links, List.nil_append]

end Balance

/-! ## The index of a source -/

theorem size_carried {r : Node δ ε} (hids : (family r).ids.Nodup)
    (hheight : r.outline.height ≤ 256) :
    (ParentIndex.ofWalks [(r, 256)]).size + 1 = r.outline.carried.length := by
  have hwalked : r.outline.ids.Nodup :=
    (List.nodup_append.mp (r.ids_family_perm.nodup_iff.mp hids)).1
  have hone : ([(r, 256)].flatMap fun t => t.1.outline.ids).Nodup := by simpa using hwalked
  have hsize := ParentIndex.size_ofWalks hone
  have hcarried : r.outline.carried.map Prod.fst = r.outline.ids := r.outline.map_gather _ _
  rw [← List.length_map Prod.fst, hcarried, ← Node.entered_of_height hheight]
  simpa using hsize

theorem parentOf?_carried {r : Node δ ε} (hr : Blueprint.Ordinary r)
    (hids : (family r).ids.Nodup) (hlinked : (family r).Linked) {x : ParentIndex}
    (hx : ParentIndex.build r.outline = .ok x) {id : NodeId} {parent : Option NodeId}
    (h : (id, parent) ∈ r.outline.carried.drop 1) : x.parentOf? id = parent := by
  -- Only the root is dropped, so the node lies below one of the root's children.
  rw [Outline.carried, Node.gather_outline] at h
  obtain ⟨n, hn, h⟩ := List.mem_flatMap.mp h
  obtain ⟨c, path, hc, hlink⟩ := Node.mem_gather h
  obtain ⟨rfl, rfl⟩ := Prod.mk.inj (List.mem_singleton.mp hlink)
  obtain ⟨m, _, hm, hwalked⟩ := (hc.above hn).owner (by simp)
  exact ParentIndex.parentOf?_linked hx hids hlinked hm hwalked (hr.under hm).isDialect

/-! ## The walk of a source -/

@[simp] theorem ensure_true {m : Type → Type} [Monad m] [MonadExcept Violation m] (v : Violation) :
    (ensure true v : m Unit) = pure () :=
  if_pos rfl

section

variable {s : TableSource δ}

theorem auditWalk_error (h : ¬ (Node.source (ε := Empty) s).outline.height ≤ 256) :
    auditWalk s = .error (.walkFailed (.depthLimitExceeded 256)) := by
  have houtcome := Outline.walkFrom_outcome Balance.visitor_willing
    (Node.source (ε := Empty) s).outline 256 {}
  obtain ⟨-, hcrossed, -⟩ := Balance.walkFrom_even (Node.source (ε := Empty) s).outline 256
  rw [if_neg h] at houtcome
  rw [auditWalk, Depth.defaultLimit]
  change (Outline.walkFrom Balance.visitor 256 s.outline {}).1 = _ at houtcome
  change (Outline.walkFrom Balance.visitor 256 s.outline {}).2.crossed = _ at hcrossed
  generalize Outline.walkFrom Balance.visitor 256 s.outline {} = w at houtcome hcrossed ⊢
  obtain ⟨outcome, b⟩ := w
  simp only at houtcome hcrossed ⊢
  rw [hcrossed, houtcome]
  rfl

theorem auditWalk_ok {b : Blueprint} (hs : b.Frames s) (hids : (family s).ids.Nodup)
    (hlinked : (family s).Linked) (h : (Node.source (ε := Empty) s).outline.height ≤ 256) :
    auditWalk s = .ok () := by
  have hroot : (s.outline : Outline (Subject δ Empty)) = (Node.source s).outline := rfl
  have hordinary : Blueprint.Ordinary (Node.source s : Node δ Empty) := ⟨b, hs⟩
  change (family (Node.source s : Node δ Empty)).ids.Nodup at hids
  change (family (Node.source s : Node δ Empty)).Linked at hlinked
  generalize (Node.source s : Node δ Empty) = r at *
  have houtcome := Outline.walkFrom_outcome Balance.visitor_willing r.outline 256 {}
  have heven := Balance.walkFrom_even r.outline 256
  have hmet := Balance.walkFrom_links h
  have hbuild := ParentIndex.build_eq r
  rw [if_pos h] at houtcome hbuild
  rw [auditWalk, hroot, Depth.defaultLimit]
  generalize r.outline.walkFrom Balance.visitor 256 {} = w at houtcome heven hmet ⊢
  obtain ⟨outcome, b⟩ := w
  obtain ⟨hstack, hcrossed, hfinishes, hvisits, hlinks⟩ := heven
  simp only at houtcome hmet hstack hcrossed hfinishes hvisits hlinks ⊢
  have hsize : (ParentIndex.ofWalks [(r, 256)]).size + 1 = b.entered := by
    rw [size_carried hids h, ← hmet]
    simpa using hlinks.symm
  have hfresh : (b.links.drop 1).find? (fun l =>
      (ParentIndex.ofWalks [(r, 256)]).parentOf? l.1 ≠ l.2) = none := by
    rw [List.find?_eq_none, hmet]
    intro l hl
    simpa using parentOf?_carried hordinary hids hlinked hbuild hl
  have hfinishes : b.visits = b.finishes := by omega
  have hvisits : b.visits ≤ b.entered := by omega
  have hok (f : ParentIndex → Except Violation Unit) :
      (Except.mapError Violation.walkFailed (.ok (ParentIndex.ofWalks [(r, 256)])) >>= f) =
        f (ParentIndex.ofWalks [(r, 256)]) := rfl
  rw [hcrossed, hstack, houtcome, hbuild]
  simp only [Bool.not_false, List.isEmpty_nil, ← hfinishes, hvisits, hsize, decide_true,
    ensure_true, pure_bind, hok, hfresh]
  rfl

end

/-! ## The copy of a source -/

namespace TableSource

theorem header_setHeader (h : SourceHeader) (s : TableSource δ) : header (setHeader h s) = h := by
  cases s <;> rfl

theorem feed_setHeader [SourceDialect δ] (h : SourceHeader) (s : TableSource δ) :
    (setHeader h s).feed = s.feed := by
  cases s with
  | table t =>
    change (table { t with header := h }).feed = _
    rw [feed_table, feed_table]
    rfl
  | join j =>
    change (join { j with header := h }).feed = _
    rw [feed_join, feed_join]
    rfl
  | dialect _ kind parts =>
    change (dialect h kind parts).feed = _
    rw [feed_dialect, feed_dialect]

theorem header_bare (s : TableSource δ) : header (bare s) = bare (header s) := by
  cases s with
  | table t => rfl
  | join j => rw [bare_join]; rfl
  | dialect _ _ _ => rfl

theorem hints_of_bare {s c : TableSource δ} (h : bare c = bare s) :
    (header c).hints.length = (header s).hints.length := by
  have hheader := congrArg header h
  rw [header_bare, header_bare] at hheader
  have hhints : (header c).hints.map bare = (header s).hints.map bare :=
    congrArg SourceHeader.hints hheader
  simpa using congrArg List.length hhints

theorem shape_of_bare {s c : TableSource δ} (h : bare c = bare s) : c.shape = s.shape := by
  rw [← c.shape_bare, h, s.shape_bare]

theorem feed_of_bare [SourceDialect δ] {s c : TableSource δ} (h : bare c = bare s) :
    c.feed = s.feed := by
  rw [← c.feed_bare, h, s.feed_bare]

end TableSource

theorem TableRef.addPartition_not_same [SourceDialect δ] {t : TableRef} {s : TableSource δ}
    (h : (TableSource.table t : TableSource δ).shape = s.shape) (e : Expr) :
    (TableSource.table (t.addPartition e) : TableSource δ).same s = false := by
  rw [← Bool.not_eq_true, TableSource.same_iff_alike, ← h]
  simp [TableSource.shape, TableSource.Shape.Alike, addPartition]

theorem ensure_ends {condition : Bool} (h : condition = true) (v : Violation) :
    Ends (ensure condition v : Auditing Unit) (.ok ()) := by
  rw [h, ensure_true]
  exact .pure ()

theorem auditClone_ends [SourceDialect δ] {η : Type} [DecidableEq η] (digest : List Word → η)
    {b : Blueprint} {s c : TableSource δ} (hs : b.Frames s) (hbare : bare c = bare s)
    (hid : nodeId c ≠ nodeId s) (hparent : parent? c = none) :
    Ends (auditClone digest s c) (.ok ()) := by
  have hshape := TableSource.shape_of_bare hbare
  have hsame (x : TableSource δ) (hx : x.shape = c.shape) : x.same s = true := by
    rw [TableSource.same_iff_alike, hx, hshape]
    exact hs.alike
  have hfeed (x : TableSource δ) (hx : x.feed = c.feed) :
      decide (digest x.feed = digest s.feed) = true := by
    rw [decide_eq_true_eq, hx, TableSource.feed_of_bare hbare]
  unfold auditClone
  refine (ensure_ends (hsame c rfl) _).bind fun _ => ?_
  refine (ensure_ends (hfeed c rfl) _).bind fun _ => ?_
  refine (ensure_ends (decide_eq_true hid) _).bind fun _ => ?_
  refine (ensure_ends (by rw [hparent]; rfl) _).bind fun _ => ?_
  refine (Ends.lift _).bind fun hint => ?_
  refine (ensure_ends (hsame _ (TableSource.shape_setHeader _ c)) _).bind fun _ => ?_
  refine (ensure_ends (hfeed _ (TableSource.feed_setHeader _ c)) _).bind fun _ => ?_
  refine (ensure_ends ?_ _).bind fun _ => ?_
  · rw [decide_eq_true_eq, TableSource.header_setHeader, ← TableSource.hints_of_bare hbare]
    exact List.length_append
  · cases c with
    | table t =>
      refine (Ends.lift _).bind fun e => ensure_ends ?_ _
      rw [TableRef.addPartition_not_same ((TableSource.shape_setHeader _ (.table t)).trans hshape)]
      rfl
    | join _ | dialect _ _ _ => exact .pure ()

/-! ## The verdict -/

section

variable [SourceDialect δ] {η : Type} [DecidableEq η] {digest : List Word → η} {s : TableSource δ}
  {u u' : Supply}

theorem clone_adapt_run : ((s.tryClone 256).adapt Violation.cloneFailed).run u =
    (((s.tryClone 256).run u).1.mapError .cloneFailed, ((s.tryClone 256).run u).2) := rfl

theorem auditWith_error {e : TreeError} (h : (s.tryClone 256).run u = (.error e, u')) :
    ((auditWith digest s).run u).1 = .error (.cloneFailed e) := by
  rw [auditWith, Depth.defaultLimit, Ends.run_bind, clone_adapt_run, h]
  rfl

theorem auditWith_ok {c : TableSource δ} (h : (s.tryClone 256).run u = (.ok c, u'))
    (hc : Ends (auditClone digest s c) (.ok ())) :
    ((auditWith digest s).run u).1 = auditWalk s := by
  have hresult := hc u'
  rw [auditWith, Depth.defaultLimit, Ends.run_bind, clone_adapt_run, h]
  change ((auditClone digest s c >>= fun _ => liftM (auditWalk s)).run u').1 = _
  rw [Ends.run_bind]
  cases hrun : (auditClone digest s c).run u' with
  | mk result u'' =>
    rw [hrun] at hresult
    cases result with
    | ok _ => rfl
    | error v => cases hresult

end

theorem Grown.heads_differ {T : Attributes → Prop} {s c : TableSource δ} {u u' : Supply}
    (h : Grown T u u' [family c, family s]) : nodeId c ≠ nodeId s := by
  have hdistinct := h.distinct
  rw [List.flatMap_cons, List.flatMap_singleton, List.nodup_append] at hdistinct
  exact hdistinct.2.2 _ (nodeId_mem_ids c) _ (nodeId_mem_ids s)

section

variable [SourceDialect δ] {η : Type} [DecidableEq η] (digest : List Word → η) {b : Blueprint}
  {s c : TableSource δ} {u u' u'' : Supply}

/-- Where a copy is made, nothing is wrong with it, and the walk decides. -/
theorem auditWith_copied (hs : b.Frames s) (hgrown : Grown AnyAttributes u u' [family s])
    (h : (s.tryClone 256).run u' = (.ok c, u'')) :
    ((auditWith digest s).run u').1 = auditWalk s := by
  have hboth : Grown AnyAttributes u u'' [family c, family s] := by
    have hmade := s.cloneAt_tries (T := AnyAttributes) trivial (.root 256) u u' _ hgrown
    change Grown _ _ ((s.tryClone 256).run u').2 (madeIfOk _ ((s.tryClone 256).run u').1 ++ _)
      at hmade
    rwa [h] at hmade
  have hparent := (hboth.rooted _ List.mem_cons_self).1
  rw [HasFamily.family_info] at hparent
  obtain ⟨hbare, -⟩ := s.cloneAt_yields (.root 256) u' c u'' h
  exact auditWith_ok h (auditClone_ends digest hs hbare hboth.heads_differ hparent)

theorem auditWith_eq (hs : b.Frames s) (hgrown : Grown AnyAttributes u u' [family s]) :
    ((auditWith digest s).run u').1 =
      if b.nesting ≤ 256 then
        if (Node.source (ε := Empty) s).outline.height ≤ 256 then .ok ()
        else .error (.walkFailed (.depthLimitExceeded 256))
      else .error (.cloneFailed (.depthLimitExceeded 256)) := by
  have hends := hs.cloneAt_ends (d := .root 256) (Nat.zero_le _) u'
  change ((s.tryClone 256).run u').1.map _ = _ at hends
  rw [Depth.reach, Depth.root, Nat.zero_add] at hends
  cases hcopy : (s.tryClone 256).run u' with
  | mk result u'' =>
    rw [hcopy] at hends
    by_cases hnesting : b.nesting ≤ 256
    · rw [if_pos hnesting] at hends ⊢
      cases result with
      | error e => cases hends
      | ok c =>
        obtain ⟨-, hlinked⟩ := hgrown.rooted _ List.mem_cons_self
        have hdistinct := hgrown.distinct
        rw [List.flatMap_singleton] at hdistinct
        rw [auditWith_copied digest hs hgrown hcopy]
        split
        next hheight => exact auditWalk_ok hs hdistinct hlinked hheight
        next hheight => exact auditWalk_error hheight
    · rw [if_neg hnesting] at hends ⊢
      cases result with
      | ok c => cases hends
      | error e =>
        cases hends
        exact auditWith_error hcopy

end

/-- An audit of what a blueprint builds passes exactly if the source is no higher than the ceiling.
If the joins nest deeper, the audit ends at the copy; if only the expressions go deeper, it ends at
the walk. It ends nowhere else, whatever digest the words are compared by. -/
theorem Blueprint.audit_of_build [SourceDialect δ] {η : Type} [DecidableEq η]
    (digest : List Word → η) (b : Blueprint) (u : Supply) :
    let built := (b.build : Fresh (TableSource δ)) u
    let height := (Node.source (ε := Empty) built.1).outline.height
    let verdict := ((auditWith digest built.1).run built.2).1
    (verdict = .ok () ↔ height ≤ 256) ∧
      (256 < b.nesting → verdict = .error (.cloneFailed (.depthLimitExceeded 256))) ∧
      (b.nesting ≤ 256 → 256 < height →
        verdict = .error (.walkFailed (.depthLimitExceeded 256))) := by
  intro built height verdict
  have hnesting : b.nesting ≤ height := (b.build_frames u).nesting_le_height
  have hverdict : verdict = if b.nesting ≤ 256 then
      if height ≤ 256 then .ok () else .error (.walkFailed (.depthLimitExceeded 256))
      else .error (.cloneFailed (.depthLimitExceeded 256)) :=
    auditWith_eq digest (b.build_frames u) (b.build_grown u)
  rw [hverdict]
  refine ⟨⟨fun hok => ?_, fun hheight => ?_⟩, fun hdeep => ?_, fun hshallow hdeep => ?_⟩
  · by_contra hheight
    rw [if_neg hheight] at hok
    split at hok <;> cases hok
  · rw [if_pos (by omega), if_pos hheight]
  · rw [if_neg (by omega)]
  · rw [if_pos hshallow, if_neg (by omega)]

/-- A join of two tables passes, 257 nested joins end at the copy, and a path of 257 names ends at
the walk. -/
theorem Blueprint.audit_of_build_limits :
    let verdict (b : Blueprint) : Except Violation Unit :=
      let built := (b.build : Fresh (TableSource SourceKind)) .counting
      ((auditWith id built.1).run built.2).1
    let nameless : Blueprint := .table [] none [] [] none
    let nest (b : Blueprint) : Blueprint := .join b .innerJoin nameless none [] false none
    verdict (nest nameless) = .ok () ∧
      verdict (Nat.repeat nest 257 nameless) = .error (.cloneFailed (.depthLimitExceeded 256)) ∧
      verdict (.table (.replicate 257 "t") none [] [] none) =
        .error (.walkFailed (.depthLimitExceeded 256)) := by
  intro verdict nameless nest
  obtain ⟨hpasses, -, -⟩ := audit_of_build (δ := SourceKind) id (nest nameless) .counting
  obtain ⟨-, hcopy, -⟩ := audit_of_build (δ := SourceKind) id (Nat.repeat nest 257 nameless)
    .counting
  obtain ⟨-, -, hwalk⟩ := audit_of_build (δ := SourceKind) id
    (.table (.replicate 257 "t") none [] [] none) .counting
  exact ⟨hpasses.mpr (by decide), hcopy (by decide +kernel),
    hwalk (by decide) (by decide +kernel)⟩

end SqlTree
