import SqlTree.Proofs.Blindness
import SqlTree.Proofs.Mirrors
import SqlTree.Proofs.Sessions

/-! # Operations and questions on renamed nodes

What an operation makes of renamed nodes is what it makes of the nodes, renamed, and it draws in
step. A question about renamed nodes gets the renamed answer. -/

namespace SqlTree

open Node

variable {δ ε : Type} (ρ : NodeId → NodeId)

/-! ## Operands -/

section

variable {ρ} {α β : Type} [HasRename α] [HasRename β] {o o' : Option α} (ho : o' = rename ρ o)

include ho

theorem map_rename {f g : α → β} (hf : ∀ a, g (rename ρ a) = rename ρ (f a)) :
    o'.map g = rename ρ (o.map f) := by
  rw [ho]
  cases o with
  | none => rfl
  | some a => exact congrArg some (hf a)

theorem bind_rename {f g : α → Option β} (hf : ∀ a, g (rename ρ a) = rename ρ (f a)) :
    o'.bind g = rename ρ (o.bind f) := by
  rw [ho]
  cases o with
  | none => rfl
  | some a => exact hf a

end

theorem mapM_renamed {ρ} {α β : Type} [HasRename β] {f g : α → Option β}
    (h : ∀ a, g a = rename ρ (f a)) (as : List α) : as.mapM g = rename ρ (as.mapM f) := by
  induction as with
  | nil => rfl
  | cons a as ih =>
    rw [List.mapM_cons, List.mapM_cons]
    exact bind_rename (h a) fun _ => bind_rename ih fun _ => rfl

section

variable {ρ} {α β : Type} [HasRename α] [HasRename β] {f : α → Option β}
  (h : ∀ a, f (rename ρ a) = rename ρ (f a))

include h

theorem mapM_rename (as : List α) : (rename ρ as).mapM f = rename ρ (as.mapM f) := by
  rw [rename_list, List.mapM_map]
  exact mapM_renamed h as

end

namespace Node

variable {ρ} {α : Type} [HasRename α] {as? : Node δ ε → Option α}
  (h : ∀ n, as? (rename ρ n) = rename ρ (as? n))

include h

theorem one?_rename (ns : List (Node δ ε)) :
    one? as? (rename ρ ns) = rename ρ (one? as? ns) := by
  match ns with
  | [n] => exact h n
  | [] | _ :: _ :: _ => rfl

theorem slot?_rename (ns : List (Node δ ε)) :
    slot? as? (rename ρ ns) = rename ρ (slot? as? ns) := by
  match ns with
  | [n] => exact map_rename (h n) fun _ => rfl
  | [] | _ :: _ :: _ => rfl

end Node

section

variable (n : Node δ ε)

theorem Node.expr?_rename : (rename ρ n).expr? = rename ρ n.expr? := by cases n <;> rfl

theorem Node.dataType?_rename : (rename ρ n).dataType? = rename ρ n.dataType? := by cases n <;> rfl

theorem Node.hint?_rename : (rename ρ n).hint? = rename ρ n.hint? := by cases n <;> rfl

theorem Node.select?_rename : (rename ρ n).select? = rename ρ n.select? := by cases n <;> rfl

theorem Node.table?_rename : (rename ρ n).table? = rename ρ n.table? := by cases n <;> rfl

theorem Node.parameter?_rename : (rename ρ n).parameter? = rename ρ n.parameter? := by
  cases n <;> rfl

theorem Node.create?_rename : (rename ρ n).create? = rename ρ n.create? := by cases n <;> rfl

end

/-! ## Constructors -/

instance : HasRename (Construction δ ε) where
  rename ρ
    | .property owner name => .property (rename ρ owner) name
    | .binary left op right => .binary (rename ρ left) op (rename ρ right)
    | .table e => .table (rename ρ e)
    | .join left kind right condition =>
      .join (rename ρ left) kind (rename ρ right) (rename ρ condition)
    | .dialectSource kind parts => .dialectSource kind (rename ρ parts)
    | .column name => .column (rename ρ name)
    | .unique columns primaryKey => .unique (rename ρ columns) primaryKey
    | .index name columns => .index (rename ρ name) (rename ρ columns)
    | .check e => .check (rename ρ e)
    | .dialectElement kind parts nested =>
      .dialectElement kind (rename ρ parts) (rename ρ nested)
    | c => c
  rename_rename ρ σ c := by cases c <;> simp

theorem Construction.rename_plain {c : Construction δ ε} (h : c.given = []) : rename ρ c = c := by
  cases c with
  | dialectSource _ parts | unique parts _ =>
    cases List.map_eq_nil_iff.mp h
    rfl
  | dialectElement _ parts inner =>
    obtain ⟨rfl, rfl⟩ := List.append_eq_nil_iff.mp (List.map_eq_nil_iff.mp h)
    rfl
  | identifier _ | path _ | literal _ | dataType _ | hint _ | select _ | emptyTable | emptyJoin
  | create _ | parameter => rfl
  | _ => cases h

theorem Maker.construction?_rename (m : Maker δ ε) (ns : List (Node δ ε)) :
    m.construction? (rename ρ ns) = rename ρ (m.construction? ns) := by
  have hone := one?_rename (expr?_rename ρ) ns
  have hmany := mapM_rename (expr?_rename ρ) ns
  cases m with
  | plain c =>
    cases ns with
    | nil => exact congrArg some (Construction.rename_plain ρ c.property).symm
    | cons _ _ => rfl
  | property _ | table | column | check => exact map_rename hone fun _ => rfl
  | dialectSource _ | unique _ => exact map_rename hmany fun _ => rfl
  | dialectElement kind parts =>
    refine map_rename hmany fun es => ?_
    exact congrArg₂ (Construction.dialectElement kind) List.map_take.symm List.map_drop.symm
  | binary op =>
    match ns with
    | [l, r] =>
      exact bind_rename (l.expr?_rename ρ) fun _ => bind_rename (r.expr?_rename ρ) fun _ => rfl
    | [] | [_] | _ :: _ :: _ :: _ => rfl
  | join kind =>
    match ns with
    | l :: r :: ns =>
      refine bind_rename l.rename_source?.symm fun _ => ?_
      refine bind_rename r.rename_source?.symm fun _ => ?_
      exact bind_rename (slot?_rename (expr?_rename ρ) ns) fun _ => rfl
    | [] | [_] => rfl
  | index =>
    cases ns with
    | nil => rfl
    | cons n ns =>
      refine bind_rename (n.expr?_rename ρ) fun _ => ?_
      exact bind_rename (mapM_rename (expr?_rename ρ) ns) fun _ => rfl

theorem Construction.build_mirrors (c : Construction δ ε) :
    Mirrors ρ c.build (rename ρ c).build := by
  cases c with
  | identifier name => exact (Expr.newIdentifier_mirrors name).map fun _ => rfl
  | property owner name => exact (Expr.newProperty_mirrors owner name).map fun _ => rfl
  | path segments =>
    refine (Expr.newPath?_mirrors segments).map fun e => ?_
    cases e <;> rfl
  | literal value => exact (Expr.newLiteral_mirrors value).map fun _ => rfl
  | binary left op right => exact (Expr.newBinary_mirrors left op right).map fun _ => rfl
  | dataType name => exact (DataType.new_mirrors name).map fun _ => rfl
  | hint text => exact (Hint.new_mirrors text).map fun _ => rfl
  | select text => exact (Select.new_mirrors text).map fun _ => rfl
  | emptyTable => exact TableRef.empty_mirrors.map fun _ => rfl
  | table e => exact (TableRef.new_mirrors e).map fun _ => rfl
  | emptyJoin => exact Join.empty_mirrors.map fun _ => rfl
  | join left kind right condition =>
    exact (Join.new_mirrors left kind right condition).map fun _ => rfl
  | dialectSource kind parts => exact (TableSource.newDialect_mirrors kind parts).map fun _ => rfl
  | column name => exact (Column.new_mirrors name).map fun _ => rfl
  | unique columns primaryKey => exact (UniqueKey.new_mirrors columns primaryKey).map fun _ => rfl
  | index name columns => exact (TableIndex.new_mirrors name columns).map fun _ => rfl
  | check e => exact (Check.new_mirrors e).map fun _ => rfl
  | dialectElement kind parts inner =>
    exact (TableElement.newDialect_mirrors kind parts inner).map fun _ => rfl
  | create dbType => exact (CreateTable.new_mirrors dbType).map fun _ => rfl
  | parameter => exact Parameter.empty_mirrors.map fun _ => rfl

/-! ## Edits -/

theorem Edit.rename_plain {e : Edit δ ε} (h : e.given = []) : rename ρ e = e := by
  have hslot {α : Type} [HasRename α] {wrap : α → Node δ ε} {slot : Option α}
      (hslot : (slot.map wrap).toList = []) : rename ρ slot = slot := by
    cases slot with
    | none => rfl
    | some a => cases hslot
  have hlist {α : Type} [HasRename α] {wrap : α → Node δ ε} {as : List α}
      (hlist : as.map wrap = []) : rename ρ as = as := by
    cases List.map_eq_nil_iff.mp hlist
    rfl
  cases e with
  | setHints _ | setParameters _ => exact congrArg _ (hlist h)
  | setFlashback _ | setExpr _ | setCondition _ | setName _ | setDefaultValue _ | setCursor _
  | setLeft _ | setRight _ | setSource _ | setInherits _ | setSelect _ | setDataType _ =>
    exact congrArg _ (hslot h)
  | addHint _ | addPartition _ | addUsing _ | addElement _ | addColumn _ | addArgument _
  | addParameter _ => cases h
  | _ => rfl

theorem Editor.edit?_rename (e : Editor δ ε) (ns : List (Node δ ε)) :
    e.edit? (rename ρ ns) = rename ρ (e.edit? ns) := by
  have hexpr := one?_rename (expr?_rename ρ) ns
  have hslot := slot?_rename (expr?_rename ρ) ns
  have hsource := slot?_rename (fun n => (rename_source? (ρ := ρ) n).symm) ns
  have htable := slot?_rename (table?_rename ρ) ns
  cases e with
  | plain e =>
    cases ns with
    | nil => exact congrArg some (Edit.rename_plain ρ e.property).symm
    | cons _ _ => rfl
  | addPartition | addUsing | addColumn | addArgument => exact map_rename hexpr fun _ => rfl
  | setFlashback | setExpr | setCondition | setName | setDefaultValue | setCursor =>
    exact map_rename hslot fun _ => rfl
  | setLeft | setRight => exact map_rename hsource fun _ => rfl
  | setSource | setInherits => exact map_rename htable fun _ => rfl
  | addHint => exact map_rename (one?_rename (hint?_rename ρ) ns) fun _ => rfl
  | setHints => exact map_rename (mapM_rename (hint?_rename ρ) ns) fun _ => rfl
  | addElement =>
    exact map_rename (one?_rename (fun n => (rename_element? n).symm) ns) fun _ => rfl
  | setSelect => exact map_rename (slot?_rename (select?_rename ρ) ns) fun _ => rfl
  | setDataType => exact map_rename (slot?_rename (dataType?_rename ρ) ns) fun _ => rfl
  | addParameter => exact map_rename (one?_rename (parameter?_rename ρ) ns) fun _ => rfl
  | setParameters => exact map_rename (mapM_rename (parameter?_rename ρ) ns) fun _ => rfl

/-! ## Operations on trees -/

instance : HasRename Verdict where
  rename _ v := v
  rename_rename _ _ _ := rfl

instance : HasRename (Reply δ ε) where
  rename ρ r :=
    { r with nodes := rename ρ r.nodes, ids := rename ρ r.ids, events := rename ρ r.events }
  rename_rename ρ σ r := by simp

theorem Handback.toList_rename (b : Handback δ ε) : (rename ρ b).toList = rename ρ b.toList := by
  cases b <;> rfl

theorem Handback.verdict_rename (b : Handback δ ε) : (rename ρ b).verdict = b.verdict := by
  cases b <;> rfl

namespace Work

theorem replacing_rename (r : Node δ ε × Replacement) :
    replacing (rename ρ r) = rename ρ (replacing r) := by
  obtain ⟨n, r⟩ := r
  cases r <;> rfl

theorem alone_rename {n n' : Node δ ε} (h : n' = rename ρ n) (given : List (Node δ ε))
    (v : Verdict) : alone (rename ρ given) n' v = rename ρ (alone given n v) := by
  rw [h]
  cases given <;> rfl

theorem head?_rename (ids : List NodeId) : (rename ρ ids).head? = rename ρ ids.head? :=
  List.head?_map

variable {ρ}

theorem apply_mirrors (hρ : Function.Injective ρ) (w : Work δ ε) (ids : List NodeId)
    (given : List (Node δ ε)) (n : Node δ ε) :
    Mirrors ρ (w.apply ids given n) (w.apply (rename ρ ids) (rename ρ given) (rename ρ n)) := by
  have htarget := one?_rename (expr?_rename ρ) given
  have hattributes (b : Attributes) (v : Verdict) :=
    alone_rename ρ (rename_setAttributes ρ b n).symm given v
  cases w with
  | edit e =>
    rw [apply, apply, e.edit?_rename]
    cases e.edit? given with
    | none => exact .pure rfl
    | some e =>
      refine (n.edit_mirrors e).map fun r => map_rename rfl fun r => ?_
      exact congrArg (Prod.mk (rename ρ r.1))
        (Prod.ext (r.2.toList_rename ρ) (r.2.verdict_rename ρ))
  | replace =>
    refine .pure (bind_rename (head?_rename ρ ids) fun id => bind_rename htarget fun e => ?_)
    exact bind_rename (rename_replace? hρ id e n).symm fun r => congrArg some (replacing_rename ρ r)
  | replaceFlashback =>
    refine .pure (bind_rename (head?_rename ρ ids) fun id => bind_rename htarget fun e => ?_)
    exact bind_rename (rename_replaceFlashback? hρ id e n).symm fun r =>
      congrArg some (replacing_rename ρ r)
  | setParent =>
    rw [apply, apply, head?_rename]
    exact .pure (alone_rename ρ (rename_setParent ρ ids.head? n).symm given .done)
  | putAttribute key v =>
    rw [apply, apply, attributes_rename]
    exact .pure (hattributes _ _)
  | eraseAttribute key =>
    rw [apply, apply, attributes_rename]
    exact .pure (hattributes _ _)
  | modifyAttribute t key f =>
    rw [apply, apply, attributes_rename]
    exact .pure (hattributes _ _)

end Work

variable {ρ}

theorem Node.inner_rename (n : Node δ ε) : (rename ρ n).inner = rename ρ n.inner := by
  cases n with
  | source s =>
    cases s with
    | join j =>
      change inner (source (rename ρ (.join j))) = _
      rw [TableSource.rename_join]
      rfl
    | table _ | dialect _ _ _ => rfl
  | element e => exact e.rename_toNode.symm
  | _ => rfl

theorem Deed.perform_mirrors (hρ : Function.Injective ρ) (d : Deed δ ε) (ids : List NodeId)
    (ns : List (Node δ ε)) :
    Mirrors ρ (d.perform ids ns) (d.perform (rename ρ ids) (rename ρ ns)) := by
  cases d with
  | make m =>
    rw [perform, perform, m.construction?_rename]
    cases m.construction? ns with
    | none => exact .pure rfl
    | some c => exact (c.build_mirrors ρ).map fun _ => rfl
  | work f w =>
    cases ns with
    | nil => exact .pure rfl
    | cons n given =>
      change Mirrors ρ _ (perform _ _ (rename ρ n :: rename ρ given))
      rw [perform, perform, ← rename_part?]
      cases n.part? f with
      | none => exact .pure rfl
      | some part =>
        refine (w.apply_mirrors hρ ids given part).map fun r => map_rename rfl fun r => ?_
        exact congrArg (fun n => (n :: rename ρ r.2.1, _)) (rename_setPart f r.1 n).symm
  | toSource =>
    match ns with
    | [n] => exact .pure (map_rename n.rename_source?.symm fun _ => rfl)
    | [] | _ :: _ :: _ => exact .pure rfl
  | toElement =>
    match ns with
    | [n] => exact .pure (map_rename n.rename_element?.symm fun _ => rfl)
    | [] | _ :: _ :: _ => exact .pure rfl
  | toInner =>
    match ns with
    | [n] => exact .pure (congrArg (fun n => some ([n], _)) n.inner_rename)
    | [] | _ :: _ :: _ => exact .pure rfl
  | drop =>
    match ns with
    | [n] => exact .pure rfl
    | [] | _ :: _ :: _ => exact .pure rfl

/-! ## Nodes inside trees -/

namespace Node

theorem apart_rename (n : Node δ ε) : (rename ρ n).apart = rename ρ n.apart := by
  have hheader (h : SourceHeader) :
      apart.ofHeader (rename ρ h) = rename ρ (apart.ofHeader (δ := δ) (ε := ε) h) := by
    have hhints := wrap_rename ρ (hint (δ := δ) (ε := ε)) (fun _ => rfl) h.hints
    have hflashback := ofSlot_rename ρ (expr (δ := δ) (ε := ε)) (fun _ => rfl) h.flashback
    rw [rename_list, apart.ofHeader, apart.ofHeader, List.map_append, ← hhints, ← hflashback]
    rfl
  cases n with
  | table t => exact hheader t.header
  | join j => exact hheader j.header
  | source s =>
    change apart.ofHeader (header (rename ρ s)) = _
    rw [s.header_rename]
    exact hheader (header s)
  | _ => rfl

theorem reach_rename (n : Node δ ε) : (rename ρ n).reach = rename ρ n.reach := by
  rw [reach, reach, inner_rename, walked_rename, apart_rename, rename_list, rename_list,
    List.map_cons, List.map_append]

theorem at?_rename (path : List Nat) (n : Node δ ε) :
    (rename ρ n).at? path = rename ρ (n.at? path) := by
  induction path generalizing n with
  | nil => rfl
  | cons i path ih =>
    rw [at?, at?, reach_rename]
    exact bind_rename List.getElem?_map ih

theorem knownAs?_rename (f : Text.Normalizer) (n : Node δ ε) :
    (rename ρ n).knownAs? f = n.knownAs? f := by
  cases n with
  | table t => exact congrArg some (t.computeAlias_rename ρ f)
  | source s => exact congrArg some (s.computeAlias_rename ρ f)
  | column c => exact congrArg some (c.computeAlias_rename ρ f)
  | create c => exact congrArg some (c.computeName_rename ρ f)
  | _ => rfl

end Node

namespace Query

variable [SourceDialect δ] [ElementDialect ε]

theorem about?_rename (q : Query) (n : Node δ ε) :
    q.about? (rename ρ n) = rename ρ (q.about? n) := by
  cases q with
  | info =>
    have hids : nodeId (rename ρ n) :: (parent? (rename ρ n)).toList =
        (nodeId n :: (parent? n).toList).map ρ := by
      rw [nodeId_rename, parent?_rename]
      cases parent? n <;> rfl
    exact congrArg (fun ids => some (Reply.telling ids)) hids
  | readAttribute key => rw [about?, attributes_rename]; rfl
  | same => rfl
  | feed =>
    rw [about?, feed?_rename, about?]
    cases n.feed? <;> rfl
  | render => rw [about?, render_rename]; rfl
  | knownAs f =>
    rw [about?, knownAs?_rename, about?]
    cases n.knownAs? f <;> rfl
  | findColumn f name =>
    refine map_rename (n.create?_rename ρ) fun c => ?_
    rw [c.columnIdx?_rename, c.findColumn?_rename, ofSlot_rename ρ column fun _ => rfl]
    rfl
  | findIndex f name =>
    refine map_rename (n.create?_rename ρ) fun c => ?_
    rw [c.keyIdx?_rename, c.findIndex?_rename, ofSlot_rename ρ element fun _ => rfl]
    rfl

theorem answer?_rename (q : Query) (ns : List (Node δ ε)) :
    q.answer? (rename ρ ns) = rename ρ (q.answer? ns) := by
  match ns with
  | [n] => exact q.about?_rename n
  | [m, n] =>
    cases q with
    | same =>
      change ((rename ρ m).same? (rename ρ n)).map _ = rename ρ ((m.same? n).map _)
      rw [same?_rename]
      cases m.same? n <;> rfl
    | _ => rfl
  | [] | _ :: _ :: _ :: _ => rfl

end Query

theorem IndexQuery.answer?_renamed {x y : ParentIndex} (h : x.Renamed ρ y) (q : IndexQuery)
    (ids : List NodeId) :
    q.answer? y (rename ρ ids) = rename ρ (q.answer? (δ := δ) (ε := ε) x ids) := by
  cases q with
  | parentOf =>
    match ids with
    | [n] =>
      change some (Reply.telling (y.parentOf? (ρ n)).toList) = _
      rw [h.parentOf?, answer?]
      cases x.parentOf? n <;> rfl
    | [] | _ :: _ :: _ => rfl
  | ancestors k =>
    match ids with
    | [n] => exact congrArg (fun ids => some (Reply.telling ids)) (h.ancestorsUpTo k n)
    | [] | _ :: _ :: _ => rfl
  | size =>
    cases ids with
    | nil => exact congrArg (fun n => some (Reply.plain (.count n))) h.size
    | cons _ _ => rfl
  | isEmpty =>
    cases ids with
    | nil => exact congrArg (fun b => some (Reply.plain (.flag b))) h.isEmpty
    | cons _ _ => rfl

end SqlTree
