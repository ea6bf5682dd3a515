import Mathlib.Data.List.Basic
import Mathlib.Data.List.Forall2
import SqlTree.Feed

/-! # Feeds that end where they end

A feed is delimited if it can be told from what comes after it: where the feeds of two values, each
with something after it, are equal as a whole, the values say the same and the rests are equal. So no
feed is a proper prefix of another one. -/

namespace SqlTree

/-- The feed of `a` is told apart from other feeds and from what follows, up to `R`. -/
def DelimitsAt {α : Type} (feed : α → List Word) (R : α → α → Prop) (a : α) : Prop :=
  ∀ b rest rest', feed a ++ rest = feed b ++ rest' ↔ R a b ∧ rest = rest'

section

variable {α : Type} {feed : α → List Word} {R : α → α → Prop} {a : α}

theorem DelimitsAt.feed_eq_iff (h : DelimitsAt feed R a) (b : α) : feed a = feed b ↔ R a b := by
  have hnil := h b [] []
  rw [List.append_nil, List.append_nil] at hnil
  rw [hnil]
  exact and_iff_left rfl

theorem DelimitsAt.eq_of_isPrefix (h : DelimitsAt feed R a) {b : α} (hp : feed a <+: feed b) :
    feed a = feed b := by
  obtain ⟨rest, hrest⟩ := hp
  obtain ⟨hR, -⟩ := (h b rest []).mp (by rw [hrest, List.append_nil])
  exact (h.feed_eq_iff b).mpr hR

/-- One feed after another, for as many values on both sides. -/
theorem delimits_items {as bs : List α} (h : ∀ a ∈ as, DelimitsAt feed R a)
    (hlength : as.length = bs.length) (rest rest' : List Word) :
    as.flatMap feed ++ rest = bs.flatMap feed ++ rest' ↔ List.Forall₂ R as bs ∧ rest = rest' := by
  induction as generalizing bs with
  | nil =>
    cases bs with
    | nil => simp
    | cons b bs => cases hlength
  | cons a as ih =>
    cases bs with
    | nil => cases hlength
    | cons b bs =>
      have hrest := ih (fun a ha => h a (List.mem_cons_of_mem _ ha)) (Nat.succ.inj hlength)
      rw [List.flatMap_cons, List.flatMap_cons, List.append_assoc, List.append_assoc,
        h a List.mem_cons_self, hrest, List.forall₂_cons, and_assoc]

theorem delimits_list {as : List α} (h : ∀ a ∈ as, DelimitsAt feed R a) :
    DelimitsAt (Feed.list feed) (List.Forall₂ R) as := by
  intro bs rest rest'
  simp only [Feed.list, List.cons_append, List.cons.injEq, Word.count.injEq]
  constructor
  · rintro ⟨hlength, hitems⟩
    exact (delimits_items h hlength rest rest').mp hitems
  · rintro ⟨hR, hrest⟩
    exact ⟨hR.length_eq, (delimits_items h hR.length_eq rest rest').mpr ⟨hR, hrest⟩⟩

end

/-! ## Values that are fed by what they have in common

Most values are equal if some part of them is: two expressions if their shapes are. -/

section

variable {α κ : Type} {feed : α → List Word} {key : α → κ}

/-- Two values are told apart by their keys. -/
abbrev Delimits (feed : α → List Word) (key : α → κ) : Prop :=
  ∀ a, DelimitsAt feed (fun a b => key a = key b) a

theorem Delimits.list (h : Delimits feed key) : Delimits (Feed.list feed) (List.map key) := by
  intro as bs rest rest'
  have hkeys : as.map key = bs.map key ↔ List.Forall₂ (fun a b => key a = key b) as bs := by
    rw [← List.forall₂_map_right_iff, ← List.forall₂_map_left_iff (f := key), List.forall₂_eq_eq_eq]
  exact (delimits_list (fun a _ => h a) bs rest rest').trans (and_congr_left' hkeys.symm)

theorem Delimits.option (h : Delimits feed key) : Delimits (Feed.option feed) (Option.map key) := by
  intro a b rest rest'
  cases a <;> cases b <;> simp [Feed.option, h _ _ _ _]

end

/-! ## Texts -/

theorem ofNat_ne_end {n : Nat} (h : n < 0xFF) : UInt8.ofNat n ≠ 0xFF := by
  intro heq
  have hn : (UInt8.ofNat n).toNat = n := UInt8.toNat_ofNat_of_lt (show n < 256 by omega)
  rw [heq] at hn
  exact Nat.ne_of_gt h hn

/-- No byte of a text is the one that ends it. -/
theorem ne_end_of_mem_utf8EncodeChar {c : Char} {b : UInt8} (hb : b ∈ String.utf8EncodeChar c) :
    b ≠ 0xFF := by
  unfold String.utf8EncodeChar at hb
  dsimp only at hb
  split_ifs at hb <;> simp only [List.mem_cons, List.not_mem_nil, or_false] at hb
  · subst hb
    exact ofNat_ne_end (by omega)
  · rcases hb with rfl | rfl <;> exact ofNat_ne_end (by omega)
  · rcases hb with rfl | rfl | rfl <;> exact ofNat_ne_end (by omega)
  · rcases hb with rfl | rfl | rfl | rfl <;> exact ofNat_ne_end (by omega)

theorem flatMap_utf8EncodeChar_inj {s t : String}
    (h : s.toList.flatMap String.utf8EncodeChar = t.toList.flatMap String.utf8EncodeChar) :
    s = t := by
  apply String.toByteArray_inj.mp
  rw [← String.utf8Encode_toList, ← String.utf8Encode_toList]
  exact congrArg List.toByteArray h

/-- Two lists that end at the first `x` can be told from what follows. -/
theorem append_end_inj {α : Type} {x : α} {as bs rest rest' : List α} (ha : x ∉ as) (hb : x ∉ bs) :
    as ++ x :: rest = bs ++ x :: rest' ↔ as = bs ∧ rest = rest' := by
  induction as generalizing bs with
  | nil => cases bs <;> simp_all [eq_comm]
  | cons a as ih => cases bs <;> simp_all [eq_comm, and_assoc]

theorem text_delimits : Delimits Feed.text id := by
  intro s t rest rest'
  have hend (s : String) :
      Word.byte 0xFF ∉ (s.toList.flatMap String.utf8EncodeChar).map Word.byte := by
    intro hmem
    obtain ⟨b, hb, hword⟩ := List.mem_map.mp hmem
    obtain ⟨c, -, hc⟩ := List.mem_flatMap.mp hb
    exact ne_end_of_mem_utf8EncodeChar hc (Word.byte.inj hword)
  have hinj : Function.Injective (List.map Word.byte) :=
    List.map_injective_iff.mpr fun _ _ => Word.byte.inj
  simp only [Feed.text, List.append_assoc, List.cons_append, List.nil_append]
  rw [append_end_inj (hend s) (hend t), hinj.eq_iff]
  exact and_congr_left' ⟨flatMap_utf8EncodeChar_inj, fun h => congrArg _ (congrArg String.toList h)⟩

/-! ## Fixed words -/

theorem BinaryOperator.ordinal_inj {o p : BinaryOperator} : o.ordinal = p.ordinal ↔ o = p := by
  have hall (o : BinaryOperator) : o ∈ all := by cases o <;> decide
  exact List.idxOf_inj (hall o)

theorem JoinKind.ordinal_inj {k l : JoinKind} : k.ordinal = l.ordinal ↔ k = l := by
  have hall (k : JoinKind) : k ∈ all := by cases k <;> decide
  exact List.idxOf_inj (hall k)

theorem Direction.ordinal_inj {d e : Direction} : d.ordinal = e.ordinal ↔ d = e := by
  have hall (d : Direction) : d ∈ all := by cases d <;> decide
  exact List.idxOf_inj (hall d)

/-! ## Values, expressions and data types -/

theorem bytes_delimits : Delimits (fun b : UInt8 => [Word.byte b]) id := by
  intro a b rest rest'
  simp

theorem Binary64.bits_inj {x y : Binary64} : x.bits = y.bits ↔ x = y := by
  cases x
  cases y
  simp

theorem Value.feed_delimits : Delimits Value.feed id := by
  intro a b rest rest'
  cases a <;> cases b <;>
    simp [Value.feed, text_delimits _ _ _ _, bytes_delimits.list _ _ _ _, Binary64.bits_inj]

theorem Expr.feed_property (i : NodeInfo) (owner : Expr) (name : String) :
    (property i owner name).feed = .count 1 :: (owner.feed ++ Feed.text name) := by
  rw [feed, feedOnto, feedOnto_eq, List.append_nil]

theorem Expr.feed_binary (i : NodeInfo) (left : Expr) (op : BinaryOperator) (right : Expr) :
    (binary i left op right).feed =
      .count 3 :: (left.feed ++ .count op.ordinal :: right.feed) := by
  rw [feed, feedOnto, feedOnto_eq, feedOnto_eq, List.append_nil]

theorem Expr.feed_delimits : Delimits Expr.feed Expr.shape := by
  intro a
  induction a with
  | identifier i name =>
    intro b rest rest'
    cases b <;> simp [feed, feedOnto, shape, text_delimits _ _ _ _]
  | property i owner name ih =>
    intro b rest rest'
    cases b with
    | property _ owner' name' =>
      simp [feed_property, shape, ih _ _ _, text_delimits _ _ _ _, and_assoc]
    | identifier _ _ | literal _ _ | binary _ _ _ _ => simp [feed, feedOnto, shape]
  | literal i value =>
    intro b rest rest'
    cases b <;> simp [feed, feedOnto, shape, Value.feed_delimits _ _ _ _]
  | binary i left op right ihl ihr =>
    intro b rest rest'
    cases b with
    | binary _ left' op' right' =>
      simp [feed_binary, shape, ihl _ _ _, ihr _ _ _, BinaryOperator.ordinal_inj, and_assoc]
    | identifier _ _ | property _ _ _ | literal _ _ => simp [feed, feedOnto, shape]

/-- What two equal data types have in common. -/
def DataType.key (t : DataType) : String × List Expr.Shape := (t.name, t.arguments.map Expr.shape)

theorem DataType.feed_delimits : Delimits DataType.feed DataType.key := by
  intro t u rest rest'
  simp [feed, key, text_delimits _ _ _ _, Expr.feed_delimits.list _ _ _ _, and_assoc]

end SqlTree
