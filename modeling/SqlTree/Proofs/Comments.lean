import Mathlib.Data.List.Induction
import SqlTree.Node.CreateTable
import SqlTree.Proofs.Bags

/-! # Comments before the body

A statement keeps its comments in its attribute bag, where other users can put a value of any type
under the same key or take it away. Batches of comments add up from the last time that this happened,
and adding them touches nothing else in the bag. All of this holds whatever types of values the bag
has room for, and whatever ordered map it is built on. -/

namespace SqlTree

/-- A change to a bag that keeps texts: a batch is added to the texts, a value of any type is stored
under any key, or a key is taken out. -/
inductive BagCall {τ : Type} (V : τ → Type)
  | extend (batch : List String)
  | put (key : String) (a : Attribute (AttributeType.Carrier V))
  | remove (key : String)

section

variable {τ : Type} {V : τ → Type}

/-- The texts that a change adds. -/
def BagCall.batch : BagCall V → List String
  | .extend batch => batch
  | .put _ _ | .remove _ => []

/-- Whether a change puts a value under a key or takes it out. -/
def BagCall.resets (key : String) : BagCall V → Bool
  | .extend _ => false
  | .put k _ | .remove k => k = key

/-- The last change that puts a value under a key or takes it out. -/
def lastReset? (key : String) (calls : List (BagCall V)) : Option (BagCall V) :=
  calls.reverse.find? (·.resets key)

/-- The changes after that one. -/
def sinceReset (key : String) (calls : List (BagCall V)) : List (BagCall V) :=
  (calls.reverse.takeWhile (!·.resets key)).reverse

/-- The texts that are there right after a value is put under their key or taken out: those that are
put, if they are texts. -/
def BagCall.base : BagCall V → List String
  | .put _ ⟨.texts, ts⟩ => ts
  | .put _ ⟨.foreign _, _⟩ | .extend _ | .remove _ => []

end

/-! ## Texts under a key -/

namespace Bag

variable {M : Type → Type} [OrderedMap M] {τ : Type} [DecidableEq τ] {V : τ → Type}
  {b : Bag M (AttributeType.Carrier V)} {x : BagCall V} {key k : String} {batch : List String}

/-- The texts under a key; a value of another type is none. -/
def texts (key : String) (b : Bag M (AttributeType.Carrier V)) : List String :=
  (b.get? .texts key).getD ([] : List String)

/-- Adds a batch to the texts under a key, where a value of another type gives way to it. -/
def extend (key : String) (batch : List String) (b : Bag M (AttributeType.Carrier V)) :
    Bag M (AttributeType.Carrier V) :=
  if batch.isEmpty then b
  else
    match b.modify .texts key fun (ts : List String) => ts ++ batch with
    | (b, some _) => b
    | (b, none) => (b.insert key ⟨.texts, batch⟩).1

def call (key : String) (b : Bag M (AttributeType.Carrier V)) :
    BagCall V → Bag M (AttributeType.Carrier V)
  | .extend batch => b.extend key batch
  | .put key a => (b.insert key a).1
  | .remove key => (b.erase key).1

theorem extend_nil : b.extend key [] = b := rfl

theorem extend_of_some {ts : List String} (hbatch : batch ≠ []) (hget : b.get? .texts key = some ts) :
    b.extend key batch = (b.modify .texts key fun (ts : List String) => ts ++ batch).1 := by
  simp [extend, hbatch, modify, hget]

theorem extend_of_none (hbatch : batch ≠ []) (hget : b.get? .texts key = none) :
    b.extend key batch = (b.insert key ⟨.texts, batch⟩).1 := by
  simp [extend, hbatch, modify, hget]

variable [LawfulOrderedMap M]

theorem find?_extend_ne (h : k ≠ key) : (b.extend key batch).find? k = b.find? k := by
  by_cases hbatch : batch = []
  · rw [hbatch, extend_nil]
  cases hget : b.get? .texts key with
  | none => rw [extend_of_none hbatch hget, find?_insert, if_neg h]
  | some ts => rw [extend_of_some hbatch hget, find?_modify_ne h]

/-- A key that is missing comes in at the end; the keys that are there stay as they are. -/
theorem keys_extend : (b.extend key batch).keys =
    if batch = [] ∨ key ∈ b.keys then b.keys else b.keys ++ [key] := by
  by_cases hbatch : batch = []
  · rw [hbatch, extend_nil, if_pos (.inl rfl)]
  simp only [hbatch, false_or]
  cases hget : b.get? .texts key with
  | none => rw [extend_of_none hbatch hget, keys_insert]
  | some ts =>
    have hkey : key ∈ b.keys := by
      by_contra habsent
      rw [get?, find?_eq_none_iff.2 habsent] at hget
      cases hget
    rw [extend_of_some hbatch hget, keys_modify, if_pos hkey]

/-- A batch goes behind the texts that can be read, whatever stood under the key. -/
theorem texts_extend : (b.extend key batch).texts key = b.texts key ++ batch := by
  by_cases hbatch : batch = []
  · rw [hbatch, extend_nil, List.append_nil]
  cases hget : b.get? .texts key with
  | none =>
    rw [extend_of_none hbatch hget, texts, texts, get?_insert_self, hget]
    rfl
  | some ts =>
    have hfound : (b.extend key batch).get? .texts key = some (ts ++ batch) := by
      rw [extend_of_some hbatch hget, get?_eq_some_iff, find?_modify hget, if_pos rfl]
    rw [texts, texts, hfound, hget]
    rfl

/-! ### Histories -/

/-- A change under the key itself sets the texts anew, and any other one adds its batch. -/
theorem texts_call : (b.call key x).texts key =
    if x.resets key then x.base else b.texts key ++ x.batch := by
  have hread {b' : Bag M (AttributeType.Carrier V)} (hfind : b'.find? key = b.find? key) :
      b'.texts key = b.texts key := by
    unfold texts get?
    rw [hfind]
  cases x with
  | extend batch => exact texts_extend
  | put l a =>
    by_cases hkey : l = key
    · subst hkey
      obtain ⟨_ | t, v⟩ := a <;>
        simp [call, texts, get?, find?_insert, BagCall.resets, BagCall.base, Attribute.as?]
    · have hfind : (b.insert l a).1.find? key = b.find? key := by
        rw [find?_insert, if_neg (Ne.symm hkey)]
      simp [call, BagCall.resets, BagCall.batch, hkey, hread hfind]
  | remove l =>
    by_cases hkey : l = key
    · subst hkey
      simp [call, texts, get?, find?_erase, BagCall.resets, BagCall.base]
    · have hfind : (b.erase l).1.find? key = b.find? key := by
        rw [find?_erase, if_neg (Ne.symm hkey)]
      simp [call, BagCall.resets, BagCall.batch, hkey, hread hfind]

/-- After a history there lie under a key the texts that the last change under it left there, and
after them all batches that were added since. -/
theorem texts_callAll {calls : List (BagCall V)} : (calls.foldl (·.call key) b).texts key =
    ((lastReset? key calls).map (·.base)).getD (b.texts key) ++
      (sinceReset key calls).flatMap (·.batch) := by
  induction calls using List.reverseRecOn with
  | nil => simp [lastReset?, sinceReset]
  | append_singleton calls x ih =>
    rw [List.foldl_append, List.foldl_cons, List.foldl_nil, texts_call, ih]
    cases hx : x.resets key with
    | true => simp [lastReset?, sinceReset, hx]
    | false => simp [lastReset?, sinceReset, hx]

end Bag

/-! ## Statements -/

namespace CreateTable

variable {ε : Type} {M : Type → Type} [OrderedMap M] {τ : Type} [DecidableEq τ] {V : τ → Type}
  {c : CreateTable ε (Bag M (AttributeType.Carrier V))}

def call (c : CreateTable ε (Bag M (AttributeType.Carrier V))) :
    BagCall V → CreateTable ε (Bag M (AttributeType.Carrier V))
  | .extend batch => c.addBodyComments batch
  | .put key a => c.withAttributes (c.info.attributes.insert key a).1
  | .remove key => c.withAttributes (c.info.attributes.erase key).1

def callAll (calls : List (BagCall V)) (c : CreateTable ε (Bag M (AttributeType.Carrier V))) :
    CreateTable ε (Bag M (AttributeType.Carrier V)) :=
  calls.foldl call c

theorem bodyComments_eq : c.bodyComments = c.info.attributes.texts bodyCommentKey := rfl

theorem attributes_addBodyComments {batch : List String} :
    (c.addBodyComments batch).info.attributes = c.info.attributes.extend bodyCommentKey batch := by
  unfold addBodyComments Bag.extend
  by_cases hbatch : batch.isEmpty = true
  · rw [if_pos hbatch, if_pos hbatch]
  · rw [if_neg hbatch, if_neg hbatch]
    rcases c.info.attributes.modify .texts bodyCommentKey fun ts : List String => ts ++ batch with
      ⟨b, _ | ts⟩ <;> rfl

theorem attributes_call {x : BagCall V} :
    (c.call x).info.attributes = c.info.attributes.call bodyCommentKey x := by
  cases x with
  | extend batch => exact attributes_addBodyComments
  | put key a => rfl
  | remove key => rfl

theorem attributes_callAll {calls : List (BagCall V)} :
    (c.callAll calls).info.attributes = calls.foldl (·.call bodyCommentKey) c.info.attributes := by
  induction calls generalizing c with
  | nil => rfl
  | cons x calls ih =>
    change ((c.call x).callAll calls).info.attributes = _
    rw [ih, attributes_call, List.foldl_cons]

/-- The comments of a statement are those that the last change under their key left, followed by
every batch added since. Adding a batch leaves the other attributes and their order as they are, and
an empty one leaves the whole statement. -/
theorem comments_accumulate [LawfulOrderedMap M]
    (c : CreateTable ε (Bag M (AttributeType.Carrier V))) (calls : List (BagCall V)) :
    let d := c.callAll calls
    d.bodyComments =
      ((lastReset? bodyCommentKey calls).map (·.base)).getD c.bodyComments ++
        (sinceReset bodyCommentKey calls).flatMap (·.batch) ∧
    (d.hasBodyComment = true ↔ d.bodyComments ≠ []) ∧
    (∀ batch k, k ≠ bodyCommentKey →
      (d.addBodyComments batch).info.attributes.find? k = d.info.attributes.find? k) ∧
    (∀ batch, (d.addBodyComments batch).info.attributes.keys =
      if batch = [] ∨ bodyCommentKey ∈ d.info.attributes.keys then d.info.attributes.keys
      else d.info.attributes.keys ++ [bodyCommentKey]) ∧
    d.addBodyComments [] = d := by
  intro d
  refine ⟨?_, ?_, fun batch k hk => ?_, fun batch => ?_, rfl⟩
  · rw [bodyComments_eq, bodyComments_eq, attributes_callAll]
    exact Bag.texts_callAll
  · simp [hasBodyComment]
  · rw [attributes_addBodyComments]
    exact Bag.find?_extend_ne hk
  · rw [attributes_addBodyComments]
    exact Bag.keys_extend

/-- A number under the comments' key gives way to the next batch. -/
theorem comments_accumulate_retyped :
    let c : CreateTable Unit := { info := { id := ⟨0⟩ } }
    let calls : List (BagCall Scalar.Carrier) :=
      [.extend ["-- a"], .put "seen" ⟨.foreign .u32, (1 : UInt32)⟩,
        .put bodyCommentKey ⟨.foreign .u64, (7 : UInt64)⟩, .extend ["-- b", "-- c"], .extend [],
        .remove "seen", .extend ["-- d"]]
    LawfulOrderedMap Entries ∧ (c.callAll calls).bodyComments = ["-- b", "-- c", "-- d"] := by
  intro c calls
  exact ⟨inferInstance, (comments_accumulate c calls).1⟩

end CreateTable

end SqlTree
