/-! # Maps that keep their keys in order

Attributes lie in a map under text keys. A tree relies on the operations of such a map and on their
laws, and not on how the map is built; a list of entries is one that obeys them. -/

namespace SqlTree

/-- Maps from text keys to values that list their keys in the order in which they came in. What an
operation displaces or takes out it hands back. -/
class OrderedMap (M : Type → Type) where
  empty {α : Type} : M α
  keys {α : Type} : M α → List String
  size {α : Type} : M α → Nat
  isEmpty {α : Type} : M α → Bool
  contains {α : Type} : M α → String → Bool
  get? {α : Type} : M α → String → Option α
  insert {α : Type} : M α → String → α → M α × Option α
  shiftRemove {α : Type} : M α → String → M α × Option α
  /-- The map after the value under a key is changed through a reference to it. -/
  update {α : Type} : M α → String → (α → α) → M α

/-- The laws of the operations. A value under a key that is present is replaced where it stands,
and one under a new key comes last; where a key is taken out, the others move up in their order. -/
class LawfulOrderedMap (M : Type → Type) [OrderedMap M] : Prop where
  keys_empty {α : Type} : OrderedMap.keys (OrderedMap.empty : M α) = []
  nodup_keys {α : Type} (m : M α) : (OrderedMap.keys m).Nodup
  size_eq {α : Type} (m : M α) : OrderedMap.size m = (OrderedMap.keys m).length
  isEmpty_iff {α : Type} (m : M α) : OrderedMap.isEmpty m = true ↔ OrderedMap.keys m = []
  contains_iff {α : Type} (m : M α) (k : String) :
    OrderedMap.contains m k = true ↔ k ∈ OrderedMap.keys m
  get?_eq_none_iff {α : Type} (m : M α) (k : String) :
    OrderedMap.get? m k = none ↔ k ∉ OrderedMap.keys m
  keys_insert {α : Type} (m : M α) (k : String) (a : α) :
    OrderedMap.keys (OrderedMap.insert m k a).1 =
      if k ∈ OrderedMap.keys m then OrderedMap.keys m else OrderedMap.keys m ++ [k]
  get?_insert {α : Type} (m : M α) (k l : String) (a : α) :
    OrderedMap.get? (OrderedMap.insert m k a).1 l = if l = k then some a else OrderedMap.get? m l
  insert_displaces {α : Type} (m : M α) (k : String) (a : α) :
    (OrderedMap.insert m k a).2 = OrderedMap.get? m k
  keys_shiftRemove {α : Type} (m : M α) (k : String) :
    OrderedMap.keys (OrderedMap.shiftRemove m k).1 = (OrderedMap.keys m).erase k
  get?_shiftRemove {α : Type} (m : M α) (k l : String) :
    OrderedMap.get? (OrderedMap.shiftRemove m k).1 l = if l = k then none else OrderedMap.get? m l
  shiftRemove_displaces {α : Type} (m : M α) (k : String) :
    (OrderedMap.shiftRemove m k).2 = OrderedMap.get? m k
  keys_update {α : Type} (m : M α) (k : String) (f : α → α) :
    OrderedMap.keys (OrderedMap.update m k f) = OrderedMap.keys m
  get?_update {α : Type} (m : M α) (k l : String) (f : α → α) :
    OrderedMap.get? (OrderedMap.update m k f) l =
      if l = k then (OrderedMap.get? m l).map f else OrderedMap.get? m l

/-! ## A list of entries -/

/-- Values under keys, one after another; no key stands there twice. -/
structure Entries (α : Type) where
  list : List (String × α) := []
  nodup : (list.map (·.1)).Nodup := by exact List.nodup_nil

namespace Entries

section

variable {α : Type}

def keys (m : Entries α) : List String := m.list.map (·.1)

/-- The value under a key. -/
def get? (m : Entries α) (key : String) : Option α := (m.list.find? (·.1 = key)).map (·.2)

/-- Stores a value in the key's place, or else at the end. -/
def put (key : String) (a : α) : List (String × α) → List (String × α)
  | [] => [(key, a)]
  | e :: rest => if e.1 = key then (e.1, a) :: rest else e :: put key a rest

theorem map_fst_put (key : String) (a : α) (es : List (String × α)) : (put key a es).map (·.1) =
    if key ∈ es.map (·.1) then es.map (·.1) else es.map (·.1) ++ [key] := by
  induction es with
  | nil => rfl
  | cons e es ih =>
    unfold put
    split
    next h => simp [h]
    next h =>
      have hne : key ≠ e.1 := Ne.symm h
      simp only [List.map_cons, List.mem_cons, hne, false_or, ih]
      split <;> rfl

theorem nodup_put (key : String) (a : α) {es : List (String × α)} (h : (es.map (·.1)).Nodup) :
    ((put key a es).map (·.1)).Nodup := by
  rw [map_fst_put]
  split
  · exact h
  · rename_i hkey
    rw [List.nodup_append]
    refine ⟨h, List.pairwise_singleton _ key, fun k hk l hl heq => hkey ?_⟩
    obtain rfl := List.mem_singleton.mp hl
    rwa [← heq]

theorem map_fst_eraseP (key : String) (es : List (String × α)) :
    (es.eraseP (·.1 = key)).map (·.1) = (es.map (·.1)).erase key := by
  induction es with
  | nil => rfl
  | cons e es ih =>
    by_cases h : e.1 = key
    · simp [h]
    · simp [h, ih]

/-- Changes the value under a key where it stands. -/
def change (key : String) (f : α → α) (es : List (String × α)) : List (String × α) :=
  es.map fun e => if e.1 = key then (e.1, f e.2) else e

theorem map_fst_change (key : String) (f : α → α) (es : List (String × α)) :
    (change key f es).map (·.1) = es.map (·.1) := by
  rw [change, List.map_map]
  refine List.map_congr_left fun e _ => ?_
  change (if e.1 = key then (e.1, f e.2) else e).1 = e.1
  split <;> rfl

end

instance : OrderedMap Entries where
  empty := {}
  keys := keys
  size m := m.list.length
  isEmpty m := m.list.isEmpty
  contains m key := m.list.any (·.1 = key)
  get? := get?
  insert m key a := (⟨put key a m.list, nodup_put key a m.nodup⟩, m.get? key)
  shiftRemove m key :=
    (⟨m.list.eraseP (·.1 = key), m.nodup.sublist (List.eraseP_sublist.map _)⟩, m.get? key)
  update m key f := ⟨change key f m.list, (map_fst_change key f m.list).symm ▸ m.nodup⟩

/-! ### The laws -/

section

variable {α : Type} {es : List (String × α)} {k key : String} {a : α} {f : α → α}

theorem find?_put : (put key a es).find? (·.1 = k) =
    if k = key then some (key, a) else es.find? (·.1 = k) := by
  induction es with
  | nil => by_cases h : k = key <;> simp [put, h, eq_comm]
  | cons e es ih =>
    unfold put
    by_cases he : e.1 = key
    · by_cases h : k = key <;> simp [he, h, eq_comm]
    · by_cases h : e.1 = k
      · have hne : k ≠ key := h ▸ he
        simp [h, hne]
      · simp [he, h, ih]

theorem find?_eraseP (h : k ≠ key) :
    (es.eraseP (·.1 = key)).find? (·.1 = k) = es.find? (·.1 = k) := by
  induction es with
  | nil => rfl
  | cons e es ih =>
    by_cases he : e.1 = key
    · simp [he, h.symm]
    · simp [he, List.find?_cons, ih]

theorem find?_change : ((change key f es).find? (·.1 = k)).map (·.2) =
    if k = key then ((es.find? (·.1 = k)).map (·.2)).map f else (es.find? (·.1 = k)).map (·.2) := by
  induction es with
  | nil => simp [change]
  | cons e es ih =>
    have hcons : change key f (e :: es) =
        (if e.1 = key then (e.1, f e.2) else e) :: change key f es := rfl
    rw [hcons, List.find?_cons, List.find?_cons]
    by_cases hk : e.1 = k
    · by_cases hkey : k = key <;> simp [hk, hkey]
    · have hmiss : decide ((if e.1 = key then (e.1, f e.2) else e).1 = k) = false := by
        split <;> simp [hk]
      rw [hmiss, decide_eq_false hk]
      exact ih

theorem get?_eq_none_iff (m : Entries α) : m.get? k = none ↔ k ∉ m.keys := by
  unfold get? keys
  rw [Option.map_eq_none_iff, List.find?_eq_none]
  simp only [decide_eq_true_eq, List.mem_map, not_exists, not_and]

end

instance : LawfulOrderedMap Entries where
  keys_empty := rfl
  nodup_keys m := m.nodup
  size_eq m := (List.length_map _).symm
  isEmpty_iff m := by simp [OrderedMap.isEmpty, OrderedMap.keys, keys]
  contains_iff m k := by simp [OrderedMap.contains, OrderedMap.keys, keys]
  get?_eq_none_iff m _ := m.get?_eq_none_iff
  keys_insert m k a := map_fst_put k a m.list
  get?_insert m k l a := by
    change ((put k a m.list).find? (·.1 = l)).map (·.2) = if l = k then some a else m.get? l
    rw [find?_put]
    split <;> rfl
  insert_displaces _ _ _ := rfl
  keys_shiftRemove m k := map_fst_eraseP k m.list
  get?_shiftRemove m k l := by
    split
    next h =>
      -- No key stands twice, so the one that is taken out is gone.
      subst h
      refine (get?_eq_none_iff _).mpr ?_
      have hkeys : keys (OrderedMap.shiftRemove m l).1 = m.keys.erase l := map_fst_eraseP l m.list
      rw [hkeys]
      exact m.nodup.not_mem_erase
    next h => exact congrArg (Option.map _) (find?_eraseP h)
  shiftRemove_displaces _ _ := rfl
  keys_update m k f := map_fst_change k f m.list
  get?_update _ _ _ _ := find?_change

end Entries

end SqlTree
