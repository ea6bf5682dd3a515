import SqlTree.Attribute

/-! # Bags

What storing, taking out and changing a value do to the keys of a bag and to what is found under
each of them, whatever the map in which the bag keeps its values. -/

namespace SqlTree

section

variable {τ : Type} [DecidableEq τ] {V : τ → Type} {t : τ} {a : Attribute V}

@[simp]
theorem Attribute.as?_mk {v : V t} : (⟨t, v⟩ : Attribute V).as? t = some v :=
  dif_pos rfl

theorem Attribute.as?_eq_some_iff {v : V t} : a.as? t = some v ↔ a = ⟨t, v⟩ := by
  obtain ⟨u, w⟩ := a
  by_cases h : u = t
  · subst h
    simp
  · simp [as?, h]

end

namespace Bag

variable {M : Type → Type} [OrderedMap M] [LawfulOrderedMap M] {τ : Type} {V : τ → Type}
  {b : Bag M V} {key k : String} {a : Attribute V}

/-! ### Keys and what is found under them -/

theorem nodup_keys : b.keys.Nodup := by
  obtain ⟨_ | m⟩ := b
  · exact List.nodup_nil
  · exact LawfulOrderedMap.nodup_keys m

theorem find?_eq_none_iff : b.find? key = none ↔ key ∉ b.keys := by
  obtain ⟨_ | m⟩ := b
  · simp [find?, keys]
  · exact LawfulOrderedMap.get?_eq_none_iff m key

theorem contains_iff : b.contains key = true ↔ key ∈ b.keys := by
  obtain ⟨_ | m⟩ := b
  · simp [contains, keys]
  · exact LawfulOrderedMap.contains_iff m key

theorem size_eq : b.size = b.keys.length := by
  obtain ⟨_ | m⟩ := b
  · rfl
  · exact LawfulOrderedMap.size_eq m

theorem isEmpty_iff : b.isEmpty = true ↔ b.keys = [] := by
  obtain ⟨_ | m⟩ := b
  · simp [isEmpty, keys]
  · exact LawfulOrderedMap.isEmpty_iff m

/-! ### Storing a value

A bag without a map takes a value in as one with an empty map does. -/

theorem keys_getD : OrderedMap.keys (b.entries.getD OrderedMap.empty) = b.keys := by
  obtain ⟨_ | m⟩ := b
  · exact LawfulOrderedMap.keys_empty
  · rfl

theorem get?_getD : OrderedMap.get? (b.entries.getD OrderedMap.empty) key = b.find? key := by
  obtain ⟨_ | m⟩ := b
  · refine (LawfulOrderedMap.get?_eq_none_iff _ key).mpr ?_
    rw [keys_getD]
    exact List.not_mem_nil
  · rfl

theorem keys_insert :
    (b.insert key a).1.keys = if key ∈ b.keys then b.keys else b.keys ++ [key] := by
  rw [← keys_getD (b := b)]
  exact LawfulOrderedMap.keys_insert _ key a

theorem find?_insert :
    (b.insert key a).1.find? k = if k = key then some a else b.find? k := by
  rw [← get?_getD (b := b)]
  exact LawfulOrderedMap.get?_insert _ key k a

theorem insert_displaces : (b.insert key a).2 = b.find? key := by
  rw [← get?_getD]
  exact LawfulOrderedMap.insert_displaces _ key a

/-! ### Taking a value out -/

theorem keys_erase : (b.erase key).1.keys = b.keys.erase key := by
  obtain ⟨_ | m⟩ := b
  · rfl
  · exact LawfulOrderedMap.keys_shiftRemove m key

theorem find?_erase : (b.erase key).1.find? k = if k = key then none else b.find? k := by
  obtain ⟨_ | m⟩ := b
  · exact (ite_self none).symm
  · exact LawfulOrderedMap.get?_shiftRemove m key k

theorem erase_displaces : (b.erase key).2 = b.find? key := by
  obtain ⟨_ | m⟩ := b
  · rfl
  · exact LawfulOrderedMap.shiftRemove_displaces m key

/-! ### Values of one type -/

variable [DecidableEq τ] {t : τ} {v : V t} {f : V t → V t}

omit [LawfulOrderedMap M] in
theorem get?_eq_some_iff : b.get? t key = some v ↔ b.find? key = some ⟨t, v⟩ := by
  simp [get?, Option.bind_eq_some_iff, Attribute.as?_eq_some_iff]

theorem get?_insert_self : (b.insert key ⟨t, v⟩).1.get? t key = some v := by
  rw [get?, find?_insert, if_pos rfl, Option.bind_some, Attribute.as?_mk]

omit [LawfulOrderedMap M] in
theorem modify_of_none (h : b.get? t key = none) : b.modify t key f = (b, none) := by
  rw [modify, h]

omit [LawfulOrderedMap M] in
theorem modify_finds : (b.modify t key f).2 = b.get? t key := by
  unfold modify
  cases b.get? t key <;> rfl

theorem keys_modify : (b.modify t key f).1.keys = b.keys := by
  unfold modify
  obtain ⟨_ | m⟩ := b
  · rfl
  · split
    · exact LawfulOrderedMap.keys_update m key _
    · rfl

theorem find?_modify (h : b.get? t key = some v) :
    (b.modify t key f).1.find? k = if k = key then some ⟨t, f v⟩ else b.find? k := by
  have hfind := get?_eq_some_iff.mp h
  rw [modify, h]
  obtain ⟨_ | m⟩ := b
  · cases hfind
  · refine (LawfulOrderedMap.get?_update m key k _).trans ?_
    split
    next hk =>
      rw [hk, show OrderedMap.get? m key = some ⟨t, v⟩ from hfind, Option.map_some]
    next => rfl

theorem find?_modify_ne (h : k ≠ key) : (b.modify t key f).1.find? k = b.find? k := by
  cases hget : b.get? t key with
  | none => rw [modify_of_none hget]
  | some v => rw [find?_modify hget, if_neg h]

end Bag

end SqlTree
