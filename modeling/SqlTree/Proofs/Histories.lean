import Mathlib.Data.List.Basic
import Mathlib.Data.List.Induction
import Mathlib.Order.Bounds.Basic
import SqlTree.Proofs.Bags

/-! # Bags over a history

A bag that was empty once is known from the calls made to it since. Its keys are those that were
inserted and not removed since, in the order of the calls that last brought them in; under each key
lies what the latest insert put there, with the changes made to it after that. -/

namespace SqlTree

namespace Bag

/-- A call to a bag. To ask for a reference of a type to a value, and to write through it, is a
change. -/
inductive Access {τ : Type} (V : τ → Type)
  | insert (key : String) (a : Attribute V)
  | remove (key : String)
  | get (type : τ) (key : String)
  | change (type : τ) (key : String) (f : V type → V type)

section

variable {τ : Type} {V : τ → Type}

/-! ## What a history tells -/

/-- The key was inserted and has not been removed since. -/
def Present (history : List (Access V)) (key : String) : Prop :=
  ∃ before a after, history = before ++ .insert key a :: after ∧ .remove key ∉ after

/-- Call `n` inserts the key where it is absent. -/
def BroughtAt (history : List (Access V)) (key : String) (n : Nat) : Prop :=
  (∃ a, history[n]? = some (.insert key a)) ∧ ¬ Present (history.take n) key

/-- The call that last brought in `k` came before the one that last brought in `l`. -/
def CameBefore (history : List (Access V)) (k l : String) : Prop :=
  ∃ m n, IsGreatest {i | BroughtAt history k i} m ∧ IsGreatest {i | BroughtAt history l i} n ∧ m < n

variable [DecidableEq τ]

/-- What a call that inserts nothing makes of a value under a key. A change of the value's own type
applies to it, and one of another type finds nothing to refer to. -/
def Access.changed (key : String) (a : Attribute V) : Access V → Attribute V
  | .change t k f => if h : k = key ∧ a.type = t then ⟨t, f (h.2 ▸ a.value)⟩ else a
  | .insert _ _ | .remove _ | .get _ _ => a

/-- `c` is the value of the latest insert of the key, with the changes made to it since. -/
def Latest (history : List (Access V)) (key : String) (c : Attribute V) : Prop :=
  ∃ before a after, history = before ++ .insert key a :: after ∧ (∀ b, .insert key b ∉ after) ∧
    c = after.foldl (Access.changed key) a

variable {M : Type → Type} [OrderedMap M]

/-- The bag after a call. -/
def perform (b : Bag M V) : Access V → Bag M V
  | .insert key a => (b.insert key a).1
  | .remove key => (b.erase key).1
  | .get _ _ => b
  | .change t key f => (b.modify t key f).1

variable (M)

/-- The bag that a history makes of the empty one. -/
def ofHistory (history : List (Access V)) : Bag M V := history.foldl perform empty

end

section

variable {τ : Type} {V : τ → Type} {history : List (Access V)} {x : Access V} {k l key : String}
  {n : Nat}

/-! ## One more call -/

theorem append_singleton_eq_append_cons {α : Type} {x y : α} {as before after : List α} :
    as ++ [y] = before ++ x :: after ↔
      (before = as ∧ x = y ∧ after = []) ∨ ∃ rest, after = rest ++ [y] ∧ as = before ++ x :: rest := by
  constructor
  · intro h
    rcases List.eq_nil_or_concat' after with rfl | ⟨rest, z, rfl⟩
    · obtain ⟨has, hy⟩ := List.append_singleton_inj.mp h
      exact .inl ⟨has.symm, hy.symm, rfl⟩
    · have hsplit : as ++ [y] = (before ++ x :: rest) ++ [z] := by simpa using h
      obtain ⟨has, rfl⟩ := List.append_singleton_inj.mp hsplit
      exact .inr ⟨rest, rfl, has⟩
  · rintro (⟨rfl, rfl, rfl⟩ | ⟨rest, rfl, rfl⟩)
    · rfl
    · simp

theorem present_append : Present (history ++ [x]) k ↔
    (∃ a, x = .insert k a) ∨ (Present history k ∧ x ≠ .remove k) := by
  unfold Present
  simp only [append_singleton_eq_append_cons]
  constructor
  · rintro ⟨before, a, after, ⟨rfl, hx, rfl⟩ | ⟨rest, rfl, hsplit⟩, hafter⟩
    · exact .inl ⟨a, hx.symm⟩
    · rw [List.mem_append, not_or, List.mem_singleton] at hafter
      exact .inr ⟨⟨before, a, rest, hsplit, hafter.1⟩, Ne.symm hafter.2⟩
  · rintro (⟨a, rfl⟩ | ⟨⟨before, a, rest, hsplit, hrest⟩, hx⟩)
    · exact ⟨history, a, [], .inl ⟨rfl, rfl, rfl⟩, List.not_mem_nil⟩
    · refine ⟨before, a, rest ++ [x], .inr ⟨rest, rfl, hsplit⟩, ?_⟩
      simp [hrest, hx.symm]

theorem not_present_nil : ¬ Present ([] : List (Access V)) k := by
  simp [Present]

theorem BroughtAt.lt_length (h : BroughtAt history k n) : n < history.length := by
  obtain ⟨⟨a, ha⟩, -⟩ := h
  exact (List.getElem?_eq_some_iff.mp ha).1

theorem broughtAt_append : BroughtAt (history ++ [x]) k n ↔
    BroughtAt history k n ∨ (n = history.length ∧ (∃ a, x = .insert k a) ∧ ¬ Present history k) := by
  unfold BroughtAt
  rcases Nat.lt_trichotomy n history.length with hlt | rfl | hgt
  · simp [List.getElem?_append_left hlt, List.take_append_of_le_length hlt.le, hlt.ne]
  · simp
  · have hout : (history ++ [x])[n]? = none := List.getElem?_eq_none (by simp; omega)
    simp [hout, List.getElem?_eq_none hgt.le, hgt.ne']

/-- A call that does not bring a key in leaves the calls that did. -/
theorem setOf_broughtAt_append (h : ∀ a, x = .insert k a → Present history k) :
    {i | BroughtAt (history ++ [x]) k i} = {i | BroughtAt history k i} := by
  ext i
  simp only [Set.mem_ofPred_eq, broughtAt_append, or_iff_left_iff_imp]
  rintro ⟨-, ⟨a, hx⟩, habsent⟩
  exact absurd (h a hx) habsent

theorem isGreatest_broughtAt_append {a : Attribute V} (habsent : ¬ Present history k) :
    IsGreatest {i | BroughtAt (history ++ [.insert k a]) k i} history.length := by
  refine ⟨broughtAt_append.mpr (.inr ⟨rfl, ⟨a, rfl⟩, habsent⟩), fun m hm => ?_⟩
  have hlt := hm.lt_length
  simp only [List.length_append, List.length_singleton] at hlt
  omega

theorem exists_last_broughtAt (h : Present history k) :
    ∃ n, IsGreatest {i | BroughtAt history k i} n := by
  induction history using List.reverseRecOn with
  | nil => exact absurd h not_present_nil
  | append_singleton history x ih =>
    by_cases hk : Present history k
    · rw [setOf_broughtAt_append fun _ _ => hk]
      exact ih hk
    · rcases present_append.mp h with ⟨a, rfl⟩ | ⟨hpresent, -⟩
      · exact ⟨_, isGreatest_broughtAt_append hk⟩
      · exact absurd hpresent hk

theorem CameBefore.append (hkl : CameBefore history k l)
    (hk : ∀ a, x = .insert k a → Present history k) (hl : ∀ a, x = .insert l a → Present history l) :
    CameBefore (history ++ [x]) k l := by
  unfold CameBefore
  rw [setOf_broughtAt_append hk, setOf_broughtAt_append hl]
  exact hkl

/-- A key that is brought in comes after every key that is present. -/
theorem cameBefore_append_insert {a : Attribute V} (hk : Present history k)
    (hl : ¬ Present history l) : CameBefore (history ++ [.insert l a]) k l := by
  obtain ⟨m, hm⟩ := exists_last_broughtAt hk
  refine ⟨m, history.length, ?_, isGreatest_broughtAt_append hl, hm.1.lt_length⟩
  rwa [setOf_broughtAt_append fun _ _ => hk]

variable [DecidableEq τ] {a c : Attribute V}

theorem latest_append : Latest (history ++ [x]) k c ↔
    x = .insert k c ∨
      ((∀ a, x ≠ .insert k a) ∧ ∃ a, Latest history k a ∧ c = x.changed k a) := by
  unfold Latest
  simp only [append_singleton_eq_append_cons]
  constructor
  · rintro ⟨before, a, after, ⟨rfl, hx, rfl⟩ | ⟨rest, rfl, hsplit⟩, hafter, rfl⟩
    · exact .inl hx.symm
    · simp only [List.mem_append, not_or, List.mem_singleton] at hafter
      refine .inr ⟨fun a => Ne.symm (hafter a).2, _,
        ⟨before, a, rest, hsplit, fun b => (hafter b).1, rfl⟩, ?_⟩
      rw [List.foldl_append, List.foldl_cons, List.foldl_nil]
  · rintro (rfl | ⟨hx, _, ⟨before, a, rest, hsplit, hrest, rfl⟩, rfl⟩)
    · exact ⟨history, c, [], .inl ⟨rfl, rfl, rfl⟩, fun _ => List.not_mem_nil, rfl⟩
    · refine ⟨before, a, rest ++ [x], .inr ⟨rest, rfl, hsplit⟩, fun b => ?_, ?_⟩
      · simp [hrest b, (hx b).symm]
      · rw [List.foldl_append, List.foldl_cons, List.foldl_nil]

/-! ## The bag of a history -/

variable {M : Type → Type} [OrderedMap M] {b : Bag M V}

theorem ofHistory_append : ofHistory M (history ++ [x]) = (ofHistory M history).perform x := by
  rw [ofHistory, List.foldl_append, List.foldl_cons, List.foldl_nil, ofHistory]

theorem isAllocated_perform :
    (b.perform x).isAllocated = true ↔ b.isAllocated = true ∨ ∃ k a, x = .insert k a := by
  cases x with
  | insert key a => simp [perform, isAllocated, insert]
  | remove key => obtain ⟨_ | m⟩ := b <;> simp [perform, isAllocated, erase]
  | get _ _ => simp [perform]
  | change t key f => cases h : b.get? t key <;> simp [perform, isAllocated, modify, h]

theorem isAllocated_ofHistory :
    (ofHistory M history).isAllocated = true ↔ ∃ k a, .insert k a ∈ history := by
  induction history using List.reverseRecOn with
  | nil => simp [ofHistory, empty, isAllocated]
  | append_singleton history x ih =>
    rw [ofHistory_append, isAllocated_perform, ih]
    simp only [List.mem_append, List.mem_singleton, exists_or, eq_comm]

variable [LawfulOrderedMap M]

theorem keys_perform : (b.perform x).keys =
    match x with
    | .insert key _ => if key ∈ b.keys then b.keys else b.keys ++ [key]
    | .remove key => b.keys.erase key
    | .get _ _ | .change _ _ _ => b.keys := by
  cases x with
  | insert key a => exact keys_insert
  | remove key => exact keys_erase
  | get t key => rfl
  | change t key f => exact keys_modify

theorem find?_change {t : τ} {f : V t → V t} : (b.modify t key f).1.find? k =
    (b.find? k).map fun a => (Access.change t key f).changed k a := by
  by_cases hk : k = key
  · subst hk
    cases hfind : b.find? k with
    | none =>
      rw [modify_of_none (by rw [get?, hfind, Option.bind_none]), hfind, Option.map_none]
    | some a =>
      obtain ⟨u, v⟩ := a
      by_cases hu : u = t
      · subst hu
        rw [find?_modify (get?_eq_some_iff.mpr hfind)]
        simp [Access.changed]
      · have hget : b.get? t k = none := by simp [get?, hfind, Attribute.as?, hu]
        rw [modify_of_none hget, hfind]
        simp [Access.changed, hu]
  · rw [find?_modify_ne hk]
    simp [Access.changed, Ne.symm hk]

theorem mem_keys_ofHistory : k ∈ (ofHistory M history).keys ↔ Present history k := by
  induction history using List.reverseRecOn with
  | nil => simp [not_present_nil, ofHistory, empty, keys]
  | append_singleton history x ih =>
    rw [ofHistory_append, keys_perform, present_append, ← ih]
    cases x with
    | insert key a =>
      have hinsert : (∃ a', Access.insert key a = .insert k a') ↔ k = key := by simp [eq_comm]
      rw [hinsert]
      by_cases hkey : key ∈ (ofHistory M history).keys <;> by_cases hk : k = key <;>
        simp [hkey, hk]
    | remove key => simp [nodup_keys.mem_erase_iff, and_comm, eq_comm]
    | get _ _ | change _ _ _ => simp

theorem pairwise_keys_ofHistory : (ofHistory M history).keys.Pairwise (CameBefore history) := by
  induction history using List.reverseRecOn with
  | nil => exact .nil
  | append_singleton history x ih =>
    rw [ofHistory_append, keys_perform]
    cases x with
    | insert key a =>
      by_cases hkey : key ∈ (ofHistory M history).keys
      · have hpresent (k : String) (a' : Attribute V) (h : Access.insert key a = .insert k a') :
            Present history k := by
          obtain ⟨rfl, -⟩ := Access.insert.inj h
          exact mem_keys_ofHistory.mp hkey
        simp only [hkey, if_true]
        exact ih.imp fun h => h.append (hpresent _) (hpresent _)
      · have habsent : ¬ Present history key := mem_keys_ofHistory.not.mp hkey
        simp only [hkey, if_false, List.pairwise_append, List.mem_singleton, forall_eq]
        refine ⟨ih.imp_of_mem fun {k l} hk hl h => ?_, List.pairwise_singleton _ _, fun k hk => ?_⟩
        · exact h.append (fun _ _ => mem_keys_ofHistory.mp hk) fun _ _ => mem_keys_ofHistory.mp hl
        · exact cameBefore_append_insert (mem_keys_ofHistory.mp hk) habsent
    | remove key =>
      exact (ih.imp fun h => h.append nofun nofun).sublist List.erase_sublist
    | get _ _ | change _ _ _ => exact ih.imp fun h => h.append nofun nofun

theorem find?_ofHistory :
    (ofHistory M history).find? k = some c ↔ Present history k ∧ Latest history k c := by
  induction history using List.reverseRecOn generalizing c with
  | nil => simp [not_present_nil, ofHistory, empty, find?]
  | append_singleton history x ih =>
    rw [ofHistory_append, present_append, latest_append]
    cases x with
    | insert key a =>
      rw [perform, find?_insert]
      by_cases hk : k = key
      · simp [hk]
      · simp [hk, ih, Ne.symm hk, Access.changed]
    | remove key =>
      rw [perform, find?_erase]
      by_cases hk : k = key
      · simp [hk]
      · simp [hk, ih, Ne.symm hk, Access.changed]
    | get t key => simp [perform, ih, Access.changed]
    | change t key f =>
      rw [perform, find?_change]
      simp [ih, eq_comm, and_assoc]

/-- A bag is an ordered map of typed values whatever was done to it, if the map that it is built on
obeys its laws. Its keys are those inserted and not removed since, each once, in the order in which
they were last brought in. Under each of them is read, referred to, displaced and handed back the
value of its latest insert, as changed since, and it is read and referred to as its own type only.
The counts agree with the keys, and entries are allocated by the first insert. -/
theorem told_by_history (history : List (Access V)) :
    let b := ofHistory M history
    b.keys.Nodup ∧ (∀ k, k ∈ b.keys ↔ Present history k) ∧ b.keys.Pairwise (CameBefore history) ∧
      (∀ k a, (b.insert k a).1.keys = if k ∈ b.keys then b.keys else b.keys ++ [k]) ∧
      (∀ k, (b.erase k).1.keys = b.keys.erase k) ∧
      (∀ t k v, b.get? t k = some v ↔ k ∈ b.keys ∧ Latest history k ⟨t, v⟩) ∧
      (∀ t k f v, (b.modify t k f).2 = some v ↔ k ∈ b.keys ∧ Latest history k ⟨t, v⟩) ∧
      (∀ k a c, (b.insert k a).2 = some c ↔ k ∈ b.keys ∧ Latest history k c) ∧
      (∀ k c, (b.erase k).2 = some c ↔ k ∈ b.keys ∧ Latest history k c) ∧
      b.size = b.keys.length ∧ (b.isEmpty = true ↔ b.keys = []) ∧
      (∀ k, b.contains k = true ↔ k ∈ b.keys) ∧
      (b.isAllocated = true ↔ ∃ k a, .insert k a ∈ history) := by
  intro b
  have hfind (k : String) (c : Attribute V) :
      b.find? k = some c ↔ k ∈ b.keys ∧ Latest history k c := by
    rw [mem_keys_ofHistory]
    exact find?_ofHistory
  have hget (t : τ) (k : String) (v : V t) :
      b.get? t k = some v ↔ k ∈ b.keys ∧ Latest history k ⟨t, v⟩ := by
    rw [get?_eq_some_iff]
    exact hfind k _
  refine ⟨nodup_keys, fun k => mem_keys_ofHistory, pairwise_keys_ofHistory, fun k a => keys_insert,
    fun k => keys_erase, hget, fun t k f v => ?_, fun k a c => ?_, fun k c => ?_, size_eq,
    isEmpty_iff, fun k => contains_iff, isAllocated_ofHistory⟩
  · rw [modify_finds]
    exact hget t k v
  · rw [insert_displaces]
    exact hfind k c
  · rw [erase_displaces]
    exact hfind k c

/-- A key that comes back comes in last, and one that is stored again keeps its place. Of two changes
to a number, the one that takes it for a text does nothing. -/
theorem told_by_history_changed :
    let one : AttributeValue := ⟨.foreign .u64, (1 : UInt64)⟩
    let history : List (Access (AttributeType.Carrier Scalar.Carrier)) :=
      [.insert "z" one, .insert "a" one, .insert "m" one, .remove "a", .insert "a" one,
        .insert "z" one, .change (.foreign .u64) "z" fun n : UInt64 => n + 6,
        .change (.foreign .text) "z" fun _ : String => "seven"]
    LawfulOrderedMap Entries ∧ ["z", "m", "a"].Pairwise (CameBefore history) ∧
      Latest history "z" ⟨.foreign .u64, (7 : UInt64)⟩ ∧
      ∀ s, ¬ Latest history "z" ⟨.foreign .text, s⟩ := by
  intro one history
  obtain ⟨-, -, horder, -, -, hget, -⟩ := told_by_history (M := Entries) history
  refine ⟨inferInstance, horder, ((hget (.foreign .u64) "z" (7 : UInt64)).mp rfl).2, fun s hs => ?_⟩
  have hread := (hget (.foreign .text) "z" s).mpr ⟨by decide, hs⟩
  cases hread

end

end Bag

end SqlTree
