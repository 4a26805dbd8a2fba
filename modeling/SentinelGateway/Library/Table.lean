import Mathlib.Data.List.AList

/-!
# Finite tables

A hash map whose iteration order nobody relies on is an association list
without repeated keys. Lookup, insertion and removal are those of `AList`; what
is added here is updating a value in place, filling a table key by key, and
counting the entries.
-/

/-- A finite map from `K` to `V`. -/
abbrev Table (K V : Type*) := AList fun _ : K => V

namespace Table

variable {K V : Type*} [DecidableEq K]

/-- Updates the value stored under a key, and does nothing when there is none. -/
def modify (m : Table K V) (k : K) (f : V → V) : Table K V :=
  match m.lookup k with
  | some v => m.insert k (f v)
  | none => m

/-- The number of entries. -/
def size (m : Table K V) : ℕ := m.entries.length

/-- The stored values. -/
def values (m : Table K V) : List V := m.entries.map Sigma.snd

theorem lookup_modify_self (m : Table K V) (k : K) (f : V → V) :
    (m.modify k f).lookup k = (m.lookup k).map f := by
  unfold modify
  cases h : m.lookup k with
  | none => simpa using h
  | some v => simp

theorem lookup_modify_of_ne (m : Table K V) {k l : K} (h : l ≠ k) (f : V → V) :
    (m.modify k f).lookup l = m.lookup l := by
  unfold modify
  cases m.lookup k with
  | none => rfl
  | some v => exact AList.lookup_insert_ne h

/-- What an update in place leaves under each key. -/
theorem lookup_modify (m : Table K V) (k l : K) (f : V → V) :
    (m.modify k f).lookup l = if l = k then (m.lookup l).map f else m.lookup l := by
  split_ifs with h
  · subst h
    exact lookup_modify_self m l f
  · exact lookup_modify_of_ne m h f

/-- Updating several keys by a function that changes a value only once. -/
theorem lookup_foldl_modify {f : V → V} (hf : ∀ v, f (f v) = f v) (keys : List K)
    (m : Table K V) (l : K) :
    (keys.foldl (fun m k => m.modify k f) m).lookup l =
      if l ∈ keys then (m.lookup l).map f else m.lookup l := by
  induction keys generalizing m with
  | nil => simp
  | cons k keys ih =>
    have hidem : (f ∘ f) = f := funext hf
    rw [List.foldl_cons, ih, lookup_modify]
    by_cases hl : l = k <;> by_cases hmem : l ∈ keys <;> simp [hl, hmem, hidem]

section Fold

variable {X : Type*} {key : X → K} {f : Table K V → X → Table K V}

/-- A fold whose steps each touch one key leaves the other keys alone. -/
theorem lookup_foldl_of_notMem (hother : ∀ m x k, k ≠ key x → (f m x).lookup k = m.lookup k)
    {xs : List X} {k : K} (h : k ∉ xs.map key) (m : Table K V) :
    (xs.foldl f m).lookup k = m.lookup k := by
  induction xs generalizing m with
  | nil => rfl
  | cons x xs ih =>
    simp only [List.map_cons, List.mem_cons, not_or] at h
    rw [List.foldl_cons, ih h.2, hother m x k h.1]

/-- When the steps touch different keys, each key is touched by its own step. -/
theorem lookup_foldl_of_mem (hother : ∀ m x k, k ≠ key x → (f m x).lookup k = m.lookup k)
    {g : X → Option V → Option V} (hown : ∀ m x, (f m x).lookup (key x) = g x (m.lookup (key x)))
    {xs : List X} (hnodup : (xs.map key).Nodup) {x : X} (hmem : x ∈ xs) (m : Table K V) :
    (xs.foldl f m).lookup (key x) = g x (m.lookup (key x)) := by
  induction xs generalizing m with
  | nil => simp at hmem
  | cons y xs ih =>
    rw [List.map_cons, List.nodup_cons] at hnodup
    rw [List.foldl_cons]
    rcases List.mem_cons.mp hmem with rfl | hmem
    · rw [lookup_foldl_of_notMem hother hnodup.1, hown]
    · have hne : key x ≠ key y := fun heq => hnodup.1 (heq ▸ List.mem_map_of_mem hmem)
      rw [ih hnodup.2 hmem, hother m y (key x) hne]

end Fold

theorem mem_values_of_lookup {m : Table K V} {k : K} {v : V} (h : m.lookup k = some v) :
    v ∈ m.values := by
  have hmem := AList.mem_lookup_iff.mp h
  exact List.mem_map.mpr ⟨⟨k, v⟩, hmem, rfl⟩

theorem exists_lookup_of_mem_values {m : Table K V} {v : V} (h : v ∈ m.values) :
    ∃ k, m.lookup k = some v := by
  obtain ⟨⟨k, _⟩, hmem, rfl⟩ := List.mem_map.mp h
  exact ⟨k, AList.mem_lookup_iff.mpr hmem⟩

/-- Values that no two entries share tell the keys apart. -/
theorem key_eq_of_nodup {W : Type*} {m : Table K V} {g : V → W} (hnodup : (m.values.map g).Nodup)
    {k l : K} {v w : V} (hv : m.lookup k = some v) (hw : m.lookup l = some w) (heq : g v = g w) :
    k = l := by
  have hentries : (m.entries.map fun entry => g entry.2).Nodup := by
    simpa [values, Function.comp_def] using hnodup
  have hsame := List.inj_on_of_nodup_map hentries (AList.mem_lookup_iff.mp hv)
    (AList.mem_lookup_iff.mp hw) heq
  exact congrArg Sigma.fst hsame

/-- A new key adds one entry. -/
theorem size_insert_of_notMem {m : Table K V} {k : K} (h : k ∉ m) (v : V) :
    size (m.insert k v) = m.size + 1 := by
  rw [size, AList.entries_insert_of_notMem h, List.length_cons, size]

/-- A key already present is overwritten: the number of entries stays. -/
theorem size_insert_of_mem {m : Table K V} {k : K} (h : k ∈ m) (v : V) :
    size (m.insert k v) = m.size := by
  have hkeys : (m.insert k v).keys.length = m.keys.length := by
    have hmem : k ∈ m.keys := h
    rw [AList.keys_insert, List.length_cons, List.length_erase_of_mem hmem]
    have := List.length_pos_of_mem hmem
    omega
  simpa only [size, AList.keys, List.keys, List.length_map] using hkeys

/-- Removing a key just added to a table without it gives the table back. -/
theorem erase_insert_self {m : Table K V} {k : K} (h : k ∉ m) (v : V) :
    (m.insert k v).erase k = m := by
  apply AList.ext
  rw [AList.insert_of_notMem h]
  change List.kerase k (⟨k, v⟩ :: m.entries) = m.entries
  exact List.kerase_cons_eq rfl

/-- What is found after an insertion is the new value or what was there before. -/
theorem lookup_insert_cases {m : Table K V} {k l : K} {v u : V}
    (h : (m.insert k v).lookup l = some u) : l = k ∧ u = v ∨ l ≠ k ∧ m.lookup l = some u := by
  by_cases heq : l = k
  · subst heq
    rw [AList.lookup_insert] at h
    exact Or.inl ⟨rfl, (Option.some.inj h).symm⟩
  · rw [AList.lookup_insert_ne heq] at h
    exact Or.inr ⟨heq, h⟩

end Table
