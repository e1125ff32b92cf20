/-!
# Registries

A registry holds values under keys, at most one under each. It is used for the open transactions, by
number, and for the transactions that a caller holds by name.

The view of a registry is the function `Registry.find?` from keys to values; each operation has one
equation on it, and `Registry.keys` lists the keys that are in use, each once.
-/

set_option autoImplicit false

namespace ZoneStore

/-- Values under keys, at most one under each key. -/
@[ext] structure Registry (κ τ : Type) where
  /-- The keys in use with their values. -/
  entries : List (κ × τ)
  /-- No key is used twice. -/
  nodup : (entries.map Prod.fst).Nodup := by simp

namespace Registry

variable {κ τ : Type}

/-- The registry that holds nothing. -/
def empty : Registry κ τ := { entries := [] }

/-- The keys in use. -/
def keys (r : Registry κ τ) : List κ := r.entries.map Prod.fst

/-- The number of keys in use. -/
def size (r : Registry κ τ) : Nat := r.entries.length

/-- Whether no key is in use. -/
def isEmpty (r : Registry κ τ) : Bool := r.entries.isEmpty

variable [DecidableEq κ]

/-- The value under a key. -/
def find? (r : Registry κ τ) (k : κ) : Option τ := (r.entries.find? (·.1 = k)).map Prod.snd

/-- Whether a key is in use. -/
def contains (r : Registry κ τ) (k : κ) : Bool := (r.find? k).isSome

/-- The registry without a key. -/
def erase (r : Registry κ τ) (k : κ) : Registry κ τ where
  entries := r.entries.filter (·.1 ≠ k)
  nodup := r.nodup.sublist (List.filter_sublist.map Prod.fst)

/-- The registry with a value under a key, in place of the one that was there. -/
def insert (r : Registry κ τ) (k : κ) (t : τ) : Registry κ τ where
  entries := (k, t) :: (r.erase k).entries
  nodup := by
    rw [List.map_cons, List.nodup_cons]
    refine ⟨?_, (r.erase k).nodup⟩
    simp [erase]

@[simp] theorem find?_empty (k : κ) : (empty : Registry κ τ).find? k = none := rfl

/-- A key is in use exactly when it is one of the keys. -/
theorem contains_iff_mem_keys {r : Registry κ τ} {k : κ} : r.contains k = true ↔ k ∈ r.keys := by
  simp [contains, find?, keys]

/-- The entry of a key is found under it. -/
theorem find?_of_mem {r : Registry κ τ} {e : κ × τ} (h : e ∈ r.entries) :
    r.find? e.1 = some e.2 := by
  obtain ⟨entries, nodup⟩ := r
  simp only [find?] at *
  induction entries with
  | nil => cases h
  | cons first rest ih =>
    rw [List.map_cons, List.nodup_cons] at nodup
    rcases List.mem_cons.1 h with rfl | hrest
    · simp
    · have hne : ¬ first.1 = e.1 := fun heq => nodup.1 (heq ▸ List.mem_map_of_mem hrest)
      rw [List.find?_cons_of_neg (by simpa using hne)]
      exact ih nodup.2 hrest

/-- An erased key is free, and every other key is as before. -/
theorem find?_erase (r : Registry κ τ) (k l : κ) :
    (r.erase k).find? l = if l = k then none else r.find? l := by
  unfold find? erase
  rw [List.find?_filter]
  split
  · subst l
    simp
  · rename_i h
    have heq : (fun a : κ × τ => decide (decide (a.1 ≠ k) = true ∧ decide (a.1 = l) = true))
        = fun a => decide (a.1 = l) := by
      funext a
      by_cases ha : a.1 = l <;> simp [ha, h]
    rw [heq]

/-- An inserted key has the inserted value, and every other key is as before. -/
theorem find?_insert (r : Registry κ τ) (k l : κ) (t : τ) :
    (r.insert k t).find? l = if l = k then some t else r.find? l := by
  have herase := r.find?_erase k l
  unfold find? at herase ⊢
  by_cases h : l = k
  · simp [insert, h]
  · have hk : ¬ k = l := fun hkl => h hkl.symm
    simp only [h, if_false] at herase
    simp only [insert, List.find?_cons, hk, decide_false, h, if_false]
    exact herase

/-- A key that is free cannot be erased. -/
theorem erase_of_free {r : Registry κ τ} {k : κ} (h : r.contains k = false) : r.erase k = r := by
  have hfree : k ∉ r.keys := fun hk => by simp [contains_iff_mem_keys.2 hk] at h
  have hentries : r.entries.filter (·.1 ≠ k) = r.entries := by
    rw [List.filter_eq_self]
    intro e he
    rw [decide_eq_true_eq]
    rintro rfl
    exact hfree (List.mem_map_of_mem he)
  exact Registry.ext hentries

/-- A registry is the value under a key together with what is left without the key. -/
theorem entries_perm_cons_erase {r : Registry κ τ} {k : κ} {t : τ} (h : r.find? k = some t) :
    r.entries.Perm ((k, t) :: (r.erase k).entries) := by
  obtain ⟨entries, nodup⟩ := r
  simp only [erase, find?] at *
  induction entries with
  | nil => cases h
  | cons e rest ih =>
    rw [List.map_cons, List.nodup_cons] at nodup
    by_cases he : e.1 = k
    · -- No other entry has the key.
      have hrest : rest.filter (·.1 ≠ k) = rest := by
        rw [List.filter_eq_self]
        intro x hx
        have : x.1 ∈ rest.map Prod.fst := List.mem_map_of_mem hx
        simp only [decide_eq_true_eq]
        rintro rfl
        exact nodup.1 (he ▸ this)
      rw [List.find?_cons_of_pos (by simpa using he)] at h
      rw [List.filter_cons_of_neg (by simp [he]), hrest]
      obtain rfl : e = (k, t) := Prod.ext he (Option.some.inj h)
      exact .refl _
    · rw [List.find?_cons_of_neg (by simpa using he)] at h
      rw [List.filter_cons_of_pos (by simp [he])]
      exact ((ih nodup.2 h).cons e).trans (.swap _ _ _)

/-- Erasing a key that is in use frees one place. -/
theorem size_erase {r : Registry κ τ} {k : κ} (h : k ∈ r.keys) :
    (r.erase k).size + 1 = r.size := by
  obtain ⟨t, ht⟩ := Option.isSome_iff_exists.1 (contains_iff_mem_keys.2 h)
  exact (entries_perm_cons_erase ht).length_eq.symm

/-- Where no key is in use there are no entries. -/
theorem size_eq_zero {r : Registry κ τ} (h : ∀ k, r.find? k = none) : r.size = 0 := by
  rw [size, List.length_eq_zero_iff, List.eq_nil_iff_forall_not_mem]
  intro e he
  cases (h e.1).symm.trans (find?_of_mem he)

/-- A value under a free key takes a place of its own. -/
theorem size_insert_of_free {r : Registry κ τ} {k : κ} (h : r.contains k = false) (t : τ) :
    (r.insert k t).size = r.size + 1 :=
  congrArg (size · + 1) (erase_of_free h)

/-- The last value under a key is the one that stays. -/
theorem insert_insert (r : Registry κ τ) (k : κ) (t u : τ) :
    (r.insert k t).insert k u = r.insert k u := by
  refine Registry.ext ?_
  show (k, u) :: List.filter (·.1 ≠ k) ((k, t) :: r.entries.filter (·.1 ≠ k)) =
    (k, u) :: r.entries.filter (·.1 ≠ k)
  rw [List.filter_cons_of_neg (by simp), List.filter_filter]
  simp only [Bool.and_self]

/-- Erasing a key that was free before it got a value takes the value away again. -/
theorem erase_insert_of_free {r : Registry κ τ} {k : κ} (h : r.contains k = false) (t : τ) :
    (r.insert k t).erase k = r := by
  have herase := congrArg entries (erase_of_free h)
  refine Registry.ext ?_
  show List.filter (·.1 ≠ k) ((k, t) :: (r.erase k).entries) = r.entries
  rw [List.filter_cons_of_neg (by simp), herase]
  exact herase

/-- A value under a key in use takes the place of the one that was there. -/
theorem size_insert_of_contains {r : Registry κ τ} {k : κ} (h : r.contains k = true) (t : τ) :
    (r.insert k t).size = r.size :=
  size_erase (contains_iff_mem_keys.1 h)

end Registry

end ZoneStore
