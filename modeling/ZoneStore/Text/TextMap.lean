/-!
# Maps from texts

A `TextMap` holds values under texts, at most one under each, in the order of the texts. A map to
`Unit` is a set of texts. The view of a map is `TextMap.find?`; inserting changes it at one text
(`find?_insert`).
-/

set_option autoImplicit false

namespace ZoneStore

/-- Values under texts, in strictly increasing order of the texts. -/
structure TextMap (α : Type) where
  /-- The texts with their values. -/
  entries : List (String × α)
  /-- The texts increase strictly. -/
  sorted : entries.Pairwise fun a b => a.1 < b.1 := by simp

namespace TextMap

variable {α : Type}

/-- The map that holds nothing. -/
def empty : TextMap α := { entries := [] }

/-- The texts of the map, in order. -/
def keys (m : TextMap α) : List String := m.entries.map Prod.fst

/-- The value under a text. -/
def find? (m : TextMap α) (k : String) : Option α := (m.entries.find? (·.1 = k)).map Prod.snd

/-- Puts a value under a text into a list in increasing order, in place of the one that was there.
-/
def insertInto (k : String) (v : α) : List (String × α) → List (String × α)
  | [] => [(k, v)]
  | e :: rest =>
    if k < e.1 then (k, v) :: e :: rest
    else if e.1 = k then (k, v) :: rest
    else e :: insertInto k v rest

/-- The entries after an insertion are the inserted one and entries that were there before. -/
theorem mem_insertInto {k : String} {v : α} {l : List (String × α)} {e : String × α}
    (h : e ∈ insertInto k v l) : e = (k, v) ∨ e ∈ l := by
  induction l with
  | nil => simpa [insertInto] using h
  | cons d rest ih =>
    unfold insertInto at h
    split at h
    · simpa using h
    · split at h
      · rcases List.mem_cons.1 h with h | h
        · exact Or.inl h
        · exact Or.inr (List.mem_cons_of_mem _ h)
      · rcases List.mem_cons.1 h with h | h
        · exact Or.inr (h ▸ List.mem_cons_self)
        · exact (ih h).imp_right (List.mem_cons_of_mem _)

/-- An insertion keeps the texts in strictly increasing order. -/
theorem sorted_insertInto (k : String) (v : α) {l : List (String × α)}
    (h : l.Pairwise fun a b => a.1 < b.1) : (insertInto k v l).Pairwise fun a b => a.1 < b.1 := by
  induction l with
  | nil => simp [insertInto]
  | cons d rest ih =>
    rw [List.pairwise_cons] at h
    unfold insertInto
    split
    · rename_i hk
      refine List.pairwise_cons.2 ⟨?_, List.pairwise_cons.2 h⟩
      intro e he
      rcases List.mem_cons.1 he with rfl | he
      · exact hk
      · exact String.lt_trans hk (h.1 e he)
    · rename_i hk
      split
      · rename_i hd
        exact List.pairwise_cons.2 ⟨fun e he => hd ▸ h.1 e he, h.2⟩
      · rename_i hd
        refine List.pairwise_cons.2 ⟨?_, ih h.2⟩
        intro e he
        rcases mem_insertInto he with rfl | he
        · rcases Std.lt_trichotomy d.1 k with hlt | heq | hgt
          · exact hlt
          · exact absurd heq hd
          · exact absurd hgt hk
        · exact h.1 e he

/-- The map with a value under a text, in place of the one that was there. -/
def insert (m : TextMap α) (k : String) (v : α) : TextMap α where
  entries := insertInto k v m.entries
  sorted := sorted_insertInto k v m.sorted

/-- The map of a list of texts with values; the last value of a text counts. -/
def ofList (pairs : List (String × α)) : TextMap α :=
  pairs.foldl (fun m p => m.insert p.1 p.2) empty

/-- The set of the texts of a list. -/
def setOf (texts : List String) : TextMap Unit := ofList (texts.map fun t => (t, ()))

@[simp] theorem find?_empty (k : String) : (empty : TextMap α).find? k = none := rfl

/-- An insertion puts the value under its text and changes no other. -/
theorem find?_insert (m : TextMap α) (k l : String) (v : α) :
    (m.insert k v).find? l = if l = k then some v else m.find? l := by
  obtain ⟨entries, sorted⟩ := m
  simp only [find?, insert]
  clear sorted
  induction entries with
  | nil => by_cases h : k = l <;> simp [insertInto, h, eq_comm]
  | cons e rest ih =>
    unfold insertInto
    split
    · by_cases h : k = l <;> simp [List.find?_cons, h, eq_comm]
    · split
      · rename_i he
        by_cases h : k = l <;> simp [he, h, eq_comm]
      · rename_i he
        by_cases hl : e.1 = l
        · have hlk : ¬ l = k := fun h => he (hl.trans h)
          simp [hl, hlk]
        · simpa [List.find?_cons, hl] using ih

end TextMap

end ZoneStore
