import ZoneStore.Store.Database
import ZoneStore.Store.Registry

/-!
# Slots of numbered transactions

Under every number in use the registry of numbered transactions has a slot. A start reserves its
number by an empty slot before it opens the transaction; it fills the slot once the transaction is
open, and releases it if the transaction cannot be opened. A slot is told from every other one by
its mark, so that a start releases none but its own.

Between calls every slot is filled (`Registry.Filled`); what a reserved slot leaves behind in one
call is nothing, or the filled slot (`release_reserve`, `fill_reserve`).
-/

set_option autoImplicit false

namespace ZoneStore

/-- A place in the registry of numbered transactions. -/
structure Slot where
  /-- What tells the slot from every other one. -/
  mark : Nat
  /-- The connection of the transaction, once the transaction is open. -/
  content : Option Connection
deriving DecidableEq, Repr

namespace Registry

/-- The connection of the transaction that is open under a number. -/
def connection? (r : Registry Int Slot) (id : Int) : Option Connection :=
  (r.find? id).bind Slot.content

/-- A mark that no slot has. -/
def freshMark (r : Registry Int Slot) : Nat := r.entries.foldr (fun e n => max (e.2.mark + 1) n) 0

/-- Whether the slot under a number is the one with the given mark. -/
def holds (r : Registry Int Slot) (id : Int) (mark : Nat) : Bool :=
  (r.find? id).any (·.mark = mark)

/-- Puts an empty slot under a number. -/
def reserve (r : Registry Int Slot) (id : Int) : Registry Int Slot :=
  r.insert id ⟨r.freshMark, none⟩

/-- Puts a connection into the slot under a number, if there is one. -/
def put (r : Registry Int Slot) (id : Int) (c : Connection) : Registry Int Slot :=
  match r.find? id with
  | none => r
  | some slot => r.insert id { slot with content := some c }

/-- Puts a connection into the slot with the given mark, if it is still under the number. -/
def fill (r : Registry Int Slot) (id : Int) (mark : Nat) (c : Connection) : Registry Int Slot :=
  if r.holds id mark then r.put id c else r

/-- Takes the slot with the given mark away, if it is still under the number. -/
def release (r : Registry Int Slot) (id : Int) (mark : Nat) : Registry Int Slot :=
  if r.holds id mark then r.erase id else r

/-- The registry with an open transaction under a number that was free. -/
def enter (r : Registry Int Slot) (id : Int) (c : Connection) : Registry Int Slot :=
  r.insert id ⟨r.freshMark, some c⟩

/-- No number is reserved for a transaction that is not open. -/
def Filled (r : Registry Int Slot) : Prop :=
  ∀ id slot, r.find? id = some slot → slot.content.isSome = true

/-- The number of open transactions. -/
def opened (r : Registry Int Slot) : Nat := r.entries.countP fun e => e.2.content.isSome

variable {r : Registry Int Slot} {id : Int} {c d : Connection}

/-! ## Marks -/

theorem mark_lt_freshMark {e : Int × Slot} (he : e ∈ r.entries) : e.2.mark < r.freshMark := by
  unfold freshMark
  generalize r.entries = entries at he
  induction entries with
  | nil => cases he
  | cons first rest ih =>
    rw [List.foldr_cons]
    rcases List.mem_cons.1 he with rfl | he
    · omega
    · have := ih he
      omega

/-- The mark of a slot that was reserved is no other slot's. -/
theorem holds_reserve_iff (r : Registry Int Slot) (id other : Int) :
    (r.reserve id).holds other r.freshMark = true ↔ other = id := by
  rw [reserve, holds, find?_insert]
  by_cases hother : other = id
  · simp [hother]
  · simp only [hother, if_false, iff_false, Bool.not_eq_true, Option.any_eq_false]
    intro slot hslot
    obtain ⟨e, he, rfl⟩ := Option.map_eq_some_iff.1 hslot
    have := mark_lt_freshMark (List.mem_of_find?_eq_some he)
    simp only [decide_eq_false_iff_not]
    omega

/-! ## What a start leaves behind -/

/-- Releasing the slot that was reserved leaves the registry as it was. -/
theorem release_reserve (h : r.contains id = false) :
    (r.reserve id).release id r.freshMark = r := by
  rw [release, if_pos ((holds_reserve_iff r id id).2 rfl), reserve, erase_insert_of_free h]

/-- Filling the slot that was reserved puts the transaction under the number. -/
theorem fill_reserve (r : Registry Int Slot) (id : Int) (c : Connection) :
    (r.reserve id).fill id r.freshMark c = r.enter id c := by
  rw [fill, if_pos ((holds_reserve_iff r id id).2 rfl), put, reserve, find?_insert, if_pos rfl]
  exact r.insert_insert id _ _

/-! ## Connections -/

/-- A free number has no transaction. -/
theorem connection?_of_free (h : r.contains id = false) : r.connection? id = none := by
  have hfind : r.find? id = none := by simpa [contains] using h
  rw [connection?, hfind, Option.bind_none]

/-- The number of an open transaction is in use. -/
theorem contains_of_connection? (h : r.connection? id = some c) : r.contains id = true := by
  cases hcontains : r.contains id with
  | true => rfl
  | false =>
    rw [connection?_of_free hcontains] at h
    cases h

/-- The slot of an open transaction. -/
theorem exists_slot (h : r.connection? id = some c) :
    ∃ mark, r.find? id = some ⟨mark, some c⟩ := by
  obtain ⟨⟨mark, content⟩, hfind, hcontent⟩ := Option.bind_eq_some_iff.1 h
  obtain rfl : content = some c := hcontent
  exact ⟨mark, hfind⟩

/-- Where no number is only reserved, a number in use has an open transaction. -/
theorem Filled.exists_connection (h : r.Filled) (hid : r.contains id = true) :
    ∃ c, r.connection? id = some c := by
  obtain ⟨slot, hslot⟩ := Option.isSome_iff_exists.1 hid
  obtain ⟨c, hc⟩ := Option.isSome_iff_exists.1 (h id slot hslot)
  exact ⟨c, by rw [connection?, hslot, Option.bind_some, hc]⟩

/-- Where no number is only reserved, a number without an open transaction is free. -/
theorem Filled.free_of_connection? (h : r.Filled) (hid : r.connection? id = none) :
    r.contains id = false := by
  cases hcontains : r.contains id with
  | false => rfl
  | true =>
    obtain ⟨c, hc⟩ := h.exists_connection hcontains
    rw [hid] at hc
    cases hc

theorem connection?_insert (r : Registry Int Slot) (id other : Int) (slot : Slot) :
    (r.insert id slot).connection? other =
      if other = id then slot.content else r.connection? other := by
  rw [connection?, find?_insert]
  split
  · rfl
  · rfl

theorem connection?_enter (r : Registry Int Slot) (id other : Int) (c : Connection) :
    (r.enter id c).connection? other = if other = id then some c else r.connection? other :=
  r.connection?_insert id other _

theorem connection?_erase (r : Registry Int Slot) (id other : Int) :
    (r.erase id).connection? other = if other = id then none else r.connection? other := by
  rw [connection?, find?_erase]
  split
  · rfl
  · rfl

/-- To take a slot away that is only reserved takes no transaction away. -/
theorem connection?_erase_of_none (h : r.connection? id = none) (other : Int) :
    (r.erase id).connection? other = r.connection? other := by
  rw [connection?_erase]
  split
  · subst other
    exact h.symm
  · rfl

/-- The slot of an open transaction with another connection of its own. -/
theorem put_eq_insert (h : r.connection? id = some c) (d : Connection) :
    ∃ mark, r.find? id = some ⟨mark, some c⟩ ∧ r.put id d = r.insert id ⟨mark, some d⟩ := by
  obtain ⟨mark, hfind⟩ := exists_slot h
  exact ⟨mark, hfind, by rw [put, hfind]⟩

theorem connection?_put (h : r.connection? id = some c) (d : Connection) (other : Int) :
    (r.put id d).connection? other = if other = id then some d else r.connection? other := by
  obtain ⟨mark, -, hput⟩ := put_eq_insert h d
  rw [hput, connection?_insert]

theorem size_put (h : r.connection? id = some c) (d : Connection) : (r.put id d).size = r.size := by
  obtain ⟨mark, -, hput⟩ := put_eq_insert h d
  rw [hput, size_insert_of_contains (contains_of_connection? h)]

/-! ## Filled slots -/

theorem filled_empty : (empty : Registry Int Slot).Filled := by
  intro id slot hslot
  cases hslot

theorem Filled.insert (h : r.Filled) (id : Int) (mark : Nat) (c : Connection) :
    (r.insert id ⟨mark, some c⟩).Filled := by
  intro other slot hslot
  rw [find?_insert] at hslot
  split at hslot
  · obtain rfl := Option.some.inj hslot
    rfl
  · exact h other slot hslot

theorem Filled.erase (h : r.Filled) (id : Int) : (r.erase id).Filled := by
  intro other slot hslot
  rw [find?_erase] at hslot
  split at hslot
  · cases hslot
  · exact h other slot hslot

theorem Filled.put (h : r.Filled) (hc : r.connection? id = some c) (d : Connection) :
    (r.put id d).Filled := by
  obtain ⟨mark, -, hput⟩ := put_eq_insert hc d
  rw [hput]
  exact h.insert id mark d

/-! ## The number of open transactions -/

theorem Filled.opened (h : r.Filled) : r.opened = r.size := by
  unfold Registry.opened size
  rw [List.countP_eq_length]
  intro e he
  exact h e.1 e.2 (find?_of_mem he)

theorem opened_eq_zero (h : ∀ id, r.connection? id = none) : r.opened = 0 := by
  rw [opened, List.countP_eq_zero]
  intro e he
  have hnone := h e.1
  rw [connection?, find?_of_mem he, Option.bind_some] at hnone
  simp [hnone]

theorem opened_enter (h : r.contains id = false) (c : Connection) :
    (r.enter id c).opened = r.opened + 1 := by
  have hentries : (r.enter id c).entries = (id, ⟨r.freshMark, some c⟩) :: r.entries :=
    congrArg (List.cons _) (congrArg entries (erase_of_free h))
  rw [opened, hentries]
  exact List.countP_cons_of_pos rfl

theorem opened_erase (h : r.connection? id = some c) : (r.erase id).opened + 1 = r.opened := by
  obtain ⟨mark, hfind⟩ := exists_slot h
  rw [opened, opened, (entries_perm_cons_erase hfind).countP_eq]
  exact (List.countP_cons_of_pos rfl).symm

theorem opened_put (h : r.connection? id = some c) (d : Connection) :
    (r.put id d).opened = r.opened := by
  obtain ⟨mark, -, hput⟩ := put_eq_insert h d
  rw [hput, ← opened_erase h]
  exact List.countP_cons_of_pos rfl

end Registry

end ZoneStore
