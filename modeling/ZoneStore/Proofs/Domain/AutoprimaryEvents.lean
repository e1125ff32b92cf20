import ZoneStore.Backend.Operation

/-!
# Events of autoprimaries

The calls of a run that add and remove autoprimaries are a list of events (`AutoprimaryEvent`), and
the autoprimaries that these leave are a list too, in the order in which they were added
(`AutoprimaryEvent.left`). One that was added is among them until its address and nameserver are
removed, and none of an address and nameserver that were removed is, until they are added again.
Nameservers that are alike are not told apart.
-/

set_option autoImplicit false

namespace ZoneStore

/-- Whether an autoprimary is at the address and of a nameserver like the given one. -/
def Autoprimary.isAt (p : Autoprimary) (ip nameserver : String) : Bool :=
  decide (p.ip = ip) && Text.alike p.nameserver nameserver

theorem Autoprimary.isAt_iff {p : Autoprimary} {ip nameserver : String} :
    p.isAt ip nameserver = true ↔ p.ip = ip ∧ Text.alike p.nameserver nameserver = true := by
  rw [isAt, Bool.and_eq_true, decide_eq_true_iff]

/-- The case in which a nameserver is given does not matter. -/
theorem Autoprimary.isAt_congr {nameserver other : String}
    (h : Text.alike nameserver other = true) (p : Autoprimary) (ip : String) :
    p.isAt ip nameserver = p.isAt ip other := by
  rw [isAt, isAt, Text.alike, Text.alike, Text.alike_iff.1 h]

/-- What a call has done to autoprimaries. -/
inductive AutoprimaryEvent where
  /-- An autoprimary was added. -/
  | added (p : Autoprimary)
  /-- The autoprimary at an address and of a nameserver was removed, if there was one. -/
  | removed (ip nameserver : String)
deriving DecidableEq, Repr

/-- The event that a call is with its outcome. A call that fails is none. -/
def Operation.autoprimaryEvent? :
    {α : Type} → Operation α → Except Fault α → Option AutoprimaryEvent
  | _, addAutoprimary p, .ok _ => some (.added p)
  | _, removeAutoprimary ip nameserver, .ok _ => some (.removed ip nameserver)
  | _, _, _ => none

namespace AutoprimaryEvent

/-- Whether the event removed the autoprimary. -/
def removes (p : Autoprimary) : AutoprimaryEvent → Bool
  | added _ => false
  | removed ip nameserver => p.isAt ip nameserver

/-- Whether the event added an autoprimary at the address and of the nameserver. -/
def adds (ip nameserver : String) : AutoprimaryEvent → Bool
  | added p => p.isAt ip nameserver
  | removed _ _ => false

/-- The autoprimaries after the event. -/
def apply (primaries : List Autoprimary) : AutoprimaryEvent → List Autoprimary
  | added p => primaries ++ [p]
  | removed ip nameserver => primaries.filter fun p => !p.isAt ip nameserver

/-- The autoprimaries that events leave, where there was none before. -/
def left (events : List AutoprimaryEvent) : List Autoprimary := events.foldl apply []

variable {primaries : List Autoprimary} {p : Autoprimary} {ip nameserver : String}
  {e : AutoprimaryEvent} {events before later : List AutoprimaryEvent}

theorem mem_apply : p ∈ apply primaries e ↔ e = .added p ∨ p ∈ primaries ∧ e.removes p = false := by
  cases e with
  | added q =>
    rw [apply, List.mem_append, List.mem_singleton, added.injEq, or_comm, eq_comm]
    simp [removes]
  | removed ip nameserver => simp [apply, removes]

/-- An autoprimary stays until an event removes it. -/
theorem mem_foldl_of_not_removed (hp : p ∈ primaries) (hlater : ∀ e ∈ later, e.removes p = false) :
    p ∈ later.foldl apply primaries := by
  induction later generalizing primaries with
  | nil => exact hp
  | cons e rest ih =>
    obtain ⟨he, hrest⟩ := List.forall_mem_cons.1 hlater
    exact ih (mem_apply.2 (Or.inr ⟨hp, he⟩)) hrest

/-- Where there is no autoprimary there is none until an event adds one. -/
theorem not_isAt_foldl_of_not_added (hnone : ∀ p ∈ primaries, p.isAt ip nameserver = false)
    (hlater : ∀ e ∈ later, e.adds ip nameserver = false) :
    ∀ p ∈ later.foldl apply primaries, p.isAt ip nameserver = false := by
  induction later generalizing primaries with
  | nil => exact hnone
  | cons e rest ih =>
    obtain ⟨he, hrest⟩ := List.forall_mem_cons.1 hlater
    refine ih (fun p hp => ?_) hrest
    rcases mem_apply.1 hp with rfl | ⟨hp, -⟩
    · exact he
    · exact hnone p hp

/-- What was added and not removed since is left. -/
theorem mem_left_of_added (hevents : events = before ++ .added p :: later)
    (hlater : ∀ e ∈ later, e.removes p = false) : p ∈ left events := by
  rw [hevents, left, List.foldl_append, List.foldl_cons]
  exact mem_foldl_of_not_removed (mem_apply.2 (Or.inl rfl)) hlater

/-- What was removed and not added since is not left. -/
theorem not_isAt_left_of_removed (hevents : events = before ++ .removed ip nameserver :: later)
    (hlater : ∀ e ∈ later, e.adds ip nameserver = false) :
    ∀ p ∈ left events, p.isAt ip nameserver = false := by
  rw [hevents, left, List.foldl_append, List.foldl_cons]
  refine not_isAt_foldl_of_not_added (fun p hp => ?_) hlater
  obtain ⟨-, hother⟩ := List.mem_filter.1 hp
  simpa using hother

end AutoprimaryEvent

end ZoneStore
