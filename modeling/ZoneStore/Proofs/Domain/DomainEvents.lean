import ZoneStore.Proofs.Dnssec.KeyEvents

/-!
# Events of domains

The calls of a run that write domains are a list of events (`DomainEvent`). A domain is described
after them if one of them created it and none since then deleted it under its name; each of its
attributes is what was last written to it since then, and otherwise what it was created with
(`DomainStored`). An event tells the domain that it writes to by a name like its own, or by its id,
and leaves every other domain alone. One more event creates a domain, deletes one or writes
one attribute (`domainStored_concat`).
-/

set_option autoImplicit false

namespace ZoneStore

/-! ## Events -/

/-- What a domain is created with. -/
structure NewDomain where
  /-- The zone name, as it is spelled. -/
  name : String
  /-- The replication role. -/
  kind : DomainKind
  /-- The texts that its list of masters is made of. -/
  masters : List String
  /-- The owner. -/
  account : String
deriving DecidableEq, Repr

/-- What a call has done to domains. -/
inductive DomainEvent where
  /-- A domain was created, under an id. -/
  | created (id : Int) (new : NewDomain)
  /-- The domain of a name was deleted. -/
  | deleted (name : String)
  /-- The masters of the domain of a name were set. -/
  | setMasters (name : String) (masters : List String)
  /-- The kind of the domain of a name was set. -/
  | setKind (name : String) (kind : DomainKind)
  /-- The account of the domain of a name was set. -/
  | setAccount (name account : String)
  /-- A serial was noted of the domain of an id. -/
  | notified (id serial : Int)
  /-- A check was noted of the domain of an id. -/
  | checked (id time : Int)
deriving DecidableEq, Repr

/-- The event that a call is with its outcome, given the ids of names after it. A call that fails is
none. -/
def Operation.domainEvent? (id? : String → Option Int) :
    {α : Type} → Operation α → Except Fault α → Option DomainEvent
  | _, createDomain name kind masters account, .ok _ =>
    (id? name).map fun id => .created id ⟨name, kind, masters, account⟩
  | _, createSlaveDomain ip name, .ok _ =>
    (id? name).map fun id =>
      .created id ⟨name, .slave, [ip ++ ":" ++ Backend.transferService], ""⟩
  | _, deleteDomain name, .ok _ => some (.deleted name)
  | _, setMasters name masters, .ok _ => some (.setMasters name masters)
  | _, setKind name kind, .ok _ => some (.setKind name kind)
  | _, setAccount name account, .ok _ => some (.setAccount name account)
  | _, setNotified id serial, .ok _ => some (.notified id serial)
  | _, setFresh id now, .ok _ => some (.checked id now)
  | _, _, _ => none

namespace DomainEvent

variable {α : Type}

/-- Whether the event deleted the domain of a name. -/
def deletes (zone : String) : DomainEvent → Bool
  | deleted name => Text.alike zone name
  | _ => false

/-- Whether the event deleted the domain of a name and an id, or wrote to it. -/
def names (zone : String) (id : Int) : DomainEvent → Bool
  | created _ _ => false
  | deleted name | setMasters name _ | setKind name _ | setAccount name _ => Text.alike zone name
  | notified id' _ | checked id' _ => decide (id = id')

/-- The masters that the event wrote to the domain of a name. -/
def masters? (zone : String) : DomainEvent → Option (List String)
  | setMasters name masters => if Text.alike zone name then some masters else none
  | _ => none

/-- The kind that the event wrote to the domain of a name. -/
def kind? (zone : String) : DomainEvent → Option DomainKind
  | setKind name kind => if Text.alike zone name then some kind else none
  | _ => none

/-- The account that the event wrote to the domain of a name. -/
def account? (zone : String) : DomainEvent → Option String
  | setAccount name account => if Text.alike zone name then some account else none
  | _ => none

/-- The serial that the event noted of the domain of an id. -/
def serial? (id : Int) : DomainEvent → Option Int
  | notified id' serial => if id = id' then some serial else none
  | _ => none

/-- The time that the event noted of the domain of an id. -/
def time? (id : Int) : DomainEvent → Option Int
  | checked id' time => if id = id' then some time else none
  | _ => none

/-- The description of a domain after the event has written to it. -/
def apply (e : DomainEvent) (info : DomainInfo) : DomainInfo :=
  { info with
    masters := ((e.masters? info.zone).map (·.flatMap splitMasters)).getD info.masters
    lastCheck := (e.time? info.id).getD info.lastCheck
    notifiedSerial := (e.serial? info.id).getD info.notifiedSerial
    kind := (e.kind? info.zone).getD info.kind
    account := (e.account? info.zone).getD info.account }

/-- An event that names another domain, or none, writes nothing. -/
theorem apply_eq_self {e : DomainEvent} {info : DomainInfo} (h : e.names info.zone info.id = false) :
    e.apply info = info := by
  cases e with
  | created | deleted => rfl
  | setMasters | setKind | setAccount =>
    simp only [names] at h
    simp [apply, masters?, kind?, account?, serial?, time?, h]
  | notified | checked =>
    simp only [names, decide_eq_false_iff_not] at h
    simp [apply, masters?, kind?, account?, serial?, time?, h]

/-- What the events last wrote, or what was there at first. -/
def lastWritten (events : List DomainEvent) (written? : DomainEvent → Option α) (first : α) : α :=
  (events.filterMap written?).getLast?.getD first

theorem lastWritten_concat (events : List DomainEvent) (e : DomainEvent)
    (written? : DomainEvent → Option α) (first : α) :
    lastWritten (events ++ [e]) written? first =
      (written? e).getD (lastWritten events written? first) :=
  getD_getLast?_filterMap_concat first

end DomainEvent

open DomainEvent

/-! ## Domains that events have left -/

/-- The description of a domain that was created under an id, after later events. -/
def NewDomain.since (new : NewDomain) (id : Int) (later : List DomainEvent) : DomainInfo where
  id := id
  zone := new.name
  masters := (lastWritten later (masters? new.name) new.masters).flatMap splitMasters
  lastCheck := lastWritten later (time? id) 0
  serial := 0
  notifiedSerial := lastWritten later (serial? id) 0
  kind := lastWritten later (kind? new.name) new.kind
  account := lastWritten later (account? new.name) new.account

/-- The domain was created and not deleted since, and is described as later events have left it. -/
def DomainStored (events : List DomainEvent) (info : DomainInfo) : Prop :=
  ∃ before id new later, events = before ++ .created id new :: later ∧
    (∀ e ∈ later, e.deletes new.name = false) ∧ info = new.since id later

/-- The domains after an event, told by those before it: the one that it created, and those that it
did not delete, as it wrote to them. -/
def DomainEvent.Leaves (e : DomainEvent) (before : DomainInfo → Prop) (info : DomainInfo) : Prop :=
  (∃ id new, e = .created id new ∧ info = new.since id []) ∨
    ∃ old, before old ∧ e.deletes old.zone = false ∧ info = e.apply old

section Concat

variable {events : List DomainEvent} {e : DomainEvent} {info : DomainInfo}

/-- One more event writes to the domain. -/
theorem NewDomain.since_concat (new : NewDomain) (id : Int) (later : List DomainEvent) :
    new.since id (later ++ [e]) = e.apply (new.since id later) := by
  simp only [since, apply, lastWritten_concat]
  cases e.masters? new.name <;> rfl

theorem not_domainStored_nil : ¬ DomainStored [] info := by
  rintro ⟨before, id, new, later, h, -⟩
  simp at h

/-- The domains after one more event are those that it leaves of the domains before. -/
theorem domainStored_concat :
    DomainStored (events ++ [e]) info ↔ e.Leaves (DomainStored events) info := by
  constructor
  · rintro ⟨before, id, new, later, hevents, hkept, hinfo⟩
    -- Either the last event is the creation itself, or it came later.
    rcases List.eq_nil_or_concat later with rfl | ⟨rest, last, rfl⟩
    · obtain ⟨-, hlast⟩ := List.append_inj' hevents rfl
      exact Or.inl ⟨id, new, List.head_eq_of_cons_eq hlast, hinfo⟩
    · rw [List.concat_eq_append] at hevents hkept hinfo
      rw [← List.cons_append, ← List.append_assoc] at hevents
      obtain ⟨rfl, hlast⟩ := List.append_inj' hevents rfl
      obtain rfl := List.head_eq_of_cons_eq hlast
      rw [new.since_concat] at hinfo
      refine Or.inr ⟨_, ⟨before, id, new, rest, rfl, fun e' he => ?_, rfl⟩, ?_, hinfo⟩
      · exact hkept e' (List.mem_append_left _ he)
      · exact hkept e (List.mem_append_right _ (List.mem_singleton_self e))
  · rintro (⟨id, new, rfl, hinfo⟩ | ⟨old, hold, hdeletes, rfl⟩)
    · exact ⟨events, id, new, [], rfl, fun _ he => absurd he List.not_mem_nil, hinfo⟩
    · obtain ⟨before, id, new, later, rfl, hkept, rfl⟩ := hold
      refine ⟨before, id, new, later ++ [e], by simp, fun e' he => ?_, (new.since_concat ..).symm⟩
      rcases List.mem_append.1 he with he | he
      · exact hkept e' he
      · obtain rfl := List.mem_singleton.1 he
        exact hdeletes

end Concat

end ZoneStore
