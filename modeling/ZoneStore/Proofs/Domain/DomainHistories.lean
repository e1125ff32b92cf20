import ZoneStore.Proofs.Dnssec.KeyHistories
import ZoneStore.Proofs.Domain.Notification
import ZoneStore.Proofs.Domain.StoredDomains

/-!
# Histories of domains

Each operation does to the domains what its event tells (`Operation.Advances.describes_of_event`),
and an operation that is no event leaves them alone. So after every run of operations in which kinds
are read from texts, the tables describe the domains that the events of the run have left
(`Backend.describes_operated`): each attribute of a domain is what was last written to it since its
creation, and the readers of domains all tell the same (`Backend.domain_histories`).
-/

set_option autoImplicit false

namespace ZoneStore

open Backend DomainEvent

/-! ## Single mutations -/

/-- The mutation of a call that writes to domains. -/
def DomainEvent.mutation? : DomainEvent → Option Mutation
  | setMasters name masters => some (.setMasters (some name) (some (joinMasters masters)))
  | setKind name kind => some (.setKind (some name) (some kind.text))
  | setAccount name account => some (.setAccount (some name) (some account))
  | notified id serial => some (.setNotifiedSerial (some id) (some serial))
  | checked id time => some (.setLastCheck (some id) (some time))
  | _ => none

namespace Tables

variable {t t' : Tables} {info : DomainInfo} {e : DomainEvent}

/-- The mutation of an event revises the rows as the event does. -/
theorem domains_of_mutation? {m : Mutation} (hm : e.mutation? = some m)
    (hrun : t.runAll [m] = .ok t') : t'.domains = t.domains.map e.revise := by
  have hrevise {p : DomainRow → Bool} {f : DomainRow → DomainRow}
      (hnamed : ∀ d, p d = true → e.revise d = f d) (hother : ∀ d, p d = false → e.revise d = d) :
      revise p f t.domains = t.domains.map e.revise := by
    refine List.map_congr_left fun d _ => ?_
    by_cases hd : p d = true
    · rw [if_pos hd, hnamed d hd]
    · rw [if_neg hd, hother d (Bool.eq_false_iff.2 hd)]
  cases e with
  | created | deleted => cases hm
  | setMasters name masters | setKind name kind | setAccount name account =>
    cases hm
    cases hrun
    refine hrevise (fun d hd => ?_) fun d hd => ?_
    · have hd : Text.alike d.name name = true := hd
      simp [DomainEvent.revise, masters?, kind?, account?, serial?, time?, hd]
    · have hd : Text.alike d.name name = false := hd
      simp [DomainEvent.revise, masters?, kind?, account?, serial?, time?, hd]
  | notified id value | checked id value =>
    cases hm
    cases hrun
    refine hrevise (fun d hd => ?_) fun d hd => ?_
    · have hd : d.id = id := by simpa using hd
      simp [DomainEvent.revise, masters?, kind?, account?, serial?, time?, hd]
    · have hd : d.id ≠ id := by simpa using hd
      simp [DomainEvent.revise, masters?, kind?, account?, serial?, time?, hd]

/-- Mutations of other tables leave the domains as they are. -/
theorem domains_of_runAll {ms : List Mutation} (hms : ∀ m ∈ ms, m.target ≠ .domains)
    (hrun : t.runAll ms = .ok t') : t'.domains = t.domains := by
  refine runAll_apply_induction (P := fun u => u.domains = t.domains) ?_ rfl hrun
  intro m hm u change hu happly
  exact ((Mutation.keepsBeside_target happly).domains (hms m hm)).trans hu

/-- A domain is created under the id that its name leads to then. -/
theorem exists_id_of_create {new : NewDomain}
    (hrun : t.runAll [.insertDomain (some new.kind.text) (some new.name)
      (some (joinMasters new.masters)) (some new.account)] = .ok t') :
    ∃ id, t'.domainId? (some new.name) = some id ∧
      t' = { t with domains := t.domains ++ [new.row id] } := by
  obtain ⟨row, htables, hid, -⟩ := exists_row_of_insertDomain hrun
  rw [runAll_singleton] at hrun
  obtain ⟨change, hchange, rfl⟩ := map_eq_ok_iff.1 hrun
  obtain ⟨kind, name, hkind, hname, -, hadded⟩ := Mutation.insertDomain_eq_ok hchange
  obtain rfl := Option.some.inj hkind
  obtain rfl := Option.some.inj hname
  rw [htables] at hadded
  have hrow := List.append_cancel_left (congrArg Tables.domains hadded)
  obtain rfl := List.head_eq_of_cons_eq hrow
  exact ⟨_, hid, htables⟩

end Tables

/-! ## Single operations -/

namespace Operation

variable {α : Type} {op : Operation α} {b : Backend} {t t' : Tables} {info : DomainInfo}

/-- Only what gives a result is an event. -/
theorem exists_ok_of_domainEvent? {id? : String → Option Int} {outcome : Except Fault α}
    {e : DomainEvent} (h : op.domainEvent? id? outcome = some e) : ∃ a, outcome = .ok a := by
  cases outcome with
  | ok a => exact ⟨a, rfl⟩
  | error fault => cases op <;> cases h

/-- An operation that is an event does to the domains what the event tells. -/
theorem Advances.describes_of_event (h : op.Advances b t t') (hb : b.store.Calm)
    (ht : b.store.database.tables = some t)
    (ht' : (op.run.run b).2.store.database.tables = some t')
    (hkinds : ∀ kind, op.kind? = some kind → kind.IsRead) {e : DomainEvent}
    (he : op.domainEvent? (fun name => t'.domainId? (some name)) (op.run.run b).1 = some e) :
    t'.Describes info ↔ e.Leaves t.Describes info := by
  have created (new : NewDomain) (hkind : new.kind.IsRead)
      (hrun : t.runAll [.insertDomain (some new.kind.text) (some new.name)
        (some (joinMasters new.masters)) (some new.account)] = .ok t')
      (he : (t'.domainId? (some new.name)).map (fun id => DomainEvent.created id new) = some e) :
      t'.Describes info ↔ e.Leaves t.Describes info := by
    obtain ⟨id, hid, htables⟩ := Tables.exists_id_of_create hrun
    rw [hid] at he
    obtain rfl := Option.some.inj he
    exact Tables.describes_create hkind htables
  obtain ⟨a, ha⟩ := exists_ok_of_domainEvent? he
  rw [ha] at he
  cases op with
  | createDomain name kind masters account =>
    exact created ⟨name, kind, masters, account⟩ (hkinds _ rfl) (h.runAll (by rw [ha]; rfl) rfl) he
  | createSlaveDomain ip name =>
    exact created ⟨name, .slave, [ip ++ ":" ++ transferService], ""⟩ (hkinds _ rfl)
      (h.runAll (by rw [ha]; rfl) rfl) he
  | deleteDomain name =>
    obtain rfl := Option.some.inj he
    obtain ⟨u, u', hu, hu', id, -, hrun⟩ := (allOrNothing_deleteDomain hb name).done a ha
    obtain rfl := Option.some.inj (ht.symm.trans hu)
    obtain rfl := Option.some.inj (ht'.symm.trans hu')
    rw [Tables.runAll_domainRemoval] at hrun
    obtain rfl := Except.ok.inj hrun
    exact Tables.describes_delete rfl
  | setMasters | setKind | setAccount | setNotified | setFresh =>
    obtain rfl := Option.some.inj he
    have hrun := h.runAll (by rw [ha]; rfl) rfl
    refine Tables.describes_revise ?_ nofun nofun (Tables.domains_of_mutation? rfl hrun)
    first | exact trivial | exact hkinds _ rfl
  | _ => cases he

/-- An operation that is no event leaves the domains as they are. -/
theorem Advances.domains_of_no_event (h : op.Advances b t t')
    (he : op.domainEvent? (fun name => t'.domainId? (some name)) (op.run.run b).1 = none) :
    t'.domains = t.domains := by
  cases h with
  | updates ms _ hms hrun =>
    refine Tables.domains_of_runAll (fun m hm htarget => ?_) hrun
    rcases (hms m hm).target with h | h <;> cases h.symm.trans htarget
  | done ms hdone hdeed hrun =>
    obtain ⟨a, ha⟩ := exists_ok_of_succeeded hdone
    rw [ha] at he
    cases op with
    | createDomain | createSlaveDomain =>
      -- The name of a new domain leads to it.
      cases hdeed
      obtain ⟨row, -, hid, -⟩ := Tables.exists_row_of_insertDomain hrun
      cases hid.symm.trans (Option.map_eq_none_iff.1 he)
    | setMasters | setKind | setAccount | setNotified | setFresh | deleteDomain => cases he
    | _ =>
      refine Tables.domains_of_runAll (fun m hm htarget => ?_) hrun
      have hwritten := target_of_atOnce _ hdeed hm
      simp [written, htarget] at hwritten

end Operation

/-! ## Runs -/

namespace Backend

/-- The event that an operation is on a backend, if it is one. -/
def domainEvent? (b : Backend) (op : AnyOperation) : Option DomainEvent :=
  op.2.domainEvent? (fun name => ((domainId? name).run (b.next op.step)).1.toOption.join)
    (op.2.run.run b).1

/-- The events of a run, one after another. -/
def domainEvents (b : Backend) : List AnyOperation → List DomainEvent
  | [] => []
  | op :: rest => (b.domainEvent? op).toList ++ (b.next op.step).domainEvents rest

theorem domainEvents_append (b : Backend) (ops more : List AnyOperation) :
    b.domainEvents (ops ++ more) =
      b.domainEvents ops ++ (b.after (ops.map AnyOperation.step)).domainEvents more := by
  induction ops generalizing b with
  | nil => rfl
  | cons op rest ih =>
    rw [List.cons_append, domainEvents, ih, domainEvents, List.append_assoc]
    rfl

end Backend

/-- The events of a run from the empty database. -/
def DomainEvent.ofRun (connections : Nat) (dnssec : Bool) (hasher : Option Hasher)
    (ops : List AnyOperation) :
    List DomainEvent :=
  (on (.on .empty connections) dnssec hasher).domainEvents ops

theorem DomainEvent.ofRun_concat (connections : Nat) (dnssec : Bool) (hasher : Option Hasher)
    (ops : List AnyOperation)
    (op : AnyOperation) : ofRun connections dnssec hasher (ops ++ [op]) =
      ofRun connections dnssec hasher ops ++
        ((operated connections dnssec hasher ops).domainEvent? op).toList := by
  rw [ofRun, domainEvents_append]
  exact congrArg _ (List.append_nil _)

namespace Backend

variable {connections : Nat} {dnssec : Bool} {hasher : Option Hasher}
    {ops : List AnyOperation} {t : Tables}

/-- An event tells the ids in the tables after it. Only that of a domain that was created is looked
up, and the connection on which it was created is free then. -/
theorem domainEvent?_eq {b : Backend} (hb : b.store.Calm) (op : AnyOperation)
    (hcalm : (b.next op.step).store.Calm) (ht : (b.next op.step).store.database.tables = some t) :
    b.domainEvent? op =
      op.2.domainEvent? (fun name => t.domainId? (some name)) (op.2.run.run b).1 := by
  by_cases hfree : (b.next op.step).HasFree
  · rw [domainEvent?]
    congr 1
    funext name
    rw [show ((domainId? name).run _).1 = .ok (t.domainId? (some name)) from
      run_domainId?_fst hcalm hfree ht name]
    rfl
  · obtain ⟨α, op⟩ := op
    cases op with
    | createDomain name kind masters account =>
      cases houtcome : ((createDomain name kind masters account).run b).1 with
      | ok => exact absurd (hasFree_of_perform hb houtcome).2 hfree
      | error fault => simp only [domainEvent?, Operation.run, houtcome, Operation.domainEvent?]
    | createSlaveDomain ip name =>
      cases houtcome : ((createSlaveDomain ip name).run b).1 with
      | ok => exact absurd (hasFree_of_perform hb houtcome).2 hfree
      | error fault => simp only [domainEvent?, Operation.run, houtcome, Operation.domainEvent?]
    | _ =>
      rw [domainEvent?]
      generalize (Action.run _ b).1 = outcome
      cases outcome <;> rfl

/-- After every run of operations in which kinds are read from texts, the tables describe the
domains that its events have left. -/
theorem describes_operated
    (hkinds : ∀ op ∈ ops, ∀ kind, op.2.kind? = some kind → ∃ s, kind = .ofText s)
    (ht : (operated connections dnssec hasher ops).store.database.tables = some t) (info : DomainInfo) :
    t.Describes info ↔ DomainStored (DomainEvent.ofRun connections dnssec hasher ops) info := by
  induction ops using List.reverseRecOn generalizing t info with
  | nil =>
    obtain rfl := Option.some.inj (ht.symm.trans rfl)
    exact iff_of_false Tables.not_describes_empty not_domainStored_nil
  | append_singleton ops op ih =>
    obtain ⟨j, hmatches, hj⟩ := exists_journal_operated connections dnssec hasher ops
    obtain ⟨u, hu, -⟩ := hmatches.committed
    obtain ⟨t', ht', hadvances⟩ := hmatches.advances hj op hu
    have hnext : operated connections dnssec hasher (ops ++ [op]) =
      (operated connections dnssec hasher ops).next op.step :=
      operated_append connections dnssec hasher ops [op]
    rw [hnext] at ht
    obtain rfl := Option.some.inj (ht.symm.trans ht')
    have hbefore : u.Describes = DomainStored (DomainEvent.ofRun connections dnssec hasher ops) := by
      funext info
      exact propext (ih (fun op hop => hkinds op (List.mem_append_left _ hop)) hu info)
    have hkind : ∀ kind, op.2.kind? = some kind → kind.IsRead := fun kind hkind =>
      DomainKind.isRead_of_ofText (hkinds op (by simp) kind hkind)
    have hevent : (operated connections dnssec hasher ops).domainEvent? op =
        op.2.domainEvent? (fun name => t.domainId? (some name))
          (op.2.run.run (operated connections dnssec hasher ops)).1 :=
      domainEvent?_eq hmatches.calm op (hmatches.next op.step).1.calm ht
    rw [DomainEvent.ofRun_concat, hevent]
    cases he : op.2.domainEvent? (fun name => t.domainId? (some name))
        (op.2.run.run (operated connections dnssec hasher ops)).1 with
    | none =>
      rw [Option.toList_none, List.append_nil, ← hbefore]
      exact Tables.describes_congr (hadvances.domains_of_no_event he)
    | some e =>
      rw [Option.toList_some, domainStored_concat, ← hbefore]
      exact hadvances.describes_of_event hmatches.calm hu ht hkind he

/-! ## Descriptions that are read -/

/-- The first row with the name is described. -/
theorem answers_domainInfo? (t : Tables) (name : String) :
    Answers t (domainInfo? name)
      ((t.domains.find? (·.isNamed (some name))).map fun d => .ofRow d 0) := by
  rw [← List.head?_filter]
  exact answers_fetch_map rfl fun rows => rows.head?.map fun row => DomainInfo.ofRow row 0

/-- What is told of the domains on a backend, after the given events. -/
structure DomainHistories (b : Backend) (events : List DomainEvent) : Prop where
  /-- A name leads to the description that the events have left of the domain whose name is like it,
  and to the id in it. -/
  described : ∀ name, ∃ found, ((domainInfo? name).run b).1 = .ok found ∧
    ((domainId? name).run b).1 = .ok (found.map DomainInfo.id) ∧
    ∀ info, found = some info ↔ DomainStored events info ∧ Text.alike info.zone name = true
  /-- It leads to one exactly if a domain of the name was created and not deleted since. -/
  present : ∀ name, (∃ info, ((domainInfo? name).run b).1 = .ok (some info)) ↔
    ∃ before id new later, events = before ++ .created id new :: later ∧
      (∀ e ∈ later, e.deletes new.name = false) ∧ Text.alike new.name name = true
  /-- What names another domain, or none, does not show in a description. -/
  others : ∀ (new : NewDomain) id later e, DomainEvent.names new.name id e = false →
    new.since id (later ++ [e]) = new.since id later
  /-- The masters of a domain are the texts that were last written exactly if none of these is empty
  or has a separator. -/
  masters : ∀ (new : NewDomain) id later,
    (new.since id later).masters = lastWritten later (masters? new.name) new.masters ↔
      ∀ master ∈ lastWritten later (masters? new.name) new.masters,
        master ≠ "" ∧ ∀ c ∈ master.toList, c ≠ ' ' ∧ c ≠ ',' ∧ c ≠ '\t'
  /-- An entry in the list of all domains is the description of its domain, with a serial. -/
  listed : ∀ entries, ((allDomains true).run b).1 = .ok entries → ∀ entry ∈ entries,
    ((domainInfo? entry.zone).run b).1 = .ok (some { entry with serial := 0 })

/-- Histories of domains, after every run of operations in which kinds are read from texts and that
leaves a connection free. A name leads to a description exactly if its domain was created and not
deleted since, and then to the name as it was spelled, to the kind, the account and the notified
serial that were last written to this domain, and to the fields of the masters that were. What was
written to other domains, or by calls that failed, does not show. The id of the name is the one in
the description, and the list of all domains has nothing but these descriptions, with serials. -/
theorem domain_histories (connections : Nat) (dnssec : Bool) (hasher : Option Hasher)
    (ops : List AnyOperation) (hfree : (operated connections dnssec hasher ops).HasFree)
    (hkinds : ∀ op ∈ ops, ∀ kind, op.2.kind? = some kind → ∃ s, kind = .ofText s) :
    (operated connections dnssec hasher ops).DomainHistories
      (DomainEvent.ofRun connections dnssec hasher ops) := by
  obtain ⟨t, ht, -⟩ := records_whole connections dnssec hasher ops
  have hcalm := calm_operated connections dnssec hasher ops
  have hunique := (reachable_operated connections dnssec hasher ops).uniqueKeys ht
  have hdescribes := describes_operated hkinds ht
  have hinfo (name : String) := answers_domainInfo? t name _ hcalm hfree ht
  have hfound (name : String) (info : DomainInfo) :
      ((t.domains.find? (·.isNamed (some name))).map fun d => DomainInfo.ofRow d 0) = some info ↔
        t.Describes info ∧ Text.alike info.zone name = true := by
    rw [Option.map_eq_some_iff]
    constructor
    · rintro ⟨d, hd, rfl⟩
      obtain ⟨hd, hname⟩ := hunique.find?_isNamed_iff.1 hd
      exact ⟨⟨d, hd, rfl⟩, hname⟩
    · rintro ⟨⟨d, hd, rfl⟩, hname⟩
      exact ⟨d, hunique.find?_isNamed_iff.2 ⟨hd, hname⟩, rfl⟩
  constructor
  case described =>
    intro name
    refine ⟨_, hinfo name, ?_, fun info => ?_⟩
    · rw [show ((domainId? name).run _).1 = .ok (t.domainId? (some name)) from
        run_domainId?_fst hcalm hfree ht name, Option.map_map]
      rfl
    · rw [hfound, hdescribes]
  case present =>
    intro name
    simp only [hinfo, Except.ok.injEq, hfound, hdescribes]
    constructor
    · rintro ⟨info, ⟨before, id, new, later, hevents, hkept, rfl⟩, hname⟩
      exact ⟨before, id, new, later, hevents, hkept, hname⟩
    · rintro ⟨before, id, new, later, hevents, hkept, hname⟩
      exact ⟨_, ⟨before, id, new, later, hevents, hkept, rfl⟩, hname⟩
  case others =>
    intro new id later e hother
    rw [new.since_concat]
    exact DomainEvent.apply_eq_self hother
  case masters =>
    intro new id later
    simp only [NewDomain.since, flatMap_splitMasters_eq_self_iff, Text.IsField, separatesMasters,
      Bool.or_eq_false_iff, beq_eq_false_iff_ne, and_assoc]
  case listed =>
    intro entries hentries entry hentry
    obtain ⟨d, hd, -, -, -, hdescribed⟩ :=
      (listsDomains_of_run hcalm ht hunique hentries).described entry hentry
    rw [hinfo, Except.ok.injEq, hfound, hdescribed]
    exact ⟨⟨d, hd, rfl⟩, Text.alike_self d.name⟩

/-- A domain is deleted, and another one of the name is created under the same id. -/
def renewed : List AnyOperation :=
  [⟨Unit, .createDomain "example.org" (.ofText "native") ["192.0.2.1"] "ops"⟩,
   ⟨Unit, .setNotified 1 2024010101⟩,
   ⟨Unit, .deleteDomain "EXAMPLE.ORG"⟩,
   ⟨Unit, .createSlaveDomain "192.0.2.2" "Example.Org"⟩,
   ⟨Unit, .setKind "example.org" (.ofText "Master")⟩,
   ⟨Unit, .setMasters "EXAMPLE.org" ["192.0.2.3,192.0.2.4", ""]⟩,
   ⟨Unit, .setAccount "example.net" "other"⟩]

/-- The new domain has nothing of the old one, nor what was written under another name. -/
theorem domain_histories_renewed :
    (∀ op ∈ renewed, ∀ kind, op.2.kind? = some kind → ∃ s, kind = .ofText s) ∧
      ((domainInfo? "EXAMPLE.ORG").run (operated 8 false none renewed)).1 =
        .ok (some ⟨1, "Example.Org", ["192.0.2.3", "192.0.2.4"], 0, 0, 0, .master, ""⟩) ∧
      DomainStored (DomainEvent.ofRun 8 false none renewed)
        ⟨1, "Example.Org", ["192.0.2.3", "192.0.2.4"], 0, 0, 0, .master, ""⟩ := by
  have hkinds : ∀ op ∈ renewed, ∀ kind, op.2.kind? = some kind → ∃ s, kind = .ofText s := by
    intro op hop kind hkind
    simp only [renewed, List.mem_cons, List.not_mem_nil, or_false] at hop
    rcases hop with rfl | rfl | rfl | rfl | rfl | rfl | rfl
    · exact ⟨"native", (Option.some.inj hkind).symm⟩
    · cases hkind
    · cases hkind
    · exact ⟨"slave", (Option.some.inj hkind).symm⟩
    · exact ⟨"Master", (Option.some.inj hkind).symm⟩
    all_goals cases hkind
  have hread : ((domainInfo? "EXAMPLE.ORG").run (operated 8 false none renewed)).1 =
      .ok (some ⟨1, "Example.Org", ["192.0.2.3", "192.0.2.4"], 0, 0, 0, .master, ""⟩) := rfl
  obtain ⟨found, hfound, -, hstored⟩ :=
    (domain_histories 8 false none renewed (by decide) hkinds).described "EXAMPLE.ORG"
  obtain rfl := Except.ok.inj (hread.symm.trans hfound)
  exact ⟨hkinds, hread, ((hstored _).1 rfl).1⟩

end Backend

end ZoneStore
