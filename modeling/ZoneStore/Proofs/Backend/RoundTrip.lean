import ZoneStore.Proofs.Backend.Readable
import ZoneStore.Proofs.Dnssec.StoredKeys

/-!
# What is written is read back

After every run of operations every reading operation succeeds, but for the few faults that are told
for it, and gives what the run has written: every integer as it was given (`Backend.reads_written`).
And what is written next is read back: a record or a comment that is fed and then committed, a
signing key that is added, and a serial or a time that is noted of a domain (`Backend.RoundTrips`).
-/

set_option autoImplicit false

namespace ZoneStore

open Backend

/-! ## Work that is committed -/

/-- Work in a transaction is done if the operation succeeds. -/
theorem Operation.succeeded_eq_isOk {α : Type} (op : Operation α) {b : Backend} {h : Handle}
    {ms : List Mutation} (hdeed : op.deed b = .work h ms) (outcome : Except Fault α) :
    op.succeeded outcome = outcome.isOk := by
  cases op <;> first | rfl | cases hdeed

namespace Journal

variable {j : Journal} {h : Handle} {ms log : List Mutation}

/-- Work in a transaction comes last in its part of the journal. -/
theorem exists_append_of_pending_work (hlog : (j.note (.work h ms)).pending h = some log) :
    ∃ before, log = before ++ ms := by
  cases hbefore : j.pending h with
  | none =>
    simp only [note, hbefore] at hlog
    cases hlog
  | some before =>
    simp only [note, hbefore, Function.update_self] at hlog
    exact ⟨before, (Option.some.inj hlog).symm⟩

/-- A commit makes a block of the part of the transaction. -/
theorem blocks_note_commit (hlog : j.pending h = some log) :
    (j.note (.finish h .commit)).blocks = j.blocks ++ [log] := by
  simp only [note, hlog]

end Journal

namespace Backend

/-- The operation succeeds, and then the transaction of the number is committed, which leads to the
given backend. -/
structure Commits (b : Backend) (id : Int) (op : Operation Unit) (b' : Backend) : Prop where
  done : (op.run.run b).1 = .ok ()
  committed : (commitTransaction id).run (op.run.run b).2 = (.ok (), b')

/-- What was done last in a transaction that is committed is what was done last to the tables. -/
theorem Commits.exists_runAll {b b' : Backend} {id : Int} {op : Operation Unit}
    (h : b.Commits id op b') {j : Journal} (hj : j.Matches b) {ms : List Mutation}
    (hdeed : op.deed b = .work (.numbered id) ms) :
    ∃ t t' : Tables, b'.store.database.tables = some t' ∧ t.runAll ms = .ok t' := by
  have hdone : op.succeeded (op.run.run b).1 = true := by
    rw [op.succeeded_eq_isOk hdeed, h.done]
    rfl
  have hworked : (j.note (.work (.numbered id) ms)).Matches (op.run.run b).2 := by
    have hnext := (op.records b j hj).1
    rwa [hdone, hdeed] at hnext
  have hended := (records_endTransaction id .commit (op.run.run b).2 _ hworked).1
  rw [show (endTransaction id .commit).run (op.run.run b).2 = _ from h.committed] at hended
  -- The transaction is open, for otherwise it could not be committed.
  obtain ⟨c, hc⟩ : ∃ c, (op.run.run b).2.transaction? (.numbered id) = some c := by
    cases hc : (op.run.run b).2.transaction? (.numbered id) with
    | some c => exact ⟨c, rfl⟩
    | none =>
      have hfails : (commitTransaction id).run (op.run.run b).2 = _ :=
        run_endWith_of_free (hworked.filled.free_of_connection? hc)
      rw [h.committed] at hfails
      cases hfails
  obtain ⟨log, hlog, -⟩ := hworked.pending hc
  obtain ⟨t, ht, -⟩ := hworked.committed
  obtain ⟨t', ht', hrun⟩ := hworked.committed_append hended (Journal.blocks_note_commit hlog) ht
  obtain ⟨before, rfl⟩ := Journal.exists_append_of_pending_work hlog
  rw [List.flatten_singleton, Tables.runAll_append] at hrun
  obtain ⟨middle, -, hlast⟩ := bind_eq_ok_iff.1 hrun
  exact ⟨middle, t', ht', hlast⟩

/-! ## Single rows -/

variable {b : Backend} {w : Writings} {tables : Tables}

/-- A row that is stored is in the listing of its zone. -/
theorem exists_mem_list (hb : b.store.Calm) (hfree : b.HasFree)
    (htables : b.store.database.tables = some tables)
    (hall : tables.AllWritten w) {row : RecordRow} (hrow : row ∈ tables.records) {zone : Int}
    (hzone : row.domainId = some zone) {r : ResourceRecord}
    (hread : ResourceRecord.ofListingRow row = .ok r) (name : String) :
    ∃ listed, ((list name (some zone) true).run b).1 = .ok listed ∧ r ∈ listed := by
  have hlist := reads_zoneListing (F := fun _ => False) hall.toWritten zone true b hb hfree htables
  obtain ⟨listed, hlisted, -⟩ := hlist.exists_ok
  replace hlisted : ((list name (some zone) true).run b).1 = .ok listed := hlisted
  refine ⟨listed, hlisted, ?_⟩
  obtain ⟨records, hrecords, hperm⟩ := forall₂_of_list hb htables hlisted
  have hinside : row ∈ tables.zoneRows zone := by
    refine List.mem_filter.2 ⟨hrow, ?_⟩
    exact holds_some_iff.2 hzone
  obtain ⟨r', hr', hread'⟩ := exists_of_mem_left hrecords hinside
  obtain rfl := Except.ok.inj (hread.symm.trans hread')
  exact hperm.mem_iff.2 hr'

/-- A comment that is stored is among the comments of its zone. -/
theorem exists_mem_listComments (hb : b.store.Calm) (hfree : b.HasFree)
    (htables : b.store.database.tables = some tables) {row : CommentRow}
    (hrow : row ∈ tables.comments) :
    ∃ listed, ((listComments row.domainId).run b).1 = .ok listed ∧ Comment.ofRow row ∈ listed := by
  have hreads : Reads tables (listComments row.domainId) (Comment.ofRow row ∈ ·)
      fun _ => False := by
    refine reads_selecting_bind (reads_pure ?_)
    refine List.mem_mergeSort.2 (List.mem_map_of_mem (List.mem_filter.2 ⟨hrow, ?_⟩))
    exact holds_some_iff.2 rfl
  exact (hreads b hb hfree htables).exists_ok

/-- The signing keys of a domain are its rows, read one by one. -/
theorem exists_domainKeys (hb : b.store.Calm) (hfree : b.HasFree)
    (htables : b.store.database.tables = some tables) (hall : tables.AllWritten w)
    (hdnssec : b.dnssec = true) (name : String) :
    ∃ keys, ((domainKeys name).run b).1 = .ok keys ∧
      List.Forall₂ (fun row key => SigningKey.ofRow row = .ok key)
        (tables.keys.filter (Tables.isKeyOf (tables.domainId? (some name)))) keys := by
  rw [domainKeys, run_guarded_of_true hdnssec]
  obtain ⟨keys, hkeys, hrows⟩ :=
    (reads_domainKeys (F := fun _ => False) hall.keys name b hb hfree htables).exists_ok
  exact ⟨keys, hkeys, hrows.imp fun _ _ h => h.1⟩

/-- A signing key that is stored is among the keys of its domain. -/
theorem exists_mem_domainKeys (hb : b.store.Calm) (hfree : b.HasFree)
    (htables : b.store.database.tables = some tables) (hall : tables.AllWritten w)
    (hdnssec : b.dnssec = true) {row : KeyRow} (hrow : row ∈ tables.keys) {name : String}
    (hdomain : tables.domainId? (some name) = some row.domainId) {key : SigningKey}
    (hread : SigningKey.ofRow row = .ok key) :
    ∃ keys, ((domainKeys name).run b).1 = .ok keys ∧ key ∈ keys := by
  obtain ⟨keys, hkeys, hrows⟩ := exists_domainKeys hb hfree htables hall hdnssec name
  have hinside : row ∈ tables.keys.filter (Tables.isKeyOf (tables.domainId? (some name))) := by
    refine List.mem_filter.2 ⟨hrow, ?_⟩
    rw [hdomain]
    exact holds_some_iff.2 rfl
  obtain ⟨key', hkey', hread'⟩ := exists_of_mem_left hrows hinside
  obtain rfl := Except.ok.inj (hread.symm.trans hread')
  exact ⟨keys, hkeys, hkey'⟩

/-! ## Round trips -/

/-- What is written next is read back as it was written. -/
structure RoundTrips (b : Backend) : Prop where
  /-- A record that is fed and committed is listed. -/
  record : ∀ id r ordername b', b.Commits id (.feedRecord id r ordername) b' → ∀ name,
    ∃ listed, ((list name (some r.domainId) true).run b').1 = .ok listed ∧
      r.fed b.dnssec ordername ∈ listed
  /-- A comment that is fed and committed is listed. -/
  comment : ∀ id c b', b.Commits id (.feedComment id c) b' →
    ∃ listed, ((listComments c.domainId).run b').1 = .ok listed ∧ c ∈ listed
  /-- A signing key that is added is among the keys of the domain, under the id that is given. -/
  key : ∀ name key new b', (addDomainKey name key).run b = (.ok new, b') →
    ∃ keys, ((domainKeys name).run b').1 = .ok keys ∧ { key with id := new } ∈ keys
  /-- A serial that is noted of a domain is part of its description. -/
  notified : ∀ domain serial b', (setNotified domain serial).run b = (.ok (), b') →
    ∀ name info, ((domainInfo? name).run b').1 = .ok (some info) → info.id = domain →
      info.notifiedSerial = serial
  /-- A time that is noted of a domain is part of its description. -/
  fresh : ∀ domain now b', (setFresh domain now).run b = (.ok (), b') →
    ∀ name info, ((domainInfo? name).run b').1 = .ok (some info) → info.id = domain →
      info.lastCheck = now

theorem calm_operated (connections : Nat) (dnssec : Bool) (hasher : Option Hasher)
    (ops : List AnyOperation) :
    (operated connections dnssec hasher ops).store.Calm :=
  (wrote_operated connections dnssec hasher ops).store.calm

theorem dnssec_operated (connections : Nat) (dnssec : Bool) (hasher : Option Hasher)
    (ops : List AnyOperation) :
    (operated connections dnssec hasher ops).dnssec = dnssec :=
  ((Journal.Matches.on_empty connections dnssec hasher).after _).2.dnssec

/-- The outcome of a step and the backend after it, as one run. -/
theorem operated_concat {connections : Nat} {dnssec : Bool} {hasher : Option Hasher}
    {ops : List AnyOperation}
    {α : Type} (op : Operation α) {outcome : Except Fault α} {b' : Backend}
    (h : op.run.run (operated connections dnssec hasher ops) = (outcome, b')) :
    operated connections dnssec hasher (ops ++ [⟨α, op⟩]) = b' := by
  rw [operated_append]
  exact congrArg Prod.snd h

section RoundTrips

variable {connections : Nat} {dnssec : Bool} {hasher : Option Hasher}
    {ops : List AnyOperation} {b' : Backend}

/-- After the commit of a run its connection is free. -/
theorem Commits.hasFree {id : Int} {op : Operation Unit}
    (h : (operated connections dnssec hasher ops).Commits id op b') : b'.HasFree := by
  obtain ⟨j, hj⟩ := ((reachable_operated connections dnssec hasher ops).operation op).matches
  have hfree := hasFree_of_commit hj (congrArg Prod.fst h.committed)
  rwa [h.committed] at hfree

theorem Commits.operated {id : Int} {op : Operation Unit}
    (h : (operated connections dnssec hasher ops).Commits id op b') :
    operated connections dnssec hasher (ops ++ [⟨Unit, op⟩, ⟨Unit, .commitTransaction id⟩]) = b' := by
  rw [operated_append]
  exact congrArg Prod.snd h.committed

/-- The last operation of a run notes what it notes of a domain, if it succeeds. -/
theorem notes_concat (op : Operation Unit)
    (h : op.run.run (operated connections dnssec hasher ops) = (.ok (), b'))
    (hdone : op.succeeded (.ok ()) = true) (id : Int) (name : String) :
    (Writings.ofRun connections dnssec hasher (ops ++ [⟨Unit, op⟩])).notes id name =
      op.noted id name ((Writings.ofRun connections dnssec hasher ops).notes id name) := by
  refine (trace_append (DomainNotes.after id name) _ .blank ops _).trans ?_
  have hafter : DomainNotes.after id name op (op.run.run (operated connections dnssec hasher ops)).1
      ((Writings.ofRun connections dnssec hasher ops).notes id name) =
        op.noted id name ((Writings.ofRun connections dnssec hasher ops).notes id name) := by
    rw [DomainNotes.after, h, if_pos hdone]
  exact hafter

/-- The description of a domain after a run tells what was last noted. -/
theorem describes_of_run {name : String} {info : DomainInfo}
    (h : ((domainInfo? name).run (operated connections dnssec hasher ops)).1 = .ok (some info)) :
    (Writings.ofRun connections dnssec hasher ops).Describes info := by
  obtain ⟨tables, htables, hall⟩ := allWritten_operated connections dnssec hasher ops
  have hfree := hasFree_of_fetch_bind h
  have hmeets := reads_domainInfo? (F := fun _ => False) hall.notes name _
    (calm_operated connections dnssec hasher ops) hfree htables
  rw [h] at hmeets
  exact (hmeets info rfl).2

theorem roundTrips_operated (connections : Nat) (dnssec : Bool) (hasher : Option Hasher)
    (ops : List AnyOperation) :
    (operated connections dnssec hasher ops).RoundTrips := by
  have hdnssec := dnssec_operated connections dnssec hasher ops
  obtain ⟨j, hj, -⟩ := exists_journal_operated connections dnssec hasher ops
  refine ⟨?_, ?_, ?_, ?_, ?_⟩
  · intro id r ordername b' h name
    obtain ⟨t, t', ht', hrun⟩ := h.exists_runAll hj rfl
    obtain rfl := Except.ok.inj hrun
    have hfree := h.hasFree
    obtain rfl := h.operated
    obtain ⟨tables, htables, hall⟩ := allWritten_operated connections dnssec hasher _
    obtain rfl := Option.some.inj (ht'.symm.trans htables)
    refine exists_mem_list (calm_operated connections dnssec hasher _) hfree htables hall
      (List.mem_append_right _ (List.mem_singleton_self _)) rfl ?_ name
    exact ofListingRow_of_unnumbered rfl
  · intro id c b' h
    obtain ⟨t, t', ht', hrun⟩ := h.exists_runAll hj rfl
    obtain rfl := Except.ok.inj hrun
    have hfree := h.hasFree
    obtain rfl := h.operated
    have hstored := exists_mem_listComments (calm_operated connections dnssec hasher _) hfree ht'
      (List.mem_append_right _ (List.mem_singleton_self _))
    exact hstored
  · intro name key new b' h
    have hadds :=
      allOrNothing_addDomainKey (calm_operated connections dnssec hasher ops) name key
    obtain ⟨t, t', -, ht', domain, hdomain, rfl⟩ := hadds.done new (congrArg Prod.fst h)
    have hfree : b'.HasFree := by
      have hbefore := hadds.connected new (congrArg Prod.fst h)
      have hsame := hadds.free
      rw [h] at hsame
      exact Nat.lt_of_lt_of_eq hbefore hsame.symm
    -- Without the signing mode the key would have been refused.
    have hmode : dnssec = true := by
      cases dnssec with
      | true => rfl
      | false =>
        rw [addDomainKey, run_guarded_of_false hdnssec] at h
        cases h
    rw [h] at ht'
    obtain rfl := operated_concat (.addDomainKey name key) h
    obtain ⟨tables, htables, hall⟩ := allWritten_operated connections dnssec hasher _
    obtain rfl := Option.some.inj (ht'.symm.trans htables)
    refine exists_mem_domainKeys (calm_operated connections dnssec hasher _) hfree htables hall
      ((dnssec_operated connections dnssec hasher _).trans hmode)
      (List.mem_append_right _ (List.mem_singleton_self _)) hdomain ?_
    exact SigningKey.ofRow_added key new domain
  · intro domain serial b' h name info hinfo hid
    obtain rfl := operated_concat (.setNotified domain serial) h
    rw [(describes_of_run hinfo).notifiedSerial,
      notes_concat (.setNotified domain serial) h rfl, Operation.noted, if_pos hid.symm]
    rfl
  · intro domain now b' h name info hinfo hid
    obtain rfl := operated_concat (.setFresh domain now) h
    rw [(describes_of_run hinfo).lastCheck,
      notes_concat (.setFresh domain now) h rfl, Operation.noted, if_pos hid.symm]
    rfl

/-- After every run of operations each reading operation gives what the run has written, and fails
only where it may, or because every connection is in use. It may fail in these ways: a listing by
name where no domain has it, a listing of all domains or of the masters by a serial that is no
integer, a search or the listing of a part of a zone by a pattern that is too long, and the listing
of keys without the signing mode. What is written next is read back. -/
theorem reads_written (connections : Nat) (dnssec : Bool) (hasher : Option Hasher)
    (ops : List AnyOperation) :
    (∀ {α : Type} (op : Operation α), op.isRead = true →
      Meets (op.Gives (.ofRun connections dnssec hasher ops))
        (fun fault => op.MayFail dnssec fault ∨
          ¬ (operated connections dnssec hasher ops).HasFree ∧ fault = .database .noConnection)
        (op.run.run (operated connections dnssec hasher ops)).1) ∧
      (operated connections dnssec hasher ops).RoundTrips := by
  refine ⟨?_, roundTrips_operated connections dnssec hasher ops⟩
  intro α op hread
  obtain ⟨tables, htables, hall⟩ := allWritten_operated connections dnssec hasher ops
  have hmeets := op.meets hread hall (calm_operated connections dnssec hasher ops) htables
  rwa [dnssec_operated] at hmeets

end RoundTrips

end Backend

end ZoneStore
