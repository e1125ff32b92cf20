import ZoneStore.Proofs.Backend.Recording
import ZoneStore.Proofs.Zone.Updates

/-!
# Runs are serializable

Every operation of a backend has a deed (`Operation.deed`), and so has every single statement
(`StatementOperation.deed`); the journal of a run notes the deeds of the steps that succeed, in the
order of the run (`Backend.journal`). At every point of every run from the empty database the
committed tables are what the blocks of the journal lead to, one after another, and every reading
operation answers from them (`committed_eq_serial`): nothing of a transaction that is open or was
discarded shows, and nothing of a committed one is lost or takes effect twice.
-/

set_option autoImplicit false

namespace ZoneStore

open Backend

/-! ## The deeds of the operations -/

/-- The deed of deleting a domain, by its id if it is found. -/
def removalDeed (name : String) : Option Int → Deed
  | some id => .atOnce (domainRemoval id name)
  | none => .reading

/-- What an operation sets out to do on a backend. -/
def Operation.deed (b : Backend) : {α : Type} → Operation α → Deed
  | _, startTransaction id zone => .start (.numbered id) (openingLog zone)
  | _, contend id _ => .start (.numbered id) []
  | _, commitTransaction id => .finish (.numbered id) .commit
  | _, abortTransaction id => .finish (.numbered id) .rollback
  | _, feedRecord id record ordername =>
    .work (.numbered id) [record.insertion b.dnssec ordername]
  | _, replaceRecordSet id zone qname qtype records =>
    .work (.numbered id) (Update.recordSet b.dnssec zone qname qtype records)
  | _, feedEmptyNonTerminals id zone names =>
    .work (.numbered id) (Update.emptyNonTerminals b.dnssec zone names)
  | _, feedHashedEmptyNonTerminals id zone zoneName names narrow =>
    .work (.numbered id) (Update.hashedEmptyNonTerminals b.hasher zone zoneName names narrow)
  | _, updateEmptyNonTerminals id zone insert erase removeAll =>
    .work (.numbered id) (Update.exchangeEmptyNonTerminals zone insert erase removeAll)
  | _, orderRecords id zone qname qtype ordername auth =>
    .work (.numbered id) [Update.order zone qname qtype ordername auth]
  | _, feedComment id comment => .work (.numbered id) [comment.insertion]
  | _, replaceComments id zone qname qtype comments =>
    .work (.numbered id) (Update.comments zone qname qtype comments)
  | _, setNotified domain serial => .atOnce [.setNotifiedSerial (some domain) (some serial)]
  | _, setFresh domain now => .atOnce [.setLastCheck (some domain) (some now)]
  | _, createDomain name kind masters account =>
    .atOnce [.insertDomain (some kind.text) (some name) (some (joinMasters masters)) (some account)]
  | _, createSlaveDomain ip name =>
    .atOnce [.insertDomain (some DomainKind.slave.text) (some name)
      (some (joinMasters [ip ++ ":" ++ transferService])) (some "")]
  | _, deleteDomain name => deedAfter (removalDeed name) ((Backend.domainId? name).run b).1
  | _, setMasters name masters => .atOnce [.setMasters (some name) (some (joinMasters masters))]
  | _, setKind name kind => .atOnce [.setKind (some name) (some kind.text)]
  | _, setAccount name account => .atOnce [.setAccount (some name) (some account)]
  | _, addAutoprimary primary =>
    .atOnce [.addAutoprimary (some primary.ip) (some primary.nameserver) (some primary.account)]
  | _, removeAutoprimary ip nameserver => .atOnce [.removeAutoprimary (some ip) (some nameserver)]
  | _, setTsigKey key =>
    .atOnce [.setTsigKey (some key.name) (some key.algorithm) (some key.secret)]
  | _, deleteTsigKey name => .atOnce [.deleteTsigKey (some name)]
  | _, addDomainKey name key => .atOnce [key.addition name]
  | _, removeDomainKey name key => .atOnce [.removeKey (some name) (some key)]
  | _, setDomainKeyActive name key active => .atOnce [.setKeyActive (some name) (some key) active]
  | _, setDomainKeyPublished name key published =>
    .atOnce [.setKeyPublished (some name) (some key) published]
  | _, setDomainMetadata name kind values => .atOnce (metadataReplacement name kind values)
  | _, _ => .reading

/-- Whether the deed of an operation was done: the operation succeeded, and for contenders one of
them did. -/
def Operation.succeeded : {α : Type} → Operation α → Except Fault α → Bool
  | _, contend _ _, .ok outcomes => outcomes.any Except.isOk
  | _, _, outcome => outcome.isOk

/-- What a single statement sets out to do. -/
def StatementOperation.deed : {α : Type} → StatementOperation α → Deed
  | _, perform statement args | _, fetch statement args =>
    match Request.ofName statement args with
    | .ok (.change m) => .atOnce [m]
    | _ => .reading
  | _, hold name => .start (.named name) []
  | _, performHeld name statement args | _, fetchHeld name statement args =>
    .work (.named name) (Work.mutationsOf statement args)
  | _, endHeld name ending => .finish (.named name) ending
  | _, dropHeld name => .finish (.named name) .rollback

namespace Backend

/-- The journal after one more step. -/
def noteStep (b : Backend) (j : Journal) : Step → Journal
  | .operation op => j.record (op.deed b) (op.succeeded (op.run.run b).1)
  | .statement op => j.record op.deed (op.run.run b).1.isOk

/-- The journal after a run that begins on a backend with a given journal. -/
def journalFrom (b : Backend) (j : Journal) : List Step → Journal
  | [] => j
  | step :: rest => journalFrom (b.next step) (b.noteStep j step) rest

/-- The journal of a run. -/
def journal (b : Backend) (steps : List Step) : Journal := b.journalFrom .empty steps

/-! ## Every operation does its deed -/

variable {α : Type}

theorem records_update {id : Int} {ms : List Mutation} (hms : ∀ m ∈ ms, m.NeverRefused) :
    Records (update id ms) fun _ => .work (.numbered id) ms :=
  records_inTransaction (Work.logsWhole_performAll hms)

theorem records_update_singleton {id : Int} {m : Mutation} (hm : m.NeverRefused) :
    Records (update id [m]) fun _ => .work (.numbered id) [m] :=
  records_update fun _ h => List.mem_singleton.1 h ▸ hm

theorem records_feedHashedEmptyNonTerminals (id zone : Int) (zoneName : String)
    (names : TextMap Bool) (narrow : Bool) :
    Records (feedHashedEmptyNonTerminals id zone zoneName names narrow) fun b =>
      .work (.numbered id)
        (Update.hashedEmptyNonTerminals b.hasher zone zoneName names narrow) := by
  refine Records.guarded (records_get fun b => records_inTransaction ?_)
  split
  · exact (Work.does_throw _ _).logsWhole
  · exact Work.logsWhole_performAll
      (Update.neverRefused_hashedEmptyNonTerminals b.hasher zone zoneName names narrow)

theorem records_deleteDomain (name : String) :
    Records (deleteDomain name) fun b =>
      deedAfter (removalDeed name) ((domainId? name).run b).1 := by
  refine (onlyReads_domainId? name).bind_records fun found => ?_
  cases found with
  | none => exact (onlyReads_throw _).records
  | some id => exact records_atomically (Work.logs_performAll _)

/-- What adding a key does in its transaction. -/
def keyAddition (name : String) (key : SigningKey) : ConnectionM Int := do
  let added ← Work.perform (key.addition name)
  if added = 0 then throw (.domainNotFound name)
  return (← Work.fetchLastInsertedId).head?.getD 0

/-- If the key was not added the transaction fails, and leaves nothing. -/
theorem logs_keyAddition (name : String) (key : SigningKey) :
    Work.Logs (keyAddition name key) [key.addition name] := by
  refine (Work.does_perform _).logs.bind fun added => Work.Does.logs ?_
  split
  · exact Work.does_throw _ _
  · exact Work.does_fetchLastInsertedId.andReturn _

theorem records_addDomainKey (name : String) (key : SigningKey) :
    Records (addDomainKey name key) fun _ => .atOnce [key.addition name] :=
  Records.guarded (records_atomically (logs_keyAddition name key))

end Backend

theorem Operation.records {α : Type} (op : Operation α) (b : Backend) (j : Journal)
    (hj : j.Matches b) :
    (j.record (op.deed b) (op.succeeded (op.run.run b).1)).Matches (op.run.run b).2 ∧
      b.SameMode (op.run.run b).2 := by
  cases op with
  | startTransaction id zone => exact records_startTransaction id zone b j hj
  | contend id contenders =>
    -- The call itself always succeeds; what counts is whether one of the contenders did.
    obtain ⟨outcomes, houtcomes, hmatches, hmode, -⟩ := matches_contend id contenders hj
    simp only [run, houtcomes]
    exact ⟨hmatches, hmode⟩
  | commitTransaction id => exact records_endTransaction id .commit b j hj
  | abortTransaction id => exact records_endTransaction id .rollback b j hj
  | feedRecord id record ordername =>
    exact records_get (fun b => records_update_singleton (neverRefused_insertion b.dnssec _ _))
      b j hj
  | replaceRecordSet id zone qname qtype records =>
    exact records_get (fun b => records_update (Update.neverRefused_recordSet b.dnssec _ _ _ _))
      b j hj
  | feedEmptyNonTerminals id zone names =>
    exact records_get (fun b => records_update (Update.neverRefused_emptyNonTerminals b.dnssec _ _))
      b j hj
  | feedHashedEmptyNonTerminals id zone zoneName names narrow =>
    exact records_feedHashedEmptyNonTerminals id zone zoneName names narrow b j hj
  | updateEmptyNonTerminals id zone insert erase removeAll =>
    exact records_update (Update.neverRefused_exchangeEmptyNonTerminals _ _ _ _) b j hj
  | orderRecords id zone qname qtype ordername auth =>
    exact (records_update_singleton (Update.neverRefused_order _ _ _ _ _)).guarded b j hj
  | feedComment id comment =>
    exact records_update_singleton (neverRefused_commentInsertion comment) b j hj
  | replaceComments id zone qname qtype comments =>
    exact records_update (Update.neverRefused_comments _ _ _ _) b j hj
  | setNotified | setFresh | createDomain | createSlaveDomain | setMasters | setKind | setAccount
  | addAutoprimary | removeAutoprimary | setTsigKey | deleteTsigKey =>
    exact records_perform _ b j hj
  | deleteDomain name => exact records_deleteDomain name b j hj
  | addDomainKey name key => exact records_addDomainKey name key b j hj
  | removeDomainKey | setDomainKeyActive | setDomainKeyPublished =>
    exact (records_perform _).guarded b j hj
  | setDomainMetadata name kind values =>
    exact (records_atomically (Work.logs_performAll _)).guarded b j hj
  | _ => exact (Operation.onlyReads _ rfl).records b j hj

theorem StatementOperation.records {α : Type} (op : StatementOperation α) :
    Records op.run fun _ => op.deed := by
  -- Outside a transaction a writing statement is a block, and any other one reads.
  have direct {α : Type} {statement : String} {args : Arguments} {x : ConnectionM α}
      (hx : Work.Does x (Work.mutationsOf statement args)) :
      Records (onStore (Store.direct x)) fun _ =>
        match Request.ofName statement args with
        | .ok (.change m) => .atOnce [m]
        | _ => .reading := by
    unfold Work.mutationsOf at hx
    rcases hname : Request.ofName statement args with fault | request
    · rw [hname] at hx
      exact records_direct_reading hx
    · rw [hname] at hx
      cases request with
      | change m => exact records_direct hx
      | read q => exact records_direct_reading hx
      | lastInsertedId => exact records_direct_reading hx
  cases op with
  | perform statement args => exact direct (Work.does_performNamed statement args)
  | fetch statement args => exact direct (Work.does_fetchNamed statement args)
  | hold name => exact records_holdTransaction name
  | performHeld name statement args =>
    exact records_inHeld (Work.does_performNamed statement args).logsWhole
  | fetchHeld name statement args =>
    exact records_inHeld (Work.does_fetchNamed statement args).logsWhole
  | endHeld name ending => exact records_endHeld name ending
  | dropHeld name => exact records_dropHeld name

/-! ## Runs -/

namespace Journal.Matches

/-- One step of a run. -/
theorem next {j : Journal} {b : Backend} (hj : j.Matches b) (step : Step) :
    (b.noteStep j step).Matches (b.next step) ∧ b.SameMode (b.next step) := by
  cases step with
  | operation op => exact op.records b j hj
  | statement op => exact op.records b j hj

/-- A run of any length. -/
theorem after {j : Journal} {b : Backend} (hj : j.Matches b) (steps : List Step) :
    (b.journalFrom j steps).Matches (b.after steps) ∧ b.SameMode (b.after steps) := by
  induction steps generalizing j b with
  | nil => exact ⟨hj, .refl b⟩
  | cons step rest ih =>
    obtain ⟨hnext, hmode⟩ := hj.next step
    obtain ⟨hafter, hmode'⟩ := ih hnext
    exact ⟨hafter, hmode.trans hmode'⟩

end Journal.Matches

/-- The backends that the runs from the empty database lead to. -/
def Backend.Reachable (b : Backend) : Prop :=
  ∃ connections dnssec hasher steps, b = (on (.on .empty connections) dnssec hasher).after steps

theorem Backend.Reachable.matches {b : Backend} (h : b.Reachable) : ∃ j : Journal, j.Matches b := by
  obtain ⟨connections, dnssec, hasher, steps, rfl⟩ := h
  exact ⟨_, ((Journal.Matches.on_empty connections dnssec hasher).after steps).1⟩

/-- An operation leads from a state that a run can reach to another one. -/
theorem Backend.Reachable.operation {b : Backend} (h : b.Reachable) {α : Type} (op : Operation α) :
    (op.run.run b).2.Reachable := by
  obtain ⟨connections, dnssec, hasher, steps, rfl⟩ := h
  refine ⟨connections, dnssec, hasher, steps ++ [.operation op], ?_⟩
  rw [after_append]
  rfl

/-- In a state that a run can reach the database is locked by a writer only. -/
theorem Backend.Reachable.unlocked {b : Backend} (h : b.Reachable)
    (hquiet : ∀ h c, b.transaction? h = some c → c.isWriter = false) :
    b.store.database.locked = false := by
  obtain ⟨j, hj⟩ := h.matches
  by_contra hlocked
  obtain ⟨h, c, hc, hwriter⟩ := hj.isolated.locked (by simpa using hlocked)
  rw [hquiet h c hc] at hwriter
  cases hwriter

/-- At every point of every run from the empty database the committed tables, ids of rows included,
are those that the committed transactions and the direct operations lead to one after another, each
of them as one block at the place where it took effect; and every reading operation answers as it
does on a backend that holds these tables and no transaction, unless it fails because no connection
is free. -/
theorem Backend.committed_eq_serial (connections : Nat) (dnssec : Bool) (hasher : Option Hasher)
    (steps : List Step) :
    let fresh := on (.on .empty connections) dnssec hasher
    ∃ tables,
      (fresh.after steps).store.database.tables = some tables ∧
      Tables.empty.runAll (fresh.journal steps).blocks.flatten = .ok tables ∧
      ∀ (α : Type) (op : Operation α), op.isRead = true →
        (op.run.run (fresh.after steps)).1 = (op.run.run (holding tables dnssec hasher)).1 ∨
          ¬ (fresh.after steps).HasFree ∧
            (op.run.run (fresh.after steps)).1 = .error (.database .noConnection) := by
  intro fresh
  obtain ⟨hmatches, hmode⟩ := (Journal.Matches.on_empty connections dnssec hasher).after steps
  obtain ⟨tables, htables, hrun⟩ := hmatches.committed
  refine ⟨tables, htables, hrun, ?_⟩
  intro α op hop
  obtain ⟨hanswer, -⟩ := op.onlyReads hop _ tables hmatches.calm htables
  -- The mode of operation is still the one that the run began with.
  rw [hmode.dnssec, hmode.hasher] at hanswer
  exact hanswer

/-- At every point of every run from the empty database a connection is free exactly if there are
fewer open transactions than connections: whatever takes a connection for itself gives it back, and
an open transaction keeps the one that it has. -/
theorem Backend.hasFree_after_iff (connections : Nat) (dnssec : Bool) (hasher : Option Hasher)
    (steps : List Step) :
    let reached := (on (.on .empty connections) dnssec hasher).after steps
    reached.HasFree ↔ reached.registry.size + reached.held.size < connections := by
  intro reached
  obtain ⟨hmatches, hmode⟩ := (Journal.Matches.on_empty connections dnssec hasher).after steps
  have hopened : reached.registry.opened = reached.registry.size := hmatches.filled.opened
  have hcount : reached.store.pool.free + reached.registry.opened + reached.held.size =
      connections := hmode.connections
  unfold HasFree Store.HasFree
  omega

/-- The first transaction is the writer until its commit. The other one and the new domain are
refused meanwhile, and have no part in the journal. -/
example (record other : ResourceRecord) :
    ((on (.on .empty) false none).journal
      [.operation (.startTransaction 1 0), .operation (.startTransaction 2 0),
       .operation (.feedRecord 1 record ""), .operation (.feedRecord 2 other ""),
       .operation (.createDomain "example.org" .native [] ""),
       .operation (.commitTransaction 1), .operation (.commitTransaction 2)]).blocks =
      [[record.insertion false ""], []] := rfl

end ZoneStore
