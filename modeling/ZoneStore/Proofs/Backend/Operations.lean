import ZoneStore.Proofs.Backend.Serial
import ZoneStore.Proofs.Table.Alterations

/-!
# Runs of operations

A run of operations alone, without single statements, sets out to do only three kinds of things
(`Operation.deed_cases`): zone updates in transactions, administration outside the zones at once,
and the removal of a domain with all that belongs to it as a whole. So the blocks of its journal
are of these kinds (`Journal.OfOperations`). In particular every record that it stores has a zone
and a name, and can be read (`Backend.records_whole`).
-/

set_option autoImplicit false

namespace ZoneStore

open Backend

/-! ## Kinds of mutations -/

/-- A record with a zone, a name and a time to live of 32 bits. -/
structure RecordRow.Whole (row : RecordRow) : Prop where
  zone : ∃ zone, row.domainId = some zone
  name : ∃ name, row.name = some name
  ttl : ∃ ttl, readWord 1 (row.ttl.getD 0) = .ok ttl

/-- A record with a zone and a time to live of 32 bits can be read. -/
theorem RecordRow.Whole.exists_ofRow {row : RecordRow} (h : row.Whole) :
    ∃ record, ResourceRecord.ofRow row = .ok record := by
  obtain ⟨zone, hzone⟩ := h.zone
  obtain ⟨ttl, httl⟩ := h.ttl
  rw [ResourceRecord.ofRow, httl, hzone]
  exact ⟨_, rfl⟩

theorem RecordRow.Whole.exists_ofListingRow {row : RecordRow} (h : row.Whole) :
    ∃ record, ResourceRecord.ofListingRow row = .ok record := by
  obtain ⟨record, hrecord⟩ := h.exists_ofRow
  rw [ResourceRecord.ofListingRow, hrecord]
  exact ⟨_, rfl⟩

theorem whole_toRow (dnssec : Bool) (ordername : String) (r : ResourceRecord) :
    (r.toRow dnssec ordername).Whole :=
  ⟨⟨_, rfl⟩, ⟨_, rfl⟩, _, readWord_toNat 1 r.ttl⟩

theorem whole_emptyNonTerminal (zone : Int) (name : String) (key : Option String)
    (auth : Option Int) :
    (RecordRow.emptyNonTerminal (some zone) (some name) key auth).Whole :=
  ⟨⟨_, rfl⟩, ⟨_, rfl⟩, _, readWord_toNat 1 0⟩

namespace Mutation

/-- The mutation changes records and comments only, and the records that it adds are whole. -/
structure IsZoneUpdate (m : Mutation) : Prop where
  target : m.target = .records ∨ m.target = .comments
  whole : ∀ row, m.newRecord? = some row → row.Whole

/-- The mutation leaves records and comments alone, and removes no domain. -/
structure IsAdministrative (m : Mutation) : Prop where
  records : m.target ≠ .records
  comments : m.target ≠ .comments
  keepsDomains : ∀ name, m ≠ .deleteDomain name

theorem newRecord?_eq_none {m : Mutation} (h : m.target ≠ .records) : m.newRecord? = none := by
  cases m <;> first | rfl | exact absurd rfl h

end Mutation

/-! ## What operations set out to do -/

/-- A block of mutations that an operation carries out as a whole. -/
inductive OperationBlock : List Mutation → Prop where
  /-- Zone updates, which a transaction has collected. -/
  | updates {ms : List Mutation} (h : ∀ m ∈ ms, m.IsZoneUpdate) : OperationBlock ms
  /-- Administration outside the zones. -/
  | administration {ms : List Mutation} (h : ∀ m ∈ ms, m.IsAdministrative) : OperationBlock ms
  /-- The removal of a domain. -/
  | removal (id : Int) (name : String) : OperationBlock (domainRemoval id name)

/-- The deed administrates at once, or it updates zones in a transaction. -/
def Deed.IsSteady : Deed → Prop
  | .reading | .finish _ _ => True
  | .atOnce ms => ∀ m ∈ ms, m.IsAdministrative
  | .start _ ms | .work _ ms => ∀ m ∈ ms, m.IsZoneUpdate

/-- Its mutations are zone updates or administration. -/
theorem Deed.IsSteady.of_mem {deed : Deed} (h : deed.IsSteady) {m : Mutation}
    (hm : m ∈ deed.mutations) : m.IsZoneUpdate ∨ m.IsAdministrative := by
  cases deed with
  | atOnce ms => exact Or.inr (h m hm)
  | start _ ms | work _ ms => exact Or.inl (h m hm)
  | reading | finish => cases hm

/-- The deed is one of an operation. -/
def Deed.OfOperation : Deed → Prop
  | .atOnce ms => OperationBlock ms
  | deed => deed.IsSteady

theorem Deed.IsSteady.ofOperation {deed : Deed} (h : deed.IsSteady) : deed.OfOperation := by
  cases deed with
  | atOnce ms => exact .administration h
  | _ => exact h

/-- What an operation adds to a transaction are zone updates. -/
theorem Deed.OfOperation.isZoneUpdate_of_queued {deed : Deed} (h : deed.OfOperation) {m : Mutation}
    (hm : m ∈ deed.queued) : m.IsZoneUpdate := by
  cases deed with
  | start | work => exact h m hm
  | reading | atOnce | finish => cases hm

namespace Mutation

theorem isZoneUpdate_insertion (dnssec : Bool) (ordername : String) (r : ResourceRecord) :
    (r.insertion dnssec ordername).IsZoneUpdate := by
  refine ⟨Or.inl rfl, ?_⟩
  intro row hrow
  cases hrow
  exact whole_toRow dnssec ordername r

theorem isZoneUpdate_insertEmptyNonTerminal (zone : Int) (name : String) (key : Option String)
    (auth : Option Int) :
    (insertEmptyNonTerminal (some zone) (some name) key auth).IsZoneUpdate := by
  refine ⟨Or.inl rfl, ?_⟩
  intro row hrow
  cases hrow
  exact whole_emptyNonTerminal zone name key auth

/-- A mutation of records or comments that adds no record is a zone update. -/
theorem isZoneUpdate_of_newRecord? {m : Mutation}
    (htarget : m.target = .records ∨ m.target = .comments) (h : m.newRecord? = none) :
    m.IsZoneUpdate := by
  refine ⟨htarget, ?_⟩
  intro row hrow
  rw [h] at hrow
  cases hrow

theorem IsAdministrative.of_target {m : Mutation} (hrecords : m.target ≠ .records)
    (hcomments : m.target ≠ .comments) (hdomains : m.target ≠ .domains) : m.IsAdministrative := by
  refine ⟨hrecords, hcomments, ?_⟩
  rintro name rfl
  exact hdomains rfl

end Mutation

theorem Deed.isSteady_atOnce {m : Mutation} (hm : m.IsAdministrative) :
    (Deed.atOnce [m]).IsSteady :=
  fun _ hmem => List.mem_singleton.1 hmem ▸ hm

theorem Deed.isSteady_work {h : Handle} {m : Mutation} (hm : m.IsZoneUpdate) :
    (Deed.work h [m]).IsSteady :=
  fun _ hmem => List.mem_singleton.1 hmem ▸ hm

/-- Whether the mutation only removes rows. -/
def Mutation.removes : Mutation → Bool
  | removeEmptyNonTerminals _ | removeEmptyNonTerminal _ _ | deleteZone _ | deleteRecords _ _ _
  | deleteDomain _ | removeAutoprimary _ _ | deleteRecordSetComments _ _ _ | deleteComments _
  | clearMetadataOfKind _ _ | clearMetadata _ | removeKey _ _ | clearKeys _ | deleteTsigKey _ =>
    true
  | _ => false

theorem eq_deleteZone_of_mem_openingLog {zone : Int} {m : Mutation} (hm : m ∈ openingLog zone) :
    m = .deleteZone (some zone) := by
  unfold openingLog at hm
  split at hm
  · exact List.mem_singleton.1 hm
  · cases hm

/-- A transaction begins with removals, if with anything. -/
theorem removes_of_mem_openingLog {zone : Int} {m : Mutation} (hm : m ∈ openingLog zone) :
    m.removes = true := by
  rw [eq_deleteZone_of_mem_openingLog hm]
  rfl

/-- Deleting a domain does nothing but remove it, if it is found. -/
theorem mem_domainRemoval_of_mem {name : String} {found : Except Fault (Option Int)} {m : Mutation}
    (hm : m ∈ (deedAfter (removalDeed name) found).mutations) :
    ∃ id, m ∈ domainRemoval id name := by
  rcases found with fault | (_ | id)
  · cases hm
  · cases hm
  · exact ⟨id, hm⟩

/-- Deleting a domain removes rows, if it is found. -/
theorem removes_of_mem_removal {name : String} {found : Except Fault (Option Int)} {m : Mutation}
    (hm : m ∈ (deedAfter (removalDeed name) found).mutations) : m.removes = true := by
  obtain ⟨id, hm⟩ := mem_domainRemoval_of_mem hm
  simp only [domainRemoval, List.mem_cons, List.not_mem_nil, or_false] at hm
  rcases hm with rfl | rfl | rfl | rfl | rfl <;> rfl

/-- Replacing the metadata of a kind removes some and adds some. -/
theorem target_of_mem_metadataReplacement {name kind : String} {values : List String} {m : Mutation}
    (hm : m ∈ metadataReplacement name kind values) : m.target = .domainmetadata := by
  rcases List.mem_cons.1 hm with rfl | hm
  · rfl
  · obtain ⟨value, -, rfl⟩ := List.mem_map.1 hm
    rfl

/-- The tables that an operation changes at once. -/
def Operation.written : {α : Type} → Operation α → List TableName
  | _, setNotified _ _ | _, setFresh _ _ | _, createDomain _ _ _ _ | _, createSlaveDomain _ _
  | _, setMasters _ _ | _, setKind _ _ | _, setAccount _ _ => [.domains]
  | _, deleteDomain _ => [.records, .comments, .domainmetadata, .cryptokeys, .domains]
  | _, addAutoprimary _ | _, removeAutoprimary _ _ => [.supermasters]
  | _, setTsigKey _ | _, deleteTsigKey _ => [.tsigkeys]
  | _, addDomainKey _ _ | _, removeDomainKey _ _ | _, setDomainKeyActive _ _ _
  | _, setDomainKeyPublished _ _ _ => [.cryptokeys]
  | _, setDomainMetadata _ _ _ => [.domainmetadata]
  | _, _ => []

/-- What an operation does at once is done to these tables. -/
theorem Operation.target_of_atOnce {α : Type} (op : Operation α) {b : Backend} {ms : List Mutation}
    (h : op.deed b = .atOnce ms) {m : Mutation} (hm : m ∈ ms) : m.target ∈ op.written := by
  have hmem : m ∈ (op.deed b).mutations := by
    rw [h]
    exact hm
  cases op with
  | deleteDomain name =>
    obtain ⟨id, hm⟩ := mem_domainRemoval_of_mem hmem
    have hwritten : (Operation.deleteDomain name).written =
        (domainRemoval id name).map Mutation.target := rfl
    rw [hwritten]
    exact List.mem_map_of_mem hm
  | setDomainMetadata name kind values =>
    exact List.mem_singleton.2 (target_of_mem_metadataReplacement hmem)
  | setNotified | setFresh | createDomain | createSlaveDomain | setMasters | setKind | setAccount
  | addAutoprimary | removeAutoprimary | setTsigKey | deleteTsigKey | addDomainKey
  | removeDomainKey | setDomainKeyActive | setDomainKeyPublished =>
    obtain rfl := List.mem_singleton.1 hmem
    exact List.mem_singleton_self _
  | _ => cases h

theorem isZoneUpdate_openingLog (zone : Int) : ∀ m ∈ openingLog zone, m.IsZoneUpdate := by
  intro m hm
  rw [eq_deleteZone_of_mem_openingLog hm]
  exact Mutation.isZoneUpdate_of_newRecord? (Or.inl rfl) rfl

/-- An operation sets out to read, to update zones in a transaction or to administrate, or it
deletes a domain. -/
theorem Operation.deed_cases {α : Type} (op : Operation α) (b : Backend) :
    (op.deed b).IsSteady ∨ ∃ name,
      op.deed b = deedAfter (removalDeed name) ((Backend.domainId? name).run b).1 ∧
      op.succeeded (op.run.run b).1 = ((Backend.deleteDomain name).run b).1.isOk ∧
      (op.run.run b).2 = ((Backend.deleteDomain name).run b).2 := by
  cases op with
  | deleteDomain name => exact Or.inr ⟨name, rfl, rfl, rfl⟩
  | startTransaction id zone => exact Or.inl (isZoneUpdate_openingLog zone)
  | contend => exact Or.inl fun _ hm => absurd hm List.not_mem_nil
  | feedRecord => exact Or.inl (Deed.isSteady_work (Mutation.isZoneUpdate_insertion _ _ _))
  | replaceRecordSet id zone qname qtype records =>
    exact Or.inl (Update.forall_mem_recordSet
      (Mutation.isZoneUpdate_of_newRecord? (Or.inl rfl) rfl)
      (Mutation.isZoneUpdate_of_newRecord? (Or.inr rfl) rfl)
      fun r _ => Mutation.isZoneUpdate_insertion _ _ r)
  | feedEmptyNonTerminals =>
    exact Or.inl (Update.forall_mem_emptyNonTerminals fun _ _ _ =>
      Mutation.isZoneUpdate_insertEmptyNonTerminal _ _ _ _)
  | feedHashedEmptyNonTerminals =>
    exact Or.inl (Update.forall_mem_hashedEmptyNonTerminals fun _ _ _ _ =>
      Mutation.isZoneUpdate_insertEmptyNonTerminal _ _ _ _)
  | updateEmptyNonTerminals =>
    exact Or.inl (Update.forall_mem_exchangeEmptyNonTerminals
      (Mutation.isZoneUpdate_of_newRecord? (Or.inl rfl) rfl)
      (fun _ => Mutation.isZoneUpdate_of_newRecord? (Or.inl rfl) rfl)
      fun _ _ => Mutation.isZoneUpdate_insertEmptyNonTerminal _ _ _ _)
  | orderRecords =>
    exact Or.inl (Deed.isSteady_work (Mutation.isZoneUpdate_of_newRecord? (Or.inl rfl) rfl))
  | feedComment =>
    exact Or.inl (Deed.isSteady_work (Mutation.isZoneUpdate_of_newRecord? (Or.inr rfl) rfl))
  | replaceComments =>
    exact Or.inl (Update.forall_mem_comments
      (Mutation.isZoneUpdate_of_newRecord? (Or.inr rfl) rfl)
      fun _ _ => Mutation.isZoneUpdate_of_newRecord? (Or.inr rfl) rfl)
  | setDomainMetadata name kind values =>
    -- Replacing the metadata of a kind is administration.
    refine Or.inl fun m hm => ?_
    have htarget := target_of_mem_metadataReplacement hm
    exact .of_target (by simp [htarget]) (by simp [htarget]) (by simp [htarget])
  | setNotified | setFresh | createDomain | createSlaveDomain | setMasters | setKind | setAccount =>
    exact Or.inl (Deed.isSteady_atOnce ⟨nofun, nofun, nofun⟩)
  | addAutoprimary | removeAutoprimary | setTsigKey | deleteTsigKey | removeDomainKey
  | setDomainKeyActive | setDomainKeyPublished | addDomainKey =>
    exact Or.inl (Deed.isSteady_atOnce (.of_target nofun nofun nofun))
  | _ => exact Or.inl trivial

theorem Operation.deed_ofOperation {α : Type} (op : Operation α) (b : Backend) :
    (op.deed b).OfOperation := by
  rcases op.deed_cases b with h | ⟨name, hdeed, -, -⟩
  · exact h.ofOperation
  · rw [hdeed]
    cases ((Backend.domainId? name).run b).1 with
    | error fault => trivial
    | ok found =>
      cases found with
      | none => trivial
      | some id => exact .removal id name

/-! ## Journals of runs of operations -/

/-- What has taken effect are blocks of operations, and what is pending are zone updates. -/
structure Journal.OfOperations (j : Journal) : Prop where
  blocks : ∀ ms ∈ j.blocks, OperationBlock ms
  pending : ∀ h log, j.pending h = some log → ∀ m ∈ log, m.IsZoneUpdate

namespace Journal.OfOperations

variable {j : Journal}

theorem empty : Journal.empty.OfOperations := by
  refine ⟨fun ms hms => absurd hms List.not_mem_nil, ?_⟩
  intro h log hlog
  cases hlog

/-- One deed of an operation. -/
theorem note (hj : j.OfOperations) {deed : Deed} (hdeed : deed.OfOperation) :
    (j.note deed).OfOperations := by
  obtain ⟨more, hblocks, hmore⟩ := j.note_blocks deed
  constructor
  · intro ms hms
    rw [hblocks] at hms
    rcases List.mem_append.1 hms with hms | hms
    · exact hj.blocks ms hms
    · rcases hmore ms hms with rfl | ⟨h, hlog⟩
      · exact hdeed
      · exact .updates (hj.pending h ms hlog)
  · intro h log hlog m hm
    rcases Journal.mem_pending_note hlog hm with hm | ⟨h', log', hlog', hm⟩
    · exact hdeed.isZoneUpdate_of_queued hm
    · exact hj.pending h' log' hlog' m hm

theorem record (hj : j.OfOperations) {deed : Deed} (hdeed : deed.OfOperation) (done : Bool) :
    (j.record deed done).OfOperations := by
  cases done with
  | true => exact hj.note hdeed
  | false => exact hj

end Journal.OfOperations

/-- An operation, whatever its result is. -/
abbrev AnyOperation : Type 1 := Σ α : Type, Operation α

/-- The operation as a step of a run. -/
def AnyOperation.step (op : AnyOperation) : Step := .operation op.2

namespace Backend

/-- The backend that a run of operations from the empty database leads to. -/
def operated (connections : Nat) (dnssec : Bool) (hasher : Option Hasher)
    (ops : List AnyOperation) : Backend :=
  (on (.on .empty connections) dnssec hasher).after (ops.map AnyOperation.step)

theorem reachable_operated (connections : Nat) (dnssec : Bool) (hasher : Option Hasher)
    (ops : List AnyOperation) :
    (operated connections dnssec hasher ops).Reachable :=
  ⟨connections, dnssec, hasher, _, rfl⟩

theorem operated_append (connections : Nat) (dnssec : Bool) (hasher : Option Hasher)
    (ops more : List AnyOperation) :
    operated connections dnssec hasher (ops ++ more) =
      (operated connections dnssec hasher ops).after (more.map AnyOperation.step) := by
  rw [operated, List.map_append, after_append]
  rfl

/-- A run of operations of any length keeps the journal one of operations. -/
theorem ofOperations_journalFrom {j : Journal} (hj : j.OfOperations) (b : Backend)
    (ops : List AnyOperation) : (b.journalFrom j (ops.map AnyOperation.step)).OfOperations := by
  induction ops generalizing j b with
  | nil => exact hj
  | cons op rest ih => exact ih (hj.record (op.2.deed_ofOperation b) _) _

/-- A run of operations of any length adds blocks of zone updates, and deeds that operations do at
once. -/
theorem forall_blocks_journalFrom {P : List Mutation → Prop} {j : Journal} (hj : j.OfOperations)
    (hblocks : ∀ ms ∈ j.blocks, P ms) (hupdates : ∀ ms, (∀ m ∈ ms, m.IsZoneUpdate) → P ms)
    (hatOnce : ∀ (op : AnyOperation) (b : Backend) ms, op.2.deed b = .atOnce ms → P ms)
    (b : Backend) (ops : List AnyOperation) :
    ∀ ms ∈ (b.journalFrom j (ops.map AnyOperation.step)).blocks, P ms := by
  induction ops generalizing j b with
  | nil => exact hblocks
  | cons op rest ih =>
    refine ih (hj.record (op.2.deed_ofOperation b) _) ?_ _
    intro ms hms
    unfold Journal.record at hms
    split at hms
    · obtain ⟨more, heq, hmore⟩ := j.note_blocks (op.2.deed b)
      rw [heq] at hms
      rcases List.mem_append.1 hms with hms | hms
      · exact hblocks ms hms
      · rcases hmore ms hms with hdeed | ⟨h, hlog⟩
        · exact hatOnce op b ms hdeed
        · exact hupdates ms (hj.pending h ms hlog)
    · exact hblocks ms hms

/-- A run of operations has a journal of operations. -/
theorem exists_journal_operated (connections : Nat) (dnssec : Bool) (hasher : Option Hasher)
    (ops : List AnyOperation) :
    ∃ j : Journal, j.Matches (operated connections dnssec hasher ops) ∧ j.OfOperations :=
  ⟨_, ((Journal.Matches.on_empty connections dnssec hasher).after _).1,
    ofOperations_journalFrom .empty (on (.on .empty connections) dnssec hasher) ops⟩

end Backend

/-! ## Records that are whole -/

theorem OperationBlock.whole {ms : List Mutation} (h : OperationBlock ms) {m : Mutation}
    (hm : m ∈ ms) {row : RecordRow} (hrow : m.newRecord? = some row) : row.Whole := by
  -- Only zone updates add records.
  have none (hnone : m.newRecord? = none) : row.Whole := by
    rw [hnone] at hrow
    cases hrow
  cases h with
  | updates h => exact (h m hm).whole row hrow
  | administration h => exact none (Mutation.newRecord?_eq_none (h m hm).records)
  | removal id name =>
    refine none ?_
    simp only [domainRemoval, List.mem_cons, List.not_mem_nil, or_false] at hm
    rcases hm with rfl | rfl | rfl | rfl | rfl <;> rfl

/-- Records stay whole, whatever is removed and whatever keys are set. -/
theorem Tables.forall_whole_of_alters {t t' : Tables} {m : Mutation} (ht : ∀ r ∈ t.records, r.Whole)
    (hrow : ∀ row, m.newRecord? = some row → row.Whole) (hm : m.Alters t t') :
    ∀ r ∈ t'.records, r.Whole := by
  cases hm with
  | addRecord hnew =>
    intro r hr
    rcases List.mem_append.1 hr with hr | hr
    · exact ht r hr
    · obtain rfl := List.mem_singleton.1 hr
      have hwhole := hrow _ hnew
      exact ⟨hwhole.zone, hwhole.name, hwhole.ttl⟩
  | removeRecords m p =>
    intro r hr
    exact ht r (mem_without.1 hr).1
  | reorderRecords zone name type change auth p =>
    intro r hr
    obtain ⟨s, hs, rfl | rfl⟩ := exists_of_mem_revise hr
    · exact ht r hs
    · have hwhole := ht s hs
      exact ⟨hwhole.zone, hwhole.name, hwhole.ttl⟩
  | _ => exact ht

/-- After a run of operations every committed record has a zone and a name, and can be read. -/
theorem Backend.records_whole (connections : Nat) (dnssec : Bool) (hasher : Option Hasher)
    (ops : List AnyOperation) :
    ∃ tables, (operated connections dnssec hasher ops).store.database.tables = some tables ∧
      ∀ r ∈ tables.records, r.Whole := by
  obtain ⟨j, hmatches, hj⟩ := exists_journal_operated connections dnssec hasher ops
  obtain ⟨tables, htables, hrun⟩ := hmatches.committed
  refine ⟨tables, htables, ?_⟩
  refine Tables.runAll_induction (P := fun t => ∀ r ∈ t.records, r.Whole) ?_ ?_ hrun
  · intro m hm t t' ht halters
    obtain ⟨ms, hms, hm⟩ := List.mem_flatten.1 hm
    exact Tables.forall_whole_of_alters ht (fun row => (hj.blocks ms hms).whole hm) halters
  · intro r hr
    exact absurd hr List.not_mem_nil

theorem Backend.whole_of_operated {connections : Nat} {dnssec : Bool} {hasher : Option Hasher}
    {ops : List AnyOperation}
    {tables : Tables}
    (h : (operated connections dnssec hasher ops).store.database.tables = some tables) :
    ∀ r ∈ tables.records, r.Whole := by
  obtain ⟨tables', htables', hwhole⟩ := records_whole connections dnssec hasher ops
  obtain rfl := Option.some.inj (h.symm.trans htables')
  exact hwhole

end ZoneStore
