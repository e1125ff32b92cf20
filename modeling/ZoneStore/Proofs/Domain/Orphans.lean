import ZoneStore.Proofs.Backend.Operations
import ZoneStore.Proofs.Table.Ownership

/-!
# No orphans

After every run of operations each committed key and metadata value belongs to an existing domain,
and so does each committed record and comment if those were only ever added under the ids of domains
that were committed at the moment (`Backend.InsertsUnderDomains`). A transaction that has added
something is the writer until it ends, so no domain can be deleted while it is open
(`Journal.Belongs.removal`). Hence a domain that has just been created owns nothing, even under an
id that another domain had before (`Backend.no_orphans`).

Operations are indivisible steps of a run. The deletion of a domain looks its id up on one
connection and then deletes by that id and by the name on another; nothing is said here about
operations of others that come between the two.
-/

set_option autoImplicit false

namespace ZoneStore

open Backend

/-! ## Keys and metadata -/

theorem Mutation.IsZoneUpdate.keepsDomains {m : Mutation} (h : m.IsZoneUpdate) :
    ∀ name, m ≠ .deleteDomain name := by
  rintro name rfl
  rcases h.target with h | h <;> cases h

namespace Tables

/-- What each block keeps, all of them keep. -/
theorem runAll_flatten_induction {P : Tables → Prop} {blocks : List (List Mutation)}
    (hstep : ∀ ms ∈ blocks, ∀ t t', P t → t.runAll ms = .ok t' → P t') {t t' : Tables} (ht : P t)
    (hrun : t.runAll blocks.flatten = .ok t') : P t' := by
  induction blocks generalizing t with
  | nil =>
    cases hrun
    exact ht
  | cons ms rest ih =>
    rw [List.flatten_cons, runAll_append] at hrun
    obtain ⟨u, hms, hrest⟩ := bind_eq_ok_iff.1 hrun
    have hu := hstep ms List.mem_cons_self t u ht hms
    exact ih (fun ms h => hstep ms (List.mem_cons_of_mem _ h)) hu hrest

/-- A block of an operation leaves no key and no metadata value without its domain. -/
theorem KeysOwned.block {t t' : Tables} {ms : List Mutation} (h : t.KeysOwned)
    (hms : OperationBlock ms) (hrun : t.runAll ms = .ok t') : t'.KeysOwned := by
  cases hms with
  | updates hms =>
    exact runAll_induction (fun m hm _ _ ht halters => ht.alters halters (hms m hm).keepsDomains)
      h hrun
  | administration hms =>
    exact runAll_induction (fun m hm _ _ ht halters => ht.alters halters (hms m hm).keepsDomains)
      h hrun
  | removal id name => exact h.removal hrun

end Tables

theorem Journal.Matches.keysOwned {j : Journal} {b : Backend} (hj : j.Matches b)
    (hops : j.OfOperations) {tables : Tables} (htables : b.store.database.tables = some tables) :
    tables.KeysOwned := by
  apply Tables.runAll_flatten_induction _ Tables.keysOwned_empty (hj.runAll_blocks htables)
  intro ms hms _ _ hu hrun
  exact hu.block (hops.blocks ms hms) hrun

/-! ## The deletion of a domain -/

namespace Backend

variable {b : Backend} {t : Tables}

/-- Nothing is deleted while a transaction is the writer. -/
theorem database_deleteDomain_of_locked (hb : b.store.Calm)
    (htables : b.store.database.tables = some t) (hlocked : b.store.database.locked = true)
    (name : String) : ((deleteDomain name).run b).2.store.database = b.store.database := by
  obtain ⟨-, hcalm, hsame⟩ := onlyReads_domainId? name b t hb htables
  rw [deleteDomain, Action.run_bind]
  rcases hrun : (domainId? name).run b with ⟨outcome, b'⟩
  rw [hrun] at hcalm hsame
  cases outcome with
  | error fault => exact hsame.database
  | ok found =>
    cases found with
    | none => exact hsame.database
    | some id =>
      have hremoval := Work.logs_performAll (domainRemoval id name)
      have hmoves := (Store.atomically_carries hremoval hcalm).moves
      exact (hmoves.refused (hsame.database ▸ hlocked)).trans hsame.database

end Backend

/-- A transaction that has something pending is the writer. -/
theorem Isolated.locked_of_pending {db : Database} {transactions : Handle → Option Connection}
    {pending : Handle → Option (List Mutation)} (hi : Isolated db transactions pending) {h : Handle}
    {log : List Mutation} (hlog : pending h = some log) (hne : log ≠ []) : db.locked = true := by
  cases hc : transactions h with
  | none =>
    rw [hi.free h hc] at hlog
    cases hlog
  | some c =>
    obtain ⟨log', hlog', hfollows⟩ := hi.follows h c hc
    obtain rfl := Option.some.inj (hlog.symm.trans hlog')
    exact hfollows.locked (hfollows.isWriter_of_ne_nil hne)

/-! ## Records and comments -/

/-- If the operation succeeds, it adds records and comments only under the ids of domains that are
committed before it. -/
def Operation.InsertsUnderDomains {α : Type} (b : Backend) (op : Operation α) : Prop :=
  op.succeeded (op.run.run b).1 = true → ∀ m ∈ (op.deed b).mutations, ∀ zone, m.zone? = some zone →
    ∃ tables, b.store.database.tables = some tables ∧ zone ∈ tables.domainIds

theorem Operation.InsertsUnderDomains.of_zone? {α : Type} {b : Backend} {op : Operation α}
    (h : ∀ m ∈ (op.deed b).mutations, m.zone? = none) : op.InsertsUnderDomains b := by
  intro _ m hm zone hzone
  rw [h m hm] at hzone
  cases hzone

/-- Each operation of a run adds records and comments only under the ids of domains that are
committed at the moment. -/
def Backend.InsertsUnderDomains (b : Backend) : List AnyOperation → Prop
  | [] => True
  | op :: rest => op.2.InsertsUnderDomains b ∧ InsertsUnderDomains (b.next op.step) rest

/-- Committed records and comments belong to existing domains, and what a transaction has added
will do so too once it is committed. -/
structure Journal.Belongs (j : Journal) (t : Tables) : Prop where
  zones : t.ZonesOwned
  pending : ∀ h log, j.pending h = some log → ∀ m ∈ log, ∀ zone, m.zone? = some zone →
    zone ∈ t.domainIds

namespace Journal.Belongs

variable {j : Journal} {b : Backend} {t t' : Tables}

theorem empty : Journal.empty.Belongs .empty := by
  refine ⟨Tables.zonesOwned_empty, ?_⟩
  intro h log hlog
  cases hlog

/-- A deed that administrates, or updates zones of existing domains in a transaction, leaves no
record and no comment without its domain. -/
theorem note (h : j.Belongs t) (hops : j.OfOperations) {deed : Deed} (hsteady : deed.IsSteady)
    (hzone : ∀ m ∈ deed.mutations, ∀ zone, m.zone? = some zone → zone ∈ t.domainIds)
    {more : List (List Mutation)} (hblocks : (j.note deed).blocks = j.blocks ++ more)
    (hrun : t.runAll more.flatten = .ok t') : (j.note deed).Belongs t' := by
  -- Whatever takes effect or stays pending is of the deed, or was pending before.
  have sound {m : Mutation} (hm : m ∈ deed.mutations ∨ ∃ h log, j.pending h = some log ∧ m ∈ log) :
      (∀ name, m ≠ .deleteDomain name) ∧ (∀ row, m.newRecord? = some row → row.Whole) ∧
        ∀ zone, m.zone? = some zone → zone ∈ t.domainIds := by
    rcases hm with hm | ⟨h', log, hlog, hm⟩
    · rcases Deed.IsSteady.of_mem hsteady hm with hm' | hm'
      · exact ⟨hm'.keepsDomains, hm'.whole, hzone m hm⟩
      · refine ⟨hm'.keepsDomains, fun row hrow => ?_, hzone m hm⟩
        rw [Mutation.newRecord?_eq_none hm'.records] at hrow
        cases hrow
    · have hm' := hops.pending h' log hlog m hm
      exact ⟨hm'.keepsDomains, hm'.whole, h.pending h' log hlog m hm⟩
  have hmore : ∀ m ∈ more.flatten,
      m ∈ deed.mutations ∨ ∃ h log, j.pending h = some log ∧ m ∈ log := by
    intro m hm
    obtain ⟨more', hblocks', hmore⟩ := j.note_blocks deed
    obtain rfl := List.append_cancel_left (hblocks.symm.trans hblocks')
    obtain ⟨ms, hms, hm⟩ := List.mem_flatten.1 hm
    rcases hmore ms hms with rfl | ⟨h', hlog⟩
    · exact Or.inl hm
    · exact Or.inr ⟨h', ms, hlog, hm⟩
  have hkept : t'.ZonesOwned ∧ t.domainIds ⊆ t'.domainIds := by
    refine Tables.runAll_induction (P := fun u => u.ZonesOwned ∧ t.domainIds ⊆ u.domainIds) ?_
      ⟨h.zones, List.Subset.refl _⟩ hrun
    rintro m hm u u' ⟨hu, hids⟩ halters
    obtain ⟨hkeep, hwhole, hzone⟩ := sound (hmore m hm)
    refine ⟨hu.alters halters hkeep (fun zone hz => hids (hzone zone hz)) fun row hrow =>
      (hwhole row hrow).zone, ?_⟩
    exact List.Subset.trans hids (Tables.domainIds_subset_of_alters halters hkeep)
  refine ⟨hkept.1, ?_⟩
  intro h' log hlog m hm zone hz
  have hqueued := (Journal.mem_pending_note hlog hm).imp_left Deed.mem_mutations_of_queued
  exact hkept.2 ((sound hqueued).2.2 zone hz)

/-- The removal of a domain leaves no record and no comment without its domain: unless it is
refused, no transaction is the writer, so that nothing is pending under the id of the domain. -/
theorem removal (h : j.Belongs t) (hj : j.Matches b) (hkeys : t.KeysOwned)
    (htables : b.store.database.tables = some t) {b' : Backend} {name : String} {id : Int}
    (hid : t.domainId? (some name) = some id)
    (hrefused : b.store.database.locked = true → b'.store.database = b.store.database)
    (hj' : (j.note (.atOnce (domainRemoval id name))).Matches b') :
    ∃ t', b'.store.database.tables = some t' ∧
      (j.note (.atOnce (domainRemoval id name))).Belongs t' := by
  cases hlocked : b.store.database.locked with
  | true => exact ⟨t, hrefused hlocked ▸ htables, h.zones, h.pending⟩
  | false =>
    have hblocks : (j.note (.atOnce (domainRemoval id name))).blocks =
        j.blocks ++ [domainRemoval id name] := rfl
    obtain ⟨t', ht', hrun⟩ := hj.committed_append hj' hblocks htables
    rw [List.flatten_singleton] at hrun
    refine ⟨t', ht', h.zones.removal hkeys hid hrun, ?_⟩
    intro h' log hlog m hm
    have hwriter := hj.isolated.locked_of_pending hlog (List.ne_nil_of_mem hm)
    rw [hlocked] at hwriter
    cases hwriter

/-- One operation. -/
theorem next (h : j.Belongs t) (hj : j.Matches b) (hops : j.OfOperations)
    (htables : b.store.database.tables = some t) {α : Type} (op : Operation α)
    (hinserts : op.InsertsUnderDomains b) :
    ∃ t', (op.run.run b).2.store.database.tables = some t' ∧
      (j.record (op.deed b) (op.succeeded (op.run.run b).1)).Belongs t' := by
  have hj' := (op.records b j hj).1
  cases hdone : op.succeeded (op.run.run b).1 with
  | false =>
    rw [hdone] at hj'
    obtain ⟨t', ht', hrun⟩ := hj.committed_append hj' (List.append_nil _).symm htables
    obtain rfl : t = t' := Except.ok.inj hrun
    exact ⟨t, ht', h⟩
  | true =>
    rw [hdone] at hj'
    rcases op.deed_cases b with hsteady | ⟨name, hdeed, -, hrun⟩
    · obtain ⟨more, hblocks, -⟩ := j.note_blocks (op.deed b)
      obtain ⟨t', ht', hrun⟩ := hj.committed_append hj' hblocks htables
      refine ⟨t', ht', h.note hops hsteady ?_ hblocks hrun⟩
      intro m hm zone hzone
      obtain ⟨tables, htables', hmem⟩ := hinserts hdone m hm zone hzone
      obtain rfl := Option.some.inj (htables.symm.trans htables')
      exact hmem
    · rw [hdeed] at hj' ⊢
      -- Where nothing is found, nothing is done.
      have unchanged (hj' : j.Matches (op.run.run b).2) :
          ∃ t', (op.run.run b).2.store.database.tables = some t' ∧ j.Belongs t' := by
        obtain ⟨t', ht', hrun'⟩ := hj.committed_append hj' (List.append_nil _).symm htables
        obtain rfl : t = t' := Except.ok.inj hrun'
        exact ⟨t, ht', h⟩
      rcases hfound : ((domainId? name).run b).1 with fault | - | id
      · rw [hfound] at hj'
        exact unchanged hj'
      · rw [hfound] at hj'
        exact unchanged hj'
      · have hid := domainId?_of_ok hj.calm htables hfound
        rw [hfound] at hj'
        refine h.removal hj (hj.keysOwned hops htables) htables hid ?_ hj'
        intro hlocked
        rw [hrun]
        exact database_deleteDomain_of_locked hj.calm htables hlocked name

/-- A run of operations of any length. -/
theorem after {ops : List AnyOperation} (h : j.Belongs t) (hj : j.Matches b)
    (hops : j.OfOperations) (htables : b.store.database.tables = some t)
    (hinserts : b.InsertsUnderDomains ops) :
    ∃ t', (b.after (ops.map AnyOperation.step)).store.database.tables = some t' ∧
      (b.journalFrom j (ops.map AnyOperation.step)).Belongs t' := by
  induction ops generalizing j b t with
  | nil => exact ⟨t, htables, h⟩
  | cons op rest ih =>
    obtain ⟨hfirst, hrest⟩ := hinserts
    obtain ⟨u, hu, hnext⟩ := h.next hj hops htables op.2 hfirst
    exact ih hnext (op.2.records b j hj).1 (hops.record (op.2.deed_ofOperation b) _) hu hrest

end Journal.Belongs

/-! ## Existing and new domains -/

namespace Backend

theorem zonesOwned_operated {connections : Nat} {dnssec : Bool} {hasher : Option Hasher}
    {ops : List AnyOperation}
    (h : (on (.on .empty connections) dnssec hasher).InsertsUnderDomains ops) {tables : Tables}
    (htables : (operated connections dnssec hasher ops).store.database.tables = some tables) :
    tables.ZonesOwned := by
  obtain ⟨t, ht, hbelongs⟩ := Journal.Belongs.empty.after
    (Journal.Matches.on_empty connections dnssec hasher) .empty rfl h
  obtain rfl := Option.some.inj (ht.symm.trans htables)
  exact hbelongs.zones

/-- A domain that is created is found under its name, by an id that no domain had before, and
nothing else is added. -/
theorem exists_created {b : Backend} (hb : b.store.Calm) {t : Tables}
    (htables : b.store.database.tables = some t) {name account : String} {kind : DomainKind}
    {masters : List String} (h : ((createDomain name kind masters account).run b).1 = .ok ()) :
    ∃ t' row, ((createDomain name kind masters account).run b).2.store.database.tables = some t' ∧
      t' = { t with domains := t.domains ++ [row] } ∧ t'.domainId? (some name) = some row.id ∧
      row.id ∉ t.domainIds := by
  let m : Mutation :=
    .insertDomain (some kind.text) (some name) (some (joinMasters masters)) (some account)
  have hmoves := (Store.direct_carries (Work.does_perform m) hb).moves
  obtain ⟨t', ht', hrun⟩ := hmoves.tables t htables
  have hcreated : (createDomain name kind masters account).run b =
      (((Store.direct (Work.perform m)).run b.store).1.map fun _ => (),
        { b with store := ((Store.direct (Work.perform m)).run b.store).2 }) := by
    simp only [createDomain, perform, Store.perform, Action.run_bind, run_onStore]
    cases ((Store.direct (Work.perform m)).run b.store).1 <;> rfl
  rw [hcreated] at h ⊢
  obtain ⟨rows, hok, -⟩ := map_eq_ok_iff.1 h
  rw [hok, carriedOut_ok] at hrun
  obtain ⟨row, hadded⟩ := Tables.exists_row_of_insertDomain hrun
  exact ⟨t', row, ht', hadded⟩

/-- After every run of operations, each of which is made as one step, each key and metadata value
belongs to an existing domain; so does each record and comment if every one of them was added under
the id of a domain that was committed at that moment. A domain that is created then is found by an
id under which nothing is stored, even if another domain had this id before. -/
theorem no_orphans (connections : Nat) (dnssec : Bool) (hasher : Option Hasher)
    (ops : List AnyOperation) :
    ∃ tables, (operated connections dnssec hasher ops).store.database.tables = some tables ∧
      (∀ k ∈ tables.keys, k.domainId ∈ tables.domainIds) ∧
      (∀ m ∈ tables.metadata, m.domainId ∈ tables.domainIds) ∧
      ((on (.on .empty connections) dnssec hasher).InsertsUnderDomains ops →
        (∀ r ∈ tables.records, ∃ zone, r.domainId = some zone ∧ zone ∈ tables.domainIds) ∧
        ∀ c ∈ tables.comments, c.domainId ∈ tables.domainIds) ∧
      ∀ name kind masters account,
        ((createDomain name kind masters account).run
          (operated connections dnssec hasher ops)).1 = .ok () →
        ∃ created id,
          ((createDomain name kind masters account).run
            (operated connections dnssec hasher ops)).2.store.database.tables = some created ∧
          created.domainId? (some name) = some id ∧
          (∀ k ∈ created.keys, k.domainId ≠ id) ∧ (∀ m ∈ created.metadata, m.domainId ≠ id) ∧
          ((on (.on .empty connections) dnssec hasher).InsertsUnderDomains ops →
            (∀ r ∈ created.records, r.domainId ≠ some id) ∧
            ∀ c ∈ created.comments, c.domainId ≠ id) := by
  obtain ⟨j, hj, hops⟩ := exists_journal_operated connections dnssec hasher ops
  obtain ⟨tables, htables, -⟩ := hj.committed
  have hkeys := hj.keysOwned hops htables
  have hzones (h : (on (.on .empty connections) dnssec hasher).InsertsUnderDomains ops) :
      tables.ZonesOwned := zonesOwned_operated h htables
  refine ⟨tables, htables, hkeys.keys, hkeys.metadata,
    fun h => ⟨(hzones h).records, (hzones h).comments⟩, ?_⟩
  intro name kind masters account hok
  obtain ⟨created, row, hcreated, rfl, hfound, hnew⟩ := exists_created hj.calm htables hok
  -- Whatever is there belongs to a domain that existed before.
  refine ⟨_, row.id, hcreated, hfound, fun k hk heq => hnew (heq ▸ hkeys.keys k hk),
    fun m hm heq => hnew (heq ▸ hkeys.metadata m hm), fun h => ⟨?_, ?_⟩⟩
  · intro r hr heq
    obtain ⟨zone, hzone, hmem⟩ := (hzones h).records r hr
    obtain rfl := Option.some.inj (heq.symm.trans hzone)
    exact hnew hmem
  · intro c hc heq
    exact hnew (heq ▸ (hzones h).comments c hc)

/-- A domain is created, filled and deleted again. -/
def deletedOnce : List AnyOperation :=
  [⟨_, .createDomain "example.org" .native [] ""⟩, ⟨_, .startTransaction 1 0⟩,
   ⟨_, .feedRecord 1 (.plain 1 "example.org" "A" "192.0.2.1" 60) ""⟩, ⟨_, .commitTransaction 1⟩,
   ⟨_, .setDomainMetadata "example.org" "PRESIGNED" ["1"]⟩, ⟨_, .deleteDomain "example.org"⟩]

theorem insertsUnderDomains_deletedOnce :
    (on (.on .empty 8) true none).InsertsUnderDomains deletedOnce := by
  refine ⟨.of_zone? (by decide), .of_zone? (by decide), ?_, .of_zone? (by decide),
    .of_zone? (by decide), .of_zone? (by decide), trivial⟩
  -- The record is added to the domain that was created first.
  intro _ m hm zone hzone
  obtain rfl := List.mem_singleton.1 hm
  cases hzone
  exact ⟨_, rfl, List.mem_singleton_self 1⟩

/-- The next domain has the id of the deleted one, but nothing of it. -/
theorem no_orphans_reused :
    ((createDomain "example.net" .native [] "").run (operated 8 true none deletedOnce)).1 = .ok () ∧
    ∃ created,
      ((createDomain "example.net" .native [] "").run
        (operated 8 true none deletedOnce)).2.store.database.tables = some created ∧
      created.domainId? (some "example.net") = some 1 ∧
      (∀ m ∈ created.metadata, m.domainId ≠ 1) ∧ ∀ r ∈ created.records, r.domainId ≠ some 1 := by
  have hok : ((createDomain "example.net" .native [] "").run
      (operated 8 true none deletedOnce)).1 = .ok () := rfl
  obtain ⟨tables, -, -, -, -, hnew⟩ := no_orphans 8 true none deletedOnce
  obtain ⟨created, id, hcreated, hid, -, hmetadata, hzones⟩ := hnew _ _ _ _ hok
  refine ⟨hok, created, hcreated, ?_⟩
  obtain rfl : id = 1 := by
    have hfirst : ((createDomain "example.net" .native [] "").run
        (operated 8 true none deletedOnce)).2.store.database.tables.bind
          (·.domainId? (some "example.net")) = some 1 := rfl
    rw [hcreated, Option.bind_some, hid] at hfirst
    exact Option.some.inj hfirst
  exact ⟨hid, hmetadata, (hzones insertsUnderDomains_deletedOnce).1⟩

end Backend

end ZoneStore
