import ZoneStore.Proofs.Backend.Views
import ZoneStore.Proofs.Zone.ReadBack

/-!
# Replacing a zone

A zone is replaced in a transaction that deletes its records at the start and is then fed the new
ones. While it is being filled the transaction follows the log of the deletion and the insertions,
and nothing of it shows (`Filling`). Where no transaction is the writer, every step succeeds; after
the commit the zone is listed as exactly the records that were fed and everything else is as before;
after an abort everything is (`zone_replacement`). Without a positive zone id nothing is deleted,
and the records fed are added.
-/

set_option autoImplicit false

namespace ZoneStore

namespace Backend

/-! ## Sequences of operations -/

/-- The backend after operations, one after another. -/
def afterAll (b : Backend) (ops : List (Operation Unit)) : Backend := b.after (ops.map .operation)

/-- Every operation succeeds on the backend that those before it lead to. -/
def AllSucceed (b : Backend) : List (Operation Unit) → Prop
  | [] => True
  | op :: rest => (op.run.run b).1 = .ok () ∧ AllSucceed (op.run.run b).2 rest

theorem afterAll_append (b : Backend) (ops more : List (Operation Unit)) :
    b.afterAll (ops ++ more) = (b.afterAll ops).afterAll more := by
  rw [afterAll, List.map_append, after_append]
  rfl

theorem AllSucceed.append {b : Backend} {ops more : List (Operation Unit)} (h : b.AllSucceed ops)
    (h' : (b.afterAll ops).AllSucceed more) : b.AllSucceed (ops ++ more) := by
  induction ops generalizing b with
  | nil => exact h'
  | cons op rest ih => exact ⟨h.1, ih h.2 h'⟩

/-- The operations that start a transaction and feed records, each with its ordering key. -/
def filling (id zone : Int) (pairs : List (ResourceRecord × String)) : List (Operation Unit) :=
  .startTransaction id zone :: pairs.map fun p => .feedRecord id p.1 p.2

/-- The mutations that feed the records. -/
def insertions (dnssec : Bool) (pairs : List (ResourceRecord × String)) : List Mutation :=
  pairs.map fun p => p.1.insertion dnssec p.2

/-! ## While the transaction is being filled -/

/-- The number is not in use, a connection is free and no transaction is the writer, on the given
committed tables. -/
structure Ready (b : Backend) (id : Int) (tables : Tables) : Prop where
  calm : b.store.Calm
  free : b.HasFree
  tables : b.store.database.tables = some tables
  unlocked : b.store.database.locked = false
  unused : b.registry.contains id = false

/-- A numbered transaction is being filled: it has a log and can write, the committed tables are
those of the backend before it was started, and of the connections that were free then it has one.
-/
structure Filling (before b : Backend) (id : Int) (log : List Mutation) : Prop where
  calm : b.store.Calm
  dnssec : b.dnssec = before.dnssec
  hasher : b.hasher = before.hasher
  free : b.store.pool.free + 1 = before.store.pool.free
  tables : b.store.database.tables = before.store.database.tables
  active : ∃ c, b.registry.connection? id = some c ∧ c.Follows b.store.database log ∧
    c.CanWrite b.store.database

variable {b before : Backend} {id zone : Int} {log : List Mutation} {tables : Tables}
  {pairs : List (ResourceRecord × String)}

theorem Reachable.ready (h : b.Reachable) (hunused : b.inProgress id = false) (hfree : b.HasFree)
    (hquiet : ∀ h c, b.transaction? h = some c → c.isWriter = false) :
    ∃ tables, b.Ready id tables := by
  obtain ⟨j, hj⟩ := h.matches
  obtain ⟨tables, htables, -⟩ := hj.committed
  exact ⟨tables, hj.calm, hfree, htables, h.unlocked hquiet, hunused⟩

/-- Where no transaction is the writer and a connection is free, a transaction can be opened for any
zone. -/
theorem exists_opener {s : Store} (hs : s.Calm) (hfree : s.HasFree)
    (htables : s.database.tables = some tables) (hlocked : s.database.locked = false) (zone : Int) :
    ∃ c t, (opener zone).run s = (.ok c, t) ∧ c.CanWrite t.database := by
  obtain ⟨c, t, hbegin, hmode, ht, hdb, -⟩ := hs.begin hfree
  have hcan : c.CanWrite t.database :=
    Connection.canWrite_of_begun hmode (hdb ▸ htables) (hdb ▸ hlocked)
  simp only [opener, Action.run_bind, hbegin]
  by_cases hzone : 0 < zone
  · have hlog := Connection.follows_of_begun hmode t.database
    have hm : (Mutation.deleteZone (some zone)).NeverRefused := fun _ => ⟨_, rfl⟩
    obtain ⟨rows, hrows⟩ := Connection.exists_mutate_ok hcan hm
    have hok : ((Work.perform (.deleteZone (some zone))).run ⟨c, t⟩).1 = .ok rows := by
      rw [Work.run_perform_fst ht.repertoire, hrows]
      rfl
    rw [if_pos hzone, Action.run_bind, Store.run_within_of_ok hok]
    -- The deletion has made the transaction the writer, even if the zone had no record.
    refine ⟨_, _, rfl, Connection.canWrite_of_isWriter ?_ _⟩
    rw [Work.connection_run_perform ht.repertoire]
    exact hlog.isWriter_of_mutate hrows
  · rw [if_neg hzone]
    exact ⟨c, t, rfl, hcan⟩

/-- Under a number that is not in use a transaction is started, if there is no writer. -/
theorem Ready.start (h : b.Ready id tables) (zone : Int) :
    ((startTransaction id zone).run b).1 = .ok () ∧
      Filling b ((startTransaction id zone).run b).2 id (openingLog zone) := by
  obtain ⟨c, t, hrun, hcan⟩ := exists_opener h.calm h.free h.tables h.unlocked zone
  have hopener := run_opener h.calm zone
  rw [hrun] at hopener
  rw [startTransaction, run_startWith_of_free h.unused, hrun]
  refine ⟨rfl, hopener.calm, rfl, rfl, hopener.free, hopener.grants.tables, c, ?_, hopener.follows,
    hcan⟩
  exact (b.registry.connection?_enter id id c).trans (if_pos rfl)

namespace Filling

theorem logging (h : Filling before b id log) : b.Logging id log := ⟨h.calm, h.active⟩

/-- Feeding a record succeeds and makes the log longer. -/
theorem feed (h : Filling before b id log) (r : ResourceRecord) (ordername : String) :
    ((feedRecord id r ordername).run b).1 = .ok () ∧
      Filling before ((feedRecord id r ordername).run b).2 id
        (log ++ [r.insertion before.dnssec ordername]) := by
  have hrun : (feedRecord id r ordername).run b =
      (update id [r.insertion before.dnssec ordername]).run b := by
    rw [← h.dnssec]
    rfl
  have hms : ∀ m ∈ [r.insertion before.dnssec ordername], m.NeverRefused := fun m hm =>
    List.mem_singleton.1 hm ▸ neverRefused_insertion before.dnssec ordername r
  obtain ⟨hok, hlogging, htables, hfree⟩ := h.logging.update hms
  obtain ⟨hdnssec, hhasher⟩ := run_inTransaction_mode id (Work.performAll _) b
  rw [hrun]
  exact ⟨hok, hlogging.calm, hdnssec.trans h.dnssec, hhasher.trans h.hasher, hfree ▸ h.free,
    htables.trans h.tables, hlogging.active⟩

/-- So does feeding any number of them. -/
theorem feeds (h : Filling before b id log) (pairs : List (ResourceRecord × String)) :
    b.AllSucceed (pairs.map fun p => .feedRecord id p.1 p.2) ∧
      Filling before (b.afterAll (pairs.map fun p => .feedRecord id p.1 p.2)) id
        (log ++ insertions before.dnssec pairs) := by
  induction pairs generalizing b log with
  | nil =>
    refine ⟨trivial, ?_⟩
    simpa [insertions, afterAll] using h
  | cons p rest ih =>
    -- The log grows at its end, so the rest is fed to a longer one.
    obtain ⟨hok, hnext⟩ := h.feed p.1 p.2
    obtain ⟨hsucceed, hlast⟩ := ih hnext
    refine ⟨⟨hok, hsucceed⟩, ?_⟩
    rw [List.append_assoc] at hlast
    exact hlast

/-- Ending the transaction succeeds, and lets its log take effect or discards it. -/
theorem finish (h : Filling before b id log) (hbefore : before.Ready id tables)
    (ending : Ending) :
    ((endTransaction id ending).run b).1 = .ok () ∧
      ((endTransaction id ending).run b).2.store.Calm ∧
      ((endTransaction id ending).run b).2.HasFree ∧
      ∃ last, ((endTransaction id ending).run b).2.store.database.tables = some last ∧
        tables.runAll (ending.keeps log) = .ok last := by
  obtain ⟨hok, hcalm, hmore, hlast⟩ := h.logging.finish (h.tables.trans hbefore.tables) ending
  exact ⟨hok, hcalm, Nat.lt_of_lt_of_eq (Nat.succ_pos _) hmore.symm, hlast⟩

/-- Meanwhile every reading operation answers as before, unless the transaction has the connection
that it would need. -/
theorem read (h : Filling before b id log) (hbefore : before.Ready id tables) {α : Type}
    (op : Operation α) (hop : op.isRead = true) :
    (op.run.run b).1 = (op.run.run before).1 ∨
      before.store.pool.free = 1 ∧ (op.run.run b).1 = .error (.database .noConnection) := by
  obtain ⟨hanswer, -⟩ := op.onlyReads hop b tables h.calm (h.tables.trans hbefore.tables)
  have hanswer' := (op.onlyReads hop).answer hbefore.calm hbefore.tables hbefore.free
  rw [h.dnssec, h.hasher] at hanswer
  rcases hanswer with hanswer | ⟨hnone, hfails⟩
  · exact Or.inl (hanswer.trans hanswer'.symm)
  · have hless := h.free
    have hzero : b.store.pool.free = 0 := Nat.eq_zero_of_not_pos hnone
    exact Or.inr ⟨by omega, hfails⟩

end Filling

/-- The start and the feeding of records as a whole. -/
theorem Ready.filled (h : b.Ready id tables) (zone : Int)
    (pairs : List (ResourceRecord × String)) :
    b.AllSucceed (filling id zone pairs) ∧
      Filling b (b.afterAll (filling id zone pairs)) id
        (openingLog zone ++ insertions b.dnssec pairs) := by
  obtain ⟨hok, hstart⟩ := h.start zone
  obtain ⟨hsucceed, hfeeds⟩ := hstart.feeds pairs
  exact ⟨⟨hok, hsucceed⟩, hfeeds⟩

/-! ## What the transaction amounts to -/

/-- The records that a start for a zone leaves: all of them, or those of the other zones. -/
def keptRecords (zone : Int) (records : List RecordRow) : List RecordRow :=
  if 0 < zone then without (fun r => r.isIn (some zone)) records else records

theorem runAll_openingLog (tables : Tables) (zone : Int) :
    tables.runAll (openingLog zone) =
      .ok { tables with records := keptRecords zone tables.records } := by
  unfold openingLog keptRecords
  split
  · rfl
  · rfl

/-- The deletion and the insertions together. -/
theorem exists_runAll_filling (tables : Tables) (dnssec : Bool) (zone : Int)
    (pairs : List (ResourceRecord × String)) :
    ∃ added, tables.runAll (openingLog zone ++ insertions dnssec pairs) =
        .ok { tables with records := keptRecords zone tables.records ++ added } ∧
      List.Forall₂ (fun row p => row.unnumbered = p.1.toRow dnssec p.2) added pairs := by
  obtain ⟨added, hrun, hadded⟩ := Tables.exists_runAll_insertions
    { tables with records := keptRecords zone tables.records }
    (pairs.map fun p => p.1.toRow dnssec p.2)
  rw [List.map_map] at hrun
  rw [List.forall₂_map_right_iff] at hadded
  exact ⟨added, Tables.runAll_append_of_ok (runAll_openingLog tables zone) hrun, hadded⟩

/-- Rows that were fed are read as the records. -/
theorem forall₂_fed {dnssec : Bool} {added : List RecordRow}
    {pairs : List (ResourceRecord × String)}
    (h : List.Forall₂ (fun row p => row.unnumbered = p.1.toRow dnssec p.2) added pairs) :
    List.Forall₂ (fun row r => ResourceRecord.ofListingRow row = .ok r) added
      (pairs.map fun p => p.1.fed dnssec p.2) := by
  rw [List.forall₂_map_right_iff]
  exact h.imp fun row p hrow => ofListingRow_of_unnumbered hrow

/-- Rows that were fed belong to the zone of their records. -/
theorem filter_isIn_fed {dnssec : Bool} {zone : Int} {added : List RecordRow}
    {pairs : List (ResourceRecord × String)}
    (h : List.Forall₂ (fun row p => row.unnumbered = p.1.toRow dnssec p.2) added pairs)
    (hzone : ∀ p ∈ pairs, p.1.domainId = zone) :
    (added.filter fun r => r.isIn (some zone)) = added := by
  induction h with
  | nil => rfl
  | @cons row p added pairs hrow _ ih =>
    have hdomain : row.domainId = some p.1.domainId := congrArg RecordRow.domainId hrow
    have hin : row.isIn (some zone) = true := by
      rw [RecordRow.isIn, holds_some_iff, hdomain, hzone p List.mem_cons_self]
    rw [List.filter_cons, if_pos hin, ih fun p hp => hzone p (List.mem_cons_of_mem _ hp)]

theorem filter_not_isIn_fed {dnssec : Bool} {zone : Int} {added : List RecordRow}
    {pairs : List (ResourceRecord × String)}
    (h : List.Forall₂ (fun row p => row.unnumbered = p.1.toRow dnssec p.2) added pairs)
    (hzone : ∀ p ∈ pairs, p.1.domainId = zone) :
    (added.filter fun r => !r.isIn (some zone)) = [] := by
  have hin := List.filter_eq_self.1 (filter_isIn_fed h hzone)
  rw [List.filter_eq_nil_iff]
  intro r hr
  simp [hin r hr]

/-- A list without the rows of a zone has none of them. -/
theorem filter_isIn_without (zone : Int) (records : List RecordRow) :
    ((without (fun r => r.isIn (some zone)) records).filter fun r => r.isIn (some zone)) = [] := by
  rw [without, List.filter_filter, List.filter_eq_nil_iff]
  intro r _
  simp

/-- A list without the rows of a zone has all the others. -/
theorem filter_not_isIn_without (zone : Int) (records : List RecordRow) :
    ((without (fun r => r.isIn (some zone)) records).filter fun r => !r.isIn (some zone)) =
      records.filter fun r => !r.isIn (some zone) := by
  rw [without, List.filter_filter]
  simp

/-! ## The theorem -/

/-- Starting a transaction for a zone, feeding records to it, and ending it. -/
def replacement (id zone : Int) (pairs : List (ResourceRecord × String)) :
    Ending → List (Operation Unit)
  | .commit => filling id zone pairs ++ [.commitTransaction id]
  | .rollback => filling id zone pairs ++ [.abortTransaction id]

/-- With either ending every operation succeeds; a commit leaves what the log leads to, and an abort
the tables of before. -/
theorem Ready.ended (h : b.Ready id tables) (zone : Int)
    (pairs : List (ResourceRecord × String)) (ending : Ending) :
    b.AllSucceed (replacement id zone pairs ending) ∧
      (b.afterAll (replacement id zone pairs ending)).store.Calm ∧
      (b.afterAll (replacement id zone pairs ending)).HasFree ∧
      ∃ last, (b.afterAll (replacement id zone pairs ending)).store.database.tables = some last ∧
        tables.runAll (ending.keeps (openingLog zone ++ insertions b.dnssec pairs)) = .ok last := by
  obtain ⟨hsucceed, hfilling⟩ := h.filled zone pairs
  obtain ⟨hok, hfinish⟩ := hfilling.finish h ending
  cases ending with
  | commit =>
    refine ⟨hsucceed.append ⟨hok, trivial⟩, ?_⟩
    rw [replacement, afterAll_append]
    exact hfinish
  | rollback =>
    refine ⟨hsucceed.append ⟨hok, trivial⟩, ?_⟩
    rw [replacement, afterAll_append]
    exact hfinish

/-- While the transaction is open every reading operation answers as before its start, unless there
was no connection but the one of the transaction. -/
theorem Ready.read (h : b.Ready id tables) (zone : Int) (pairs : List (ResourceRecord × String))
    (n : Nat) {α : Type} (op : Operation α) (hop : op.isRead = true) :
    (op.run.run (b.afterAll ((filling id zone pairs).take n))).1 = (op.run.run b).1 ∨
      b.store.pool.free = 1 ∧
        (op.run.run (b.afterAll ((filling id zone pairs).take n))).1 =
          .error (.database .noConnection) := by
  cases n with
  | zero => exact Or.inl rfl
  | succ n =>
    -- A prefix of the sequence fills a transaction too, with fewer records.
    have htake : (filling id zone pairs).take (n + 1) = filling id zone (pairs.take n) := by
      rw [filling, List.take_succ_cons, ← List.map_take]
      rfl
    rw [htake]
    exact (h.filled zone (pairs.take n)).2.read h op hop

/-- With a positive zone id the zone is listed as the records that were fed, and only its rows
change. -/
theorem Ready.replaces (h : b.Ready id tables) (hpos : 0 < zone) (name : String)
    (hzone : ∀ p ∈ pairs, p.1.domainId = zone) :
    b.AllSucceed (replacement id zone pairs .commit) ∧ ∃ after listed,
      (b.afterAll (replacement id zone pairs .commit)).store.database.tables = some after ∧
      ((list name (some zone) true).run
        (b.afterAll (replacement id zone pairs .commit))).1 = .ok listed ∧
      listed.Perm (pairs.map fun p => p.1.fed b.dnssec p.2) ∧
      (after.records.filter fun r => !r.isIn (some zone)) =
        (tables.records.filter fun r => !r.isIn (some zone)) ∧
      { after with records := tables.records } = tables := by
  obtain ⟨hsucceed, hcalm, hfree, after, hafter, hrun⟩ := h.ended zone pairs .commit
  obtain ⟨added, hlog, hadded⟩ := exists_runAll_filling tables b.dnssec zone pairs
  obtain rfl := Except.ok.inj (hrun.symm.trans hlog)
  rw [keptRecords, if_pos hpos] at hafter
  -- Of the zone itself only the rows that were fed are left.
  have hrows : Tables.zoneRows
      { tables with
        records := without (fun r => r.isIn (some zone)) tables.records ++ added } zone =
        added := by
    rw [Tables.zoneRows, List.filter_append, filter_isIn_without, filter_isIn_fed hadded hzone,
      List.nil_append]
  obtain ⟨listed, hlisted, hperm⟩ :=
    list_of_forall₂ hcalm hfree hafter name (hrows.symm ▸ forall₂_fed hadded)
  refine ⟨hsucceed, _, listed, hafter, hlisted, hperm, ?_, rfl⟩
  rw [List.filter_append, filter_not_isIn_without, filter_not_isIn_fed hadded hzone,
    List.append_nil]

/-- Without a positive zone id the records that were fed are added at the end of the records. -/
theorem Ready.adds (h : b.Ready id tables) {start : Int} (hstart : start ≤ 0) (name : String)
    (hzone : ∀ p ∈ pairs, p.1.domainId = zone) :
    b.AllSucceed (replacement id start pairs .commit) ∧ ∃ after added,
      (b.afterAll (replacement id start pairs .commit)).store.database.tables = some after ∧
      after = { tables with records := tables.records ++ added } ∧
      List.Forall₂ (fun row p => row.unnumbered = p.1.toRow b.dnssec p.2) added pairs ∧
      ∀ old, ((list name (some zone) true).run b).1 = .ok old →
        ∃ listed, ((list name (some zone) true).run
            (b.afterAll (replacement id start pairs .commit))).1 = .ok listed ∧
          listed.Perm (old ++ pairs.map fun p => p.1.fed b.dnssec p.2) := by
  obtain ⟨hsucceed, hcalm, hfree, after, hafter, hrun⟩ := h.ended start pairs .commit
  obtain ⟨added, hlog, hadded⟩ := exists_runAll_filling tables b.dnssec start pairs
  obtain rfl := Except.ok.inj (hrun.symm.trans hlog)
  rw [keptRecords, if_neg (Int.not_lt.2 hstart)] at hafter
  refine ⟨hsucceed, _, added, hafter, rfl, hadded, ?_⟩
  intro old hold
  -- The zone could be listed before, so each of its old rows can be read.
  obtain ⟨records, hrecords, hperm⟩ := forall₂_of_list h.calm h.tables hold
  have hrows : Tables.zoneRows { tables with records := tables.records ++ added } zone =
      tables.zoneRows zone ++ added := by
    rw [Tables.zoneRows, List.filter_append, filter_isIn_fed hadded hzone, Tables.zoneRows]
  have hread := List.rel_append hrecords (forall₂_fed hadded)
  obtain ⟨listed, hlisted, hperm'⟩ := list_of_forall₂ hcalm hfree hafter name (by rwa [hrows])
  exact ⟨listed, hlisted, hperm'.trans (hperm.symm.append_right _)⟩

/-- An abort leaves every table as it was. -/
theorem Ready.undone (h : b.Ready id tables) (start : Int)
    (pairs : List (ResourceRecord × String)) :
    b.AllSucceed (replacement id start pairs .rollback) ∧
      (b.afterAll (replacement id start pairs .rollback)).store.database.tables = some tables := by
  obtain ⟨hsucceed, -, -, after, hafter, hrun⟩ := h.ended start pairs .rollback
  obtain rfl : tables = after := Except.ok.inj hrun
  exact ⟨hsucceed, hafter⟩

/-- Replacing a zone, in every state that a run can reach in which the number is not in use, no
transaction is the writer and a connection is free. With a positive zone id the zone is listed,
after the commit, as exactly the records that were fed, and the rows of all other zones and all
other tables are as before. Without one nothing is deleted, and the records fed are added to those
of their zone. Until the commit every reading operation answers as before the start, unless only one
connection was free and it now fails for the lack of another one; and an abort leaves every table as
it was. -/
theorem zone_replacement (b : Backend) (hreachable : b.Reachable) (id : Int)
    (hunused : b.inProgress id = false) (hfree : b.HasFree)
    (hquiet : ∀ h c, b.transaction? h = some c → c.isWriter = false) (zone : Int) (name : String)
    (pairs : List (ResourceRecord × String)) (hzone : ∀ p ∈ pairs, p.1.domainId = zone) :
    ∃ before, b.store.database.tables = some before ∧
      (0 < zone →
        b.AllSucceed (replacement id zone pairs .commit) ∧
        ∃ after listed,
          (b.afterAll (replacement id zone pairs .commit)).store.database.tables = some after ∧
          ((list name (some zone) true).run (b.afterAll (replacement id zone pairs .commit))).1 =
            .ok listed ∧
          listed.Perm (pairs.map fun p => p.1.fed b.dnssec p.2) ∧
          (after.records.filter fun r => !r.isIn (some zone)) =
            (before.records.filter fun r => !r.isIn (some zone)) ∧
          { after with records := before.records } = before) ∧
      (∀ start ≤ 0,
        b.AllSucceed (replacement id start pairs .commit) ∧
        ∃ after added,
          (b.afterAll (replacement id start pairs .commit)).store.database.tables = some after ∧
          after = { before with records := before.records ++ added } ∧
          List.Forall₂ (fun row p => row.unnumbered = p.1.toRow b.dnssec p.2) added pairs ∧
          ∀ old, ((list name (some zone) true).run b).1 = .ok old →
            ∃ listed, ((list name (some zone) true).run
                (b.afterAll (replacement id start pairs .commit))).1 = .ok listed ∧
              listed.Perm (old ++ pairs.map fun p => p.1.fed b.dnssec p.2)) ∧
      ∀ start,
        (∀ (n : Nat) (α : Type) (op : Operation α), op.isRead = true →
          (op.run.run (b.afterAll ((filling id start pairs).take n))).1 = (op.run.run b).1 ∨
            b.store.pool.free = 1 ∧
              (op.run.run (b.afterAll ((filling id start pairs).take n))).1 =
                .error (.database .noConnection)) ∧
        b.AllSucceed (replacement id start pairs .rollback) ∧
        (b.afterAll (replacement id start pairs .rollback)).store.database.tables =
          some before := by
  obtain ⟨before, hready⟩ := hreachable.ready hunused hfree hquiet
  refine ⟨before, hready.tables, ?_, ?_, ?_⟩
  · intro hpos
    exact hready.replaces hpos name hzone
  · intro start hstart
    exact hready.adds hstart name hzone
  · intro start
    constructor
    · intro n α op hop
      exact hready.read start pairs n op hop
    · exact hready.undone start pairs

/-- A backend on which a zone was filled with one record. -/
def filledOnce : Backend :=
  (on (.on .empty 8) true none).after
    [.operation (.startTransaction 7 1),
     .operation (.feedRecord 7 (.plain 1 "example.org" "NS" "ns1.example.org" 3600) ""),
     .operation (.commitTransaction 7)]

/-- The record is replaced by two others, one of them with an ordering key. -/
theorem zone_replacement_filledOnce :
    ∃ listed,
      ((list "example.org" (some 1) true).run (filledOnce.afterAll (replacement 7 1
        [(.plain 1 "example.org" "NS" "ns2.example.org" 3600, ""),
         (.plain 1 "www.example.org" "A" "192.0.2.1" 60, "WWW")] .commit))).1 = .ok listed ∧
      listed.Perm
        [.plain 1 "example.org" "NS" "ns2.example.org" 3600,
         { ResourceRecord.plain 1 "www.example.org" "A" "192.0.2.1" 60 with
            ordername := some "www" }] := by
  have hregistry : filledOnce.registry.entries = [] := rfl
  have hheld : filledOnce.held.entries = [] := rfl
  obtain ⟨before, -, hreplaced, -⟩ := zone_replacement filledOnce ⟨8, true, none, _, rfl⟩ 7 rfl
    (by decide)
    (by
      intro h c hc
      cases h with
      | numbered id => simp [transaction?, Registry.connection?, Registry.find?, hregistry] at hc
      | named name => simp [transaction?, Registry.find?, hheld] at hc)
    1 "example.org"
    [(.plain 1 "example.org" "NS" "ns2.example.org" 3600, ""),
     (.plain 1 "www.example.org" "A" "192.0.2.1" 60, "WWW")] (by simp [ResourceRecord.plain])
  obtain ⟨-, after, listed, -, hlisted, hperm, -⟩ := hreplaced (by decide)
  exact ⟨listed, hlisted, hperm⟩

end Backend

end ZoneStore
