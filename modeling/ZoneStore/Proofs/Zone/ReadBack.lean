import Mathlib.Data.List.Forall2
import Mathlib.Data.List.Perm.Basic
import Mathlib.Data.List.SplitBy
import ZoneStore.Proofs.Backend.Reading
import ZoneStore.Proofs.Zone.Updates

/-!
# Records are read back as they were fed

A record that is fed becomes a row under a new id (`Tables.exists_runAll_insertions`), and its row
is listed as the record itself, but for its ordering key, which is put in small letters, and its
authority, which every record has outside the signing mode (`ofListingRow_of_unnumbered`). The
listing of a zone is a permutation of its rows as they are read (`list_of_forall₂`,
`forall₂_of_list`).
-/

set_option autoImplicit false

namespace ZoneStore

/-! ## Rows -/

/-- The row without its id. -/
def RecordRow.unnumbered (row : RecordRow) : RecordRow := { row with id := 0 }

/-- The record as it is listed after it was fed with the given ordering key. -/
def ResourceRecord.fed (dnssec : Bool) (ordername : String) (r : ResourceRecord) : ResourceRecord :=
  { r with auth := !dnssec || r.auth, ordername := orderingKey ordername }

/-- A row is read back as the record that it was made of. -/
theorem ofListingRow_of_unnumbered {row : RecordRow} {r : ResourceRecord} {dnssec : Bool}
    {ordername : String} (h : row.unnumbered = r.toRow dnssec ordername) :
    ResourceRecord.ofListingRow row = .ok (r.fed dnssec ordername) := by
  obtain ⟨id, domainId, name, type, content, ttl, prio, disabled, key, auth⟩ := row
  simp only [RecordRow.unnumbered, ResourceRecord.toRow, RecordRow.mk.injEq, true_and] at h
  obtain ⟨rfl, rfl, rfl, rfl, rfl, rfl, rfl, rfl, rfl⟩ := h
  simp [ResourceRecord.ofListingRow, ResourceRecord.ofRow, readWord_toNat, ResourceRecord.fed,
    Except.map, bind, Except.bind]

namespace Tables

/-- The rows of a zone. -/
def zoneRows (tables : Tables) (zone : Int) : List RecordRow :=
  tables.records.filter fun r => r.isIn (some zone)

/-- Insertions append the given rows in their order, each under a new id. -/
theorem exists_runAll_insertions (tables : Tables) (rows : List RecordRow) :
    ∃ added, tables.runAll (rows.map .insertRecord) =
        .ok { tables with records := tables.records ++ added } ∧
      List.Forall₂ (fun row given => row.unnumbered = given.unnumbered) added rows := by
  induction rows generalizing tables with
  | nil => exact ⟨[], by simp, .nil⟩
  | cons row rest ih =>
    -- The ids of the later rows depend on the first insertion, hence the tables after it.
    obtain ⟨added, hrun, hadded⟩ := ih (tables.insertRecord row).tables
    refine ⟨{ row with id := nextId RecordRow.id tables.records } :: added, ?_, .cons rfl hadded⟩
    rw [List.map_cons, runAll_cons]
    refine hrun.trans ?_
    simp [insertRecord, Change.insertion]

/-- Insertions of empty non-terminals are insertions of their rows. -/
theorem runAll_insertEmptyNonTerminals {α : Type} (tables : Tables) (zone : Option Int)
    (name key : α → Option String) (auth : α → Option Int) (given : List α) :
    tables.runAll
        (given.map fun a => .insertEmptyNonTerminal zone (name a) (key a) (auth a)) =
      tables.runAll
        ((given.map fun a => .emptyNonTerminal zone (name a) (key a) (auth a)).map
          .insertRecord) := by
  induction given generalizing tables with
  | nil => rfl
  | cons a rest ih => exact ih _

end Tables

/-! ## Listings -/

theorem ResourceRecord.sortSets_perm (records : List ResourceRecord) :
    (sortSets records).Perm records := by
  have hsort : (sortSets records).Perm ((records.splitBy sameSet).flatMap id) :=
    List.Perm.flatMap_left _ fun set _ => List.mergeSort_perm set _
  rwa [List.flatMap_id, List.flatten_splitBy] at hsort

namespace Backend

variable {b : Backend} {tables : Tables}

theorem run_fetch_fst {ρ : Type} (hb : b.store.Calm) (hfree : b.HasFree)
    (htables : b.store.database.tables = some tables) (q : Query ρ) :
    ∃ b', (fetch q).run b = ((q.rows tables).mapError .database, b') := by
  obtain ⟨s, hrun, -⟩ := hb.fetch hfree q
  rw [htables] at hrun
  exact ⟨{ b with store := s }, by simp only [fetch, run_onStore, hrun, Query.answer_full]⟩

/-- What comes after a query goes on with the rows of the committed tables. -/
theorem run_fetch_bind_fst {ρ α : Type} (hb : b.store.Calm) (hfree : b.HasFree)
    (htables : b.store.database.tables = some tables) (q : Query ρ) (f : List ρ → BackendM α) :
    ∃ b', ((fetch q >>= f).run b).1 = match q.rows tables with
      | .ok rows => ((f rows).run b').1
      | .error fault => .error (.database fault) := by
  obtain ⟨b', hrun⟩ := run_fetch_fst hb hfree htables q
  refine ⟨b', ?_⟩
  rw [Action.run_bind, hrun]
  cases q.rows tables <;> rfl

/-- The rows of a query are read one after another; the first that cannot be read is reported. -/
theorem run_readRows_fst {ρ σ α : Type} (hb : b.store.Calm) (hfree : b.HasFree)
    (htables : b.store.database.tables = some tables) (q : Query ρ)
    (read : ρ → Except DatabaseFault σ) (arrange : List σ → α) :
    ((do return arrange (← readRows read (← fetch q)) : BackendM α).run b).1 =
      ((q.rows tables >>= fun rows => rows.mapM read).mapError .database).map arrange := by
  obtain ⟨b', hrun⟩ := run_fetch_bind_fst hb hfree htables q fun rows => do
    return arrange (← readRows read rows)
  refine hrun.trans ?_
  cases q.rows tables with
  | error fault => rfl
  | ok rows =>
    show ((do return arrange (← Action.ofDatabase (rows.mapM read)) : BackendM α).run b').1 =
      ((rows.mapM read).mapError .database).map arrange
    cases rows.mapM read <;> rfl

/-- The listing of a zone with its disabled records. -/
theorem run_list_fst (hb : b.store.Calm) (hfree : b.HasFree)
    (htables : b.store.database.tables = some tables) (name : String) (zone : Int) :
    ((list name (some zone) true).run b).1 =
      (((RecordRow.sortByName (tables.zoneRows zone)).mapM ResourceRecord.ofListingRow).mapError
        .database).map ResourceRecord.sortSets := by
  have hrows : (Query.zoneListing (some zone) (some (storedBool true))).rows tables =
      .ok (RecordRow.sortByName (tables.zoneRows zone)) := by
    simp [Query.zoneListing, Query.selecting, Tables.zoneRows]
  have hread := run_readRows_fst hb hfree htables (.zoneListing (some zone) (some (storedBool true)))
    ResourceRecord.ofListingRow ResourceRecord.sortSets
  rw [hrows] at hread
  exact hread

/-- If each row of a zone is read as a record, the zone is listed as these records in some
order. -/
theorem list_of_forall₂ (hb : b.store.Calm) (hfree : b.HasFree)
    (htables : b.store.database.tables = some tables) (name : String) {zone : Int}
    {records : List ResourceRecord}
    (hrecords : List.Forall₂ (fun row r => ResourceRecord.ofListingRow row = .ok r)
      (tables.zoneRows zone) records) :
    ∃ listed, ((list name (some zone) true).run b).1 = .ok listed ∧ listed.Perm records := by
  have hsort : (RecordRow.sortByName (tables.zoneRows zone)).Perm (tables.zoneRows zone) :=
    List.mergeSort_perm _ _
  -- Sorting the rows permutes the records that they are read as.
  obtain ⟨sorted, hsorted, hperm⟩ := List.perm_comp_forall₂ hsort hrecords
  refine ⟨ResourceRecord.sortSets sorted, ?_, (ResourceRecord.sortSets_perm sorted).trans hperm⟩
  rw [run_list_fst hb hfree htables, mapM_eq_ok_iff.2 hsorted]
  rfl

/-- If a zone is listed, each of its rows is read as a record, and the listing holds these records
in some order. -/
theorem forall₂_of_list (hb : b.store.Calm) (htables : b.store.database.tables = some tables)
    {name : String} {zone : Int} {listed : List ResourceRecord}
    (hlisted : ((list name (some zone) true).run b).1 = .ok listed) :
    ∃ records, List.Forall₂ (fun row r => ResourceRecord.ofListingRow row = .ok r)
      (tables.zoneRows zone) records ∧ listed.Perm records := by
  have hfree : b.HasFree := by
    -- Without a free connection there would be no listing.
    by_contra hnone
    simp [list, run_fetch_of_none hnone] at hlisted
  rw [run_list_fst hb hfree htables] at hlisted
  cases hread : (RecordRow.sortByName (tables.zoneRows zone)).mapM ResourceRecord.ofListingRow with
  | error fault =>
    rw [hread] at hlisted
    cases hlisted
  | ok sorted =>
    rw [hread] at hlisted
    obtain rfl := Except.ok.inj hlisted
    have hsort : (tables.zoneRows zone).Perm (RecordRow.sortByName (tables.zoneRows zone)) :=
      (List.mergeSort_perm _ _).symm
    obtain ⟨records, hrecords, hperm⟩ := List.perm_comp_forall₂ hsort (mapM_eq_ok_iff.1 hread)
    exact ⟨records, hrecords, (ResourceRecord.sortSets_perm sorted).trans hperm.symm⟩

end Backend

end ZoneStore
