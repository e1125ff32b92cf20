import ZoneStore.Proofs.Backend.RoundTrip

/-!
# The reads of records agree

Four statements look records up, a fifth one lists a zone, and there are two ways to read a row.
After every run of operations all of them are restrictions of one list, the records that the rows of
the table stand for (`RecordRow.record`): each condition on the columns of a row is one on the
fields of its record, since no operation stores a record without zone, name or flag
(`RecordRow.Written.stands`). So what one read gives can be told from what another one gives
(`Backend.record_reads`).
-/

set_option autoImplicit false

namespace ZoneStore

open Backend

/-! ## Records of rows -/

/-- The record without its ordering key, as look-ups give it. -/
def ResourceRecord.keyless (r : ResourceRecord) : ResourceRecord := { r with ordername := none }

namespace RecordRow

/-- The record that a row stands for, with blank fields in place of absent columns. -/
def record (row : RecordRow) : ResourceRecord where
  domainId := row.domainId.getD 0
  qname := row.name.getD ""
  qtype := row.type.getD ""
  content := row.content.getD ""
  ttl := UInt32.ofNat (row.ttl.getD 0).toNat
  priority := row.prio.getD 0
  disabled := isTrue row.disabled
  auth := isTrue (row.auth.or (some 1))
  ordername := row.ordername

/-- The row can be read, and what is asked of its columns can be asked of its record. -/
structure Stands (row : RecordRow) : Prop where
  ofRow : ResourceRecord.ofRow row = .ok row.record.keyless
  ofListingRow : ResourceRecord.ofListingRow row = .ok row.record
  isIn : ∀ zone, row.isIn (some zone) = true ↔ row.record.domainId = zone
  isNamed : ∀ name, row.isNamed (some name) = true ↔ row.record.qname = name
  isOfType : ∀ type, type ≠ "" → (holds row.type (some type) = true ↔ row.record.qtype = type)
  isEnabled : row.isEnabled = true ↔ row.record.disabled = false

theorem Written.stands {w : Writings} {row : RecordRow} (h : row.Written w) : row.Stands := by
  cases h with
  | @record r =>
    have hread : readWord 1 r.ttl.toNat = .ok (UInt32.ofNat r.ttl.toNat) := by
      rw [readWord_toNat, UInt32.ofNat_toNat]
    refine ⟨?_, ?_, fun _ => beq_iff_eq, fun _ => beq_iff_eq, fun _ _ => beq_iff_eq, ?_⟩
    · simp [ResourceRecord.ofRow, ResourceRecord.toRow, hread, RecordRow.record,
        ResourceRecord.keyless, bind, Except.bind]
    · simp [ResourceRecord.ofListingRow, ResourceRecord.ofRow, ResourceRecord.toRow, hread,
        RecordRow.record, bind, Except.bind, Except.map]
    · cases hdisabled : r.disabled <;>
        simp [RecordRow.isEnabled, RecordRow.record, ResourceRecord.toRow, hdisabled, storedBool,
          isTrue]
  | emptyNonTerminal =>
    refine ⟨rfl, rfl, fun _ => beq_iff_eq, fun _ => beq_iff_eq, fun type htype => ?_,
      iff_of_true rfl rfl⟩
    exact iff_of_false Bool.false_ne_true htype.symm

/-- Whether a look-up finds the row. -/
def isFound (qtype qname : String) (zone : Option Int) (row : RecordRow) : Bool :=
  row.isEnabled && (typeScope qtype).admits row.type && row.isNamed (some qname) &&
    zone.all fun z => row.isIn (some z)

/-- Whether the listing of a zone has the row. -/
def isListed (zone : Int) (includeDisabled : Bool) (row : RecordRow) : Bool :=
  (row.isEnabled || includeDisabled) && row.isIn (some zone)

end RecordRow

namespace Tables

variable (tables : Tables)

/-- The records that a look-up finds. -/
def found (qtype qname : String) (zone : Option Int) : List ResourceRecord :=
  (tables.records.filter (RecordRow.isFound qtype qname zone)).map fun row => row.record.keyless

/-- The records that a listing has. -/
def listed (zone : Int) (includeDisabled : Bool) : List ResourceRecord :=
  (tables.records.filter (RecordRow.isListed zone includeDisabled)).map RecordRow.record

end Tables

/-! ## What the reads give -/

theorem ResourceRecord.sort_perm (records : List ResourceRecord) : (sort records).Perm records :=
  List.mergeSort_perm records _

/-- Where each element has its result, a list has the list of these. -/
theorem mapM_eq_ok_map {ε α β : Type} {f : α → Except ε β} {g : α → β} {l : List α}
    (h : ∀ a ∈ l, f a = .ok (g a)) : l.mapM f = .ok (l.map g) :=
  mapM_eq_ok_iff.2 (List.forall₂_map_right_iff.2 (List.forall₂_same.2 h))

namespace Backend

section Reads

variable {tables : Tables}

/-- A query for rows in the order of their names gives the records that they stand for, in some
order. -/
theorem exists_answer_readRows (statement : Statement) (p : RecordRow → Bool)
    {read : RecordRow → Except DatabaseFault ResourceRecord} {record : RecordRow → ResourceRecord}
    (hread : ∀ row ∈ tables.records, read row = .ok (record row))
    {arrange : List ResourceRecord → List ResourceRecord}
    (harrange : ∀ records, (arrange records).Perm records) :
    ∃ records, Answers tables (do
        return arrange (← readRows read (← fetch (.selecting statement .records fun t =>
          RecordRow.sortByName (t.records.filter p))))) records ∧
      records.Perm ((tables.records.filter p).map record) := by
  have hperm : (RecordRow.sortByName (tables.records.filter p)).Perm (tables.records.filter p) :=
    List.mergeSort_perm _ _
  have hrows := mapM_eq_ok_map fun row hrow =>
    hread row (List.mem_of_mem_filter (hperm.mem_iff.1 hrow))
  refine ⟨_, fun b hb hfree htables => (run_readRows_fst hb hfree htables _ read arrange).trans ?_,
    (harrange _).trans (hperm.map record)⟩
  show (((RecordRow.sortByName (tables.records.filter p)).mapM read).mapError _).map arrange = _
  rw [hrows]
  rfl

variable (hstands : ∀ row ∈ tables.records, row.Stands)

include hstands

theorem exists_answer_lookup (qtype qname : String) (zone : Option Int) :
    ∃ records, Answers tables (lookup qtype qname zone) records ∧
      records.Perm (tables.found qtype qname zone) := by
  have hanswer (zone : Scope Int) := exists_answer_readRows
    (Query.lookupStatement (typeScope qtype) zone)
    (fun row => row.isEnabled && (typeScope qtype).admits row.type &&
      row.isNamed (some qname) && zone.admits row.domainId)
    (fun row hrow => (hstands row hrow).ofRow) ResourceRecord.sort_perm
  cases zone with
  | none => exact hanswer .any
  | some zone => exact hanswer (.only (some zone))

theorem exists_answer_list (zone : Int) (includeDisabled : Bool) :
    ∃ records, (∀ name, Answers tables (list name (some zone) includeDisabled) records) ∧
      records.Perm (tables.listed zone includeDisabled) := by
  obtain ⟨records, hanswer, hperm⟩ := exists_answer_readRows .zoneListing
    (fun row => (row.isEnabled || isTrue (some (storedBool includeDisabled))) &&
      row.isIn (some zone))
    (fun row hrow => (hstands row hrow).ofListingRow) ResourceRecord.sortSets_perm
  refine ⟨records, fun _ => hanswer, ?_⟩
  rwa [isTrue_storedBool] at hperm

omit hstands

/-- A listing by name is that of the domain of the name. -/
theorem run_list_none_fst {b : Backend} (hb : b.store.Calm) (hfree : b.HasFree)
    (htables : b.store.database.tables = some tables) {name : String} {includeDisabled : Bool}
    {listed : Int → List ResourceRecord}
    (hlisted : ∀ zone, Answers tables (list name (some zone) includeDisabled) (listed zone)) :
    ((list name none includeDisabled).run b).1 = match tables.domainId? (some name) with
      | some zone => .ok (listed zone)
      | none => .error (.domainNotFound name) := by
  have hid : ((domainId? name).run b).1 = .ok (tables.domainId? (some name)) :=
    run_domainId?_fst hb hfree htables name
  obtain ⟨-, hcalm, hsame⟩ := onlyReads_domainId? name b tables hb htables
  have htables' := (congrArg Database.tables hsame.database).trans htables
  have hfree' := hsame.hasFree_iff.2 hfree
  rcases hrun : (domainId? name).run b with ⟨outcome, b'⟩
  rw [hrun] at hid hcalm htables' hfree'
  obtain rfl : outcome = .ok (tables.domainId? (some name)) := hid
  simp only [list, Action.run_bind, hrun]
  cases tables.domainId? (some name) with
  | none => rfl
  | some zone => exact hlisted zone b' hcalm hfree' htables'

end Reads

end Backend

/-! ## Restrictions of one list -/

/-- Elements can be chosen before or after they are mapped. -/
theorem map_filter_eq_filter_map {α β : Type} {f : α → β} {p p' : α → Bool} {q : β → Prop}
    [DecidablePred q] {l : List α} (h : ∀ a ∈ l, p a = true ↔ p' a = true ∧ q (f a)) :
    (l.filter p).map f = ((l.filter p').map f).filter q := by
  rw [List.filter_map, List.filter_filter]
  refine congrArg _ (List.filter_congr fun a ha => ?_)
  rw [Bool.eq_iff_iff, h a ha, and_comm, Bool.and_eq_true]
  simp

/-- The parts of a list by a key, for all keys of the list together, are the list. -/
theorem flatMap_filter_perm {α κ : Type} [DecidableEq κ] (key : α → κ) {keys : List κ}
    (hkeys : keys.Nodup) {l : List α} (hl : ∀ a ∈ l, key a ∈ keys) :
    (keys.flatMap fun k => l.filter fun a => key a = k).Perm l := by
  induction keys generalizing l with
  | nil =>
    cases l with
    | nil => exact .nil
    | cons a l => exact absurd (hl a List.mem_cons_self) List.not_mem_nil
  | cons k keys ih =>
    obtain ⟨hk, hkeys⟩ := List.nodup_cons.1 hkeys
    -- The parts by the other keys are those of the elements that do not have the first one.
    have hothers : (keys.flatMap fun k' => l.filter fun a => key a = k') =
        keys.flatMap fun k' => (l.filter fun a => !decide (key a = k)).filter fun a =>
          key a = k' := by
      refine List.flatMap_congr fun k' hk' => ?_
      rw [List.filter_filter]
      refine List.filter_congr fun a _ => ?_
      have hne : key a = k' → key a ≠ k := fun h h' => hk (h' ▸ h ▸ hk')
      by_cases ha : key a = k' <;> simp [ha]
      exact ha ▸ hne ha
    have hrest := ih hkeys (l := l.filter fun a => !decide (key a = k)) fun a ha => by
      obtain ⟨ha, hne⟩ := List.mem_filter.1 ha
      exact (List.mem_cons.1 (hl a ha)).resolve_left (by simpa using hne)
    rw [List.flatMap_cons, hothers]
    exact (hrest.append_left _).trans (List.filter_append_perm _ l)

/-- Parts by a key are together the list, for the keys that have one. -/
theorem exists_keys_perm_flatMap {α κ : Type} [DecidableEq κ] {key : α → κ} {l : List α}
    {part : κ → List α} (h : ∀ k, (part k).Perm (l.filter fun a => key a = k)) :
    ∃ keys : List κ, keys.Nodup ∧ (∀ k, part k ≠ [] ↔ k ∈ keys) ∧ l.Perm (keys.flatMap part) := by
  have hmem (k : κ) (a : α) : a ∈ part k ↔ a ∈ l ∧ key a = k := by
    rw [(h k).mem_iff, List.mem_filter, decide_eq_true_iff]
  refine ⟨(l.map key).dedup, List.nodup_dedup _, fun k => ?_, ?_⟩
  · rw [List.mem_dedup, List.mem_map]
    constructor
    · intro hne
      obtain ⟨a, ha⟩ := List.exists_mem_of_ne_nil _ hne
      exact ⟨a, (hmem k a).1 ha⟩
    · rintro ⟨a, ha⟩
      exact List.ne_nil_of_mem ((hmem k a).2 ha)
  · have hparts := flatMap_filter_perm key (List.nodup_dedup (l.map key)) fun a ha =>
      List.mem_dedup.2 (List.mem_map_of_mem ha)
    exact hparts.symm.trans (List.Perm.flatMap_left _ fun k _ => (h k).symm)

namespace Tables

variable {tables : Tables} (hstands : ∀ row ∈ tables.records, row.Stands)

include hstands

/-- A look-up of every type in a zone finds the records of its listing with the name. -/
theorem found_of_any {any : String} (hany : Text.agree any anyType = true) (qname : String)
    (zone : Int) : tables.found any qname (some zone) =
      ((tables.listed zone false).filter fun r => r.qname = qname).map ResourceRecord.keyless := by
  have hfilter : (tables.records.filter (RecordRow.isFound any qname (some zone))).map
      RecordRow.record = (tables.listed zone false).filter fun r => r.qname = qname := by
    refine map_filter_eq_filter_map fun row hrow => ?_
    simp [RecordRow.isFound, RecordRow.isListed, typeScope, hany, Scope.admits,
      (hstands row hrow).isNamed, and_right_comm]
  rw [found, ← hfilter, List.map_map]
  rfl

/-- A look-up of a type finds the records of the type among those of every type. -/
theorem found_of_type {any : String} (hany : Text.agree any anyType = true) {qtype : String}
    (hne : qtype ≠ "") (htype : Text.agree qtype anyType = false) (qname : String)
    (zone : Option Int) : tables.found qtype qname zone =
      (tables.found any qname zone).filter fun r => r.qtype = qtype := by
  refine map_filter_eq_filter_map fun row hrow => ?_
  simp [RecordRow.isFound, typeScope, hany, htype, Scope.admits, ResourceRecord.keyless,
    (hstands row hrow).isOfType qtype hne, and_right_comm]

/-- A look-up in a zone finds the records of the zone among those of all zones. -/
theorem found_of_zone (qtype qname : String) (zone : Int) :
    tables.found qtype qname (some zone) =
      (tables.found qtype qname none).filter fun r => r.domainId = zone := by
  refine map_filter_eq_filter_map fun row hrow => ?_
  simp [RecordRow.isFound, ResourceRecord.keyless, (hstands row hrow).isIn]

/-- The listing without disabled records is a part of the one with them. -/
theorem listed_enabled (zone : Int) : tables.listed zone false =
    (tables.listed zone true).filter fun r => r.disabled = false := by
  refine map_filter_eq_filter_map fun row hrow => ?_
  simp [RecordRow.isListed, (hstands row hrow).isEnabled, and_comm]

theorem disabled_of_mem_found {qtype qname : String} {zone : Option Int} {r : ResourceRecord}
    (hr : r ∈ tables.found qtype qname zone) : r.disabled = false := by
  obtain ⟨row, hrow, rfl⟩ := List.mem_map.1 hr
  obtain ⟨hrow, hfound⟩ := List.mem_filter.1 hrow
  have henabled : row.isEnabled = true := by
    simp only [RecordRow.isFound, Bool.and_eq_true] at hfound
    exact hfound.1.1.1
  exact (hstands row hrow).isEnabled.1 henabled

end Tables

namespace Backend

/-- Every read of records succeeds, with the given outcomes of look-ups and listings, and these tell
the same. -/
structure ReadsAgree (b : Backend) (found : String → String → Option Int → List ResourceRecord)
    (listed : Int → Bool → List ResourceRecord) : Prop where
  lookup : ∀ qtype qname zone, ((lookup qtype qname zone).run b).1 = .ok (found qtype qname zone)
  list : ∀ name zone includeDisabled,
    ((list name (some zone) includeDisabled).run b).1 = .ok (listed zone includeDisabled)
  /-- A listing by name is that of the id of the domain, or fails for the want of it. -/
  listByName : ∀ name includeDisabled, ∃ id?, ((domainId? name).run b).1 = .ok id? ∧
    ((Backend.list name none includeDisabled).run b).1 = match id? with
      | some zone => .ok (listed zone includeDisabled)
      | none => .error (.domainNotFound name)
  /-- Every type in a zone: the records of the enabled listing with the name, without their ordering
  keys. -/
  anyType : ∀ any qname zone, Text.agree any "ANY" = true → (found any qname (some zone)).Perm
    (((listed zone false).filter fun r => r.qname = qname).map ResourceRecord.keyless)
  /-- One type in a zone: the records of every type that have it. -/
  oneType : ∀ any qtype qname zone, Text.agree any "ANY" = true → qtype ≠ "" →
    Text.agree qtype "ANY" = false → (found qtype qname (some zone)).Perm
      ((found any qname (some zone)).filter fun r => r.qtype = qtype)
  /-- All zones: what is found in each of them, and that together. -/
  oneZone : ∀ qtype qname zone, (found qtype qname (some zone)).Perm
    ((found qtype qname none).filter fun r => r.domainId = zone)
  allZones : ∀ qtype qname, ∃ zones : List Int, zones.Nodup ∧
    (∀ zone, found qtype qname (some zone) ≠ [] ↔ zone ∈ zones) ∧
    (found qtype qname none).Perm (zones.flatMap fun zone => found qtype qname (some zone))
  /-- The enabled listing is the full one without the disabled records. -/
  enabled : ∀ zone, (listed zone false).Perm
    ((listed zone true).filter fun r => r.disabled = false)
  /-- Only the full listing has disabled records. -/
  noneFound : ∀ qtype qname zone, ∀ r ∈ found qtype qname zone, r.disabled = false
  noneListed : ∀ zone, ∀ r ∈ listed zone false, r.disabled = false

/-- After every run of operations that leaves a connection free the reads of records agree. -/
theorem record_reads (connections : Nat) (dnssec : Bool) (hasher : Option Hasher)
    (ops : List AnyOperation) (hfree : (operated connections dnssec hasher ops).HasFree) :
    ∃ found listed, (operated connections dnssec hasher ops).ReadsAgree found listed := by
  obtain ⟨tables, htables, hall⟩ := allWritten_operated connections dnssec hasher ops
  have hcalm := calm_operated connections dnssec hasher ops
  have hstands : ∀ row ∈ tables.records, row.Stands := fun row hrow =>
    (hall.toWritten.records row hrow).stands
  choose found hlookup hfound using exists_answer_lookup hstands
  choose listed hlist hlisted using exists_answer_list hstands
  have hzone (qtype qname : String) (zone : Int) : (found qtype qname (some zone)).Perm
      ((found qtype qname none).filter fun r => r.domainId = zone) := by
    refine (hfound qtype qname (some zone)).trans ?_
    rw [Tables.found_of_zone hstands]
    exact (hfound qtype qname none).symm.filter _
  have henabled (zone : Int) :
      (listed zone false).Perm ((listed zone true).filter fun r => r.disabled = false) := by
    refine (hlisted zone false).trans ?_
    rw [Tables.listed_enabled hstands]
    exact (hlisted zone true).symm.filter _
  refine ⟨found, listed, fun qtype qname zone => hlookup qtype qname zone _ hcalm hfree htables,
    fun name zone includeDisabled => hlist zone includeDisabled name _ hcalm hfree htables,
    fun name includeDisabled => ?_, ?_, ?_, hzone, ?_, henabled, ?_, ?_⟩
  · exact ⟨_, run_domainId?_fst hcalm hfree htables name,
      run_list_none_fst hcalm hfree htables fun zone => hlist zone includeDisabled name⟩
  · intro any qname zone hany
    refine (hfound any qname (some zone)).trans ?_
    rw [Tables.found_of_any hstands hany]
    exact ((hlisted zone false).symm.filter _).map _
  · intro any qtype qname zone hany hne htype
    refine (hfound qtype qname (some zone)).trans ?_
    rw [Tables.found_of_type hstands hany hne htype]
    exact (hfound any qname (some zone)).symm.filter _
  · exact fun qtype qname => exists_keys_perm_flatMap (hzone qtype qname)
  · intro qtype qname zone r hr
    exact Tables.disabled_of_mem_found hstands ((hfound qtype qname zone).mem_iff.1 hr)
  · intro zone r hr
    simpa using (List.mem_filter.1 ((henabled zone).mem_iff.1 hr)).2

/-- A run that feeds an enabled and a disabled record of one name. -/
def halfDisabled : List AnyOperation :=
  [⟨Unit, .createDomain "example.org" .native [] ""⟩,
   ⟨Unit, .startTransaction 7 0⟩,
   ⟨Unit, .feedRecord 7 (.plain 1 "www.example.org" "A" "192.0.2.1" 60) ""⟩,
   ⟨Unit, .feedRecord 7 { ResourceRecord.plain 1 "www.example.org" "A" "192.0.2.2" 60 with
      disabled := true } ""⟩,
   ⟨Unit, .commitTransaction 7⟩]

/-- A look-up of every type finds the enabled one of the two records that are listed. -/
theorem record_reads_halfDisabled :
    ∃ found listed,
      ((lookup "ANY" "www.example.org" (some 1)).run (operated 8 false none halfDisabled)).1 =
        .ok found ∧
      ((list "Example.Org" none true).run (operated 8 false none halfDisabled)).1 = .ok listed ∧
      found.Perm (((listed.filter fun r => r.disabled = false).filter fun r =>
        r.qname = "www.example.org").map ResourceRecord.keyless) := by
  obtain ⟨found, listed, h⟩ := record_reads 8 false none halfDisabled (by decide)
  obtain ⟨zone, hzone, hlisted⟩ := h.listByName "Example.Org" true
  obtain rfl : zone = some 1 := Except.ok.inj (hzone.symm.trans (by decide +kernel))
  refine ⟨_, _, h.lookup _ _ _, hlisted, (h.anyType "ANY" "www.example.org" 1 (by decide)).trans ?_⟩
  exact ((h.enabled 1).filter _).map _

end Backend

end ZoneStore
