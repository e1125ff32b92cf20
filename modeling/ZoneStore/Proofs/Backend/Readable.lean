import ZoneStore.Proofs.Backend.Written
import ZoneStore.Proofs.Zone.OrderingChain
import ZoneStore.Proofs.Zone.Search

/-!
# Reading what was written

On tables that hold nothing but what was written, every reading operation gives results of what was
written (`Operation.Gives`), and fails only in the few ways that `Operation.MayFail` lists or for
the lack of a free connection (`Operation.meets`). `Backend.Reads` says this of an action on all
backends with the given committed tables and a free connection; its rules follow the sequence of an
action, from a query to the rows that it selects and from these to what they are read as.
-/

set_option autoImplicit false

namespace ZoneStore

/-! ## Outcomes -/

/-- The outcome is a result with the one property, or a fault with the other one. -/
def Meets {ε α : Type} (Q : α → Prop) (F : ε → Prop) : Except ε α → Prop
  | .ok a => Q a
  | .error fault => F fault

section Outcomes

variable {ε ε' α β : Type} {P : α → Prop} {Q : β → Prop} {F : ε → Prop} {x : Except ε α}

theorem Meets.exists_ok (hx : Meets P (fun _ => False) x) : ∃ a, x = .ok a ∧ P a := by
  cases x with
  | error fault => exact hx.elim
  | ok a => exact ⟨a, rfl, hx⟩

theorem Meets.mono {P' : α → Prop} (hx : Meets P F x) (h : ∀ a, P a → P' a) : Meets P' F x := by
  cases x with
  | error fault => exact hx
  | ok a => exact h a hx

theorem Meets.weaken {F' : ε → Prop} (hx : Meets P F x) (h : ∀ fault, F fault → F' fault) :
    Meets P F' x := by
  cases x with
  | error fault => exact h fault hx
  | ok a => exact hx

theorem Meets.bind {f : α → Except ε β} (hx : Meets P F x) (hf : ∀ a, P a → Meets Q F (f a)) :
    Meets Q F (x >>= f) := by
  cases x with
  | error fault => exact hx
  | ok a => exact hf a hx

theorem Meets.map {f : α → β} (hx : Meets P F x) (hf : ∀ a, P a → Q (f a)) :
    Meets Q F (x.map f) := by
  cases x with
  | error fault => exact hx
  | ok a => exact hf a hx

theorem Meets.mapError {F' : ε' → Prop} {f : ε → ε'} (hx : Meets P F x)
    (hf : ∀ fault, F fault → F' (f fault)) : Meets P F' (x.mapError f) := by
  cases x with
  | error fault => exact hf fault hx
  | ok a => exact hx

/-- What each element of a list meets, the list of their results meets one by one. -/
theorem meets_mapM {R : α → β → Prop} {f : α → Except ε β} {l : List α}
    (h : ∀ a ∈ l, Meets (R a) F (f a)) : Meets (List.Forall₂ R l) F (l.mapM f) := by
  induction l with
  | nil => exact .nil
  | cons a rest ih =>
    rw [List.mapM_cons]
    refine (h a List.mem_cons_self).bind fun b hb => ?_
    refine (ih fun a ha => h a (List.mem_cons_of_mem _ ha)).bind fun bs hbs => ?_
    exact .cons hb hbs

/-- What is kept of a list by a condition that may fail is a part of it. -/
theorem meets_filterM {p : α → Except ε Bool} {l : List α}
    (h : ∀ a ∈ l, Meets (fun _ => True) F (p a)) : Meets (· ⊆ l) F (l.filterM p) := by
  have aux (rest : List α) (hrest : rest ⊆ l) (acc : List α) (hacc : acc ⊆ l) :
      Meets (· ⊆ l) F (rest.filterAuxM p acc) := by
    induction rest generalizing acc with
    | nil => exact hacc
    | cons a rest ih =>
      obtain ⟨ha, hrest⟩ := List.cons_subset.1 hrest
      rw [List.filterAuxM]
      refine (h a ha).bind fun hit _ => ih hrest _ ?_
      cases hit with
      | true => exact List.cons_subset.2 ⟨ha, hacc⟩
      | false => exact hacc
  exact (aux l (List.Subset.refl l) [] (List.nil_subset l)).bind fun kept hkept a ha =>
    hkept (List.mem_reverse.1 ha)

end Outcomes

/-! ## Reading -/

namespace Backend

variable {α β ρ σ : Type} {tables : Tables} {Q : α → Prop} {R : β → Prop} {F : Fault → Prop}

/-- On every backend that knows every statement, has the given committed tables and has a free
connection, the outcome of the action meets the two properties. -/
def Reads (tables : Tables) (x : BackendM α) (Q : α → Prop) (F : Fault → Prop) : Prop :=
  ∀ b : Backend, b.store.Calm → b.HasFree → b.store.database.tables = some tables →
    Meets Q F (x.run b).1

theorem Reads.meets {x : BackendM α} {b : Backend} (hx : Reads tables x Q F) (hb : b.store.Calm)
    (hfree : b.HasFree) (htables : b.store.database.tables = some tables) : Meets Q F (x.run b).1 :=
  hx b hb hfree htables

theorem reads_ofExcept {outcome : Except Fault α} (h : Meets Q F outcome) :
    Reads tables (Action.ofExcept outcome) Q F := by
  intro b _ _ _
  rwa [Action.run_ofExcept]

theorem reads_pure {a : α} (h : Q a) : Reads tables (pure a) Q F := fun _ _ _ _ => h

theorem reads_throw {fault : Fault} (h : F fault) : Reads tables (throw fault) Q F :=
  fun _ _ _ _ => h

/-- What is read first leaves the tables to what comes after it. -/
theorem Reads.bind {x : BackendM α} {f : α → BackendM β} (hx : Reads tables x Q F)
    (honly : OnlyReads x) (hf : ∀ a, Q a → Reads tables (f a) R F) :
    Reads tables (x >>= f) R F := by
  intro b hb hfree htables
  obtain ⟨-, hcalm, hsame⟩ := honly b tables hb htables
  have hfirst := hx b hb hfree htables
  rw [Action.run_bind]
  rcases hrun : x.run b with ⟨outcome, b'⟩
  rw [hrun] at hfirst hcalm hsame
  cases outcome with
  | error fault => exact hfirst
  | ok a =>
    exact hf a hfirst b' hcalm (hsame.hasFree_iff.2 hfree)
      ((congrArg Database.tables hsame.database).trans htables)

/-- What comes after a query goes on with its rows of the committed tables. -/
theorem reads_fetch_bind {q : Query ρ} {P : List ρ → Prop} {f : List ρ → BackendM α}
    (hq : Meets P (fun fault => F (.database fault)) (q.rows tables))
    (hf : ∀ rows, P rows → Reads tables (f rows) Q F) : Reads tables (fetch q >>= f) Q F := by
  have hfetch : Reads tables (fetch q) P F := by
    intro b hb hfree htables
    obtain ⟨b', hrun⟩ := run_fetch_fst hb hfree htables q
    rw [hrun]
    exact hq.mapError fun _ h => h
  exact hfetch.bind (onlyReads_fetch q) hf

/-- A query that never fails. -/
theorem reads_selecting_bind {statement : Statement} {source : TableName}
    {rows : Tables → List ρ} {f : List ρ → BackendM α} (hf : Reads tables (f (rows tables)) Q F) :
    Reads tables (fetch (.selecting statement source rows) >>= f) Q F :=
  reads_fetch_bind (P := fun found => found = rows tables) rfl fun _ h => h ▸ hf

/-- Rows that can be read are read one by one. -/
theorem reads_readRows_bind {read : ρ → Except DatabaseFault σ} {rows : List ρ}
    {P : ρ → σ → Prop} {f : List σ → BackendM α}
    (hread : ∀ row ∈ rows, ∃ a, read row = .ok a ∧ P row a)
    (hf : ∀ as, List.Forall₂ P rows as → Reads tables (f as) Q F) :
    Reads tables (readRows read rows >>= f) Q F := by
  have hrows : Meets (List.Forall₂ P rows) (fun _ => False) (rows.mapM read) := by
    refine meets_mapM fun row hrow => ?_
    obtain ⟨a, ha, hP⟩ := hread row hrow
    rw [ha]
    exact hP
  have hreads : Reads tables (readRows read rows) (List.Forall₂ P rows) F :=
    reads_ofExcept (hrows.mapError fun _ h => h.elim)
  exact hreads.bind (onlyReads_readRows read rows) hf

/-- An action that gives an answer. -/
theorem Answers.reads {x : BackendM α} {a : α} (hx : Answers tables x a) (h : Q a) :
    Reads tables x Q F := by
  intro b hb hfree htables
  rw [hx b hb hfree htables]
  exact h

end Backend

/-! ## What is read -/

/-- The record was given, up to its authority and its ordering key, or it is that of an empty
non-terminal that was given. -/
inductive Writings.HasRecord (w : Writings) : ResourceRecord → Prop where
  /-- A record. -/
  | given {r : ResourceRecord} (hr : r ∈ w.records) (auth : Bool) (ordername : Option String) :
      HasRecord w { r with auth := auth, ordername := ordername }
  /-- An empty non-terminal. -/
  | emptyNonTerminal {zone : Int} {name : String} (hname : (zone, name) ∈ w.emptyNonTerminals)
      (auth : Bool) (ordername : Option String) :
      HasRecord w ⟨zone, name, "", "", 0, 0, false, auth, ordername⟩

/-- The serial is that of an SOA record that was given for the zone. -/
def Writings.HasSerial (w : Writings) (zone : Int) (name : String) (serial : Int) : Prop :=
  ∃ r ∈ w.records, r.domainId = zone ∧ r.qname = name ∧ r.qtype = soaType ∧
    soaSerial r.content = .ok serial

/-- The notified serial and the time of the last check are those that were last noted of the domain,
or zero. -/
structure Writings.Describes (w : Writings) (info : DomainInfo) : Prop where
  notifiedSerial : info.notifiedSerial = (w.notes info.id info.zone).serial.getD 0
  lastCheck : info.lastCheck = (w.notes info.id info.zone).check.getD 0

namespace Operation

/-- The faults with which a reading operation may fail: the zone to list is given by a name that no
domain has, the serial of some domain is no integer, the pattern is too long to be compared, or the
keys are asked for without the signing mode. With a free connection no other reading operation
fails. -/
def MayFail (dnssec : Bool) : {α : Type} → Operation α → Fault → Prop
  | _, list name none _, fault => fault = .domainNotFound name
  | _, listSubzone name _, fault =>
    Like.greatestLength < (Backend.namesBelow name).utf8ByteSize ∧
      fault = .database .patternTooComplex
  | _, searchRecords pattern _, fault | _, searchComments pattern _, fault =>
    ¬ Glob.IsShort pattern ∧ fault = .database .patternTooComplex
  | _, allDomains _, fault | _, updatedMasters, fault => ∃ cause, fault = .integer cause
  | _, domainKeys _, fault => dnssec = false ∧ fault = .dnssecRequired
  | _, _, _ => False

/-- What a reading operation may give of what was written: records, comments and keys as they were
given, and of each domain the serial and the time that were last noted, or zero. -/
def Gives (w : Writings) : {α : Type} → Operation α → α → Prop
  | _, lookup _ _ _, records | _, list _ _ _, records | _, listSubzone _ _, records
  | _, searchRecords _ _, records => ∀ r ∈ records, w.HasRecord r
  | _, listComments _, comments | _, searchComments _ _, comments => ∀ c ∈ comments, c ∈ w.comments
  | _, domainInfo? _, found =>
    ∀ info, found = some info → info.serial = 0 ∧ w.Describes info
  | _, allDomains includeDisabled, infos => ∀ info ∈ infos, w.Describes info ∧
      (w.HasSerial info.id info.zone info.serial ∨ includeDisabled = true ∧ info.serial = 0)
  | _, updatedMasters, infos => ∀ info ∈ infos, w.HasSerial info.id info.zone info.serial ∧
      info.notifiedSerial = (w.notes info.id info.zone).serial.getD 0
  | _, domainKeys _, keys => ∀ key ∈ keys, ∃ added, w.keys key.id = some added ∧
      key.flags = added.flags ∧ key.content = added.content
  | _, _, _ => True

end Operation

/-! ## Rows -/

section Rows

variable {w : Writings} {row : RecordRow}

theorem RecordRow.Written.whole (h : row.Written w) : row.Whole := by
  cases h with
  | record => exact ⟨⟨_, rfl⟩, ⟨_, rfl⟩, _, readWord_toNat 1 _⟩
  | emptyNonTerminal => exact ⟨⟨_, rfl⟩, ⟨_, rfl⟩, _, readWord_toNat 1 0⟩

/-- The row of a record is read as the record, and that of an empty non-terminal as one without
type. -/
theorem RecordRow.Written.exists_ofRow (h : row.Written w) :
    ∃ r, ResourceRecord.ofRow row = .ok r ∧ w.HasRecord r := by
  cases h with
  | record hr id key auth =>
    refine ⟨_, ?_, .given hr (isTrue (auth.or (some 1))) none⟩
    simp [ResourceRecord.ofRow, ResourceRecord.toRow, readWord_toNat, bind, Except.bind]
  | emptyNonTerminal hname id key auth =>
    exact ⟨_, rfl, .emptyNonTerminal hname (isTrue (auth.or (some 1))) none⟩

theorem Writings.HasRecord.withKey {r : ResourceRecord} (h : w.HasRecord r) (key : Option String) :
    w.HasRecord { r with ordername := key } := by
  cases h with
  | given hr auth => exact .given hr auth key
  | emptyNonTerminal hname auth => exact .emptyNonTerminal hname auth key

theorem RecordRow.Written.exists_ofListingRow (h : row.Written w) :
    ∃ r, ResourceRecord.ofListingRow row = .ok r ∧ w.HasRecord r := by
  obtain ⟨r, hr, hrecord⟩ := h.exists_ofRow
  refine ⟨{ r with ordername := row.ordername }, ?_, hrecord.withKey row.ordername⟩
  rw [ResourceRecord.ofListingRow, hr]
  rfl

end Rows

/-! ## Records and comments -/

namespace Backend

variable {w : Writings} {tables : Tables} {F : Fault → Prop}

/-- Rows are searched, unless the pattern is too long. -/
theorem meets_searchRows {α : Type} {first second : α → Option String} {pattern : String}
    (hlong : ¬ Glob.IsShort pattern → F (.database .patternTooComplex)) (n : Nat)
    (rows : List α) :
    Meets (· ⊆ rows) (fun fault => F (.database fault))
      (searchRows first second (some (Glob.toLike pattern)) (some (Glob.toLike pattern))
        (some (n : Int)) rows) := by
  by_cases hshort : Glob.IsShort pattern
  · rw [searchRows_of_isShort hshort]
    exact fun row hrow => List.mem_of_mem_filter (List.mem_of_mem_take hrow)
  · rw [searchRows_of_not_isShort hshort]
    split
    · exact List.nil_subset rows
    · exact hlong hshort

section Records

variable (hw : tables.Written w)

include hw

/-- Written records are read, in whatever order they are given. -/
theorem reads_records {read : RecordRow → Except DatabaseFault ResourceRecord}
    (hread : ∀ row, row.Written w → ∃ r, read row = .ok r ∧ w.HasRecord r) {rows : List RecordRow}
    (hrows : rows ⊆ tables.records) {arrange : List ResourceRecord → List ResourceRecord}
    (harrange : ∀ rs, (arrange rs).Perm rs) :
    Reads tables (do return arrange (← readRows read rows)) (fun rs => ∀ r ∈ rs, w.HasRecord r)
      F := by
  refine reads_readRows_bind (fun row hrow => hread row (hw.records row (hrows hrow))) ?_
  intro rs hrs
  refine reads_pure fun r hr => ?_
  obtain ⟨row, -, hrecord⟩ := exists_of_mem_right hrs ((harrange rs).mem_iff.1 hr)
  exact hrecord

theorem reads_lookup (qtype qname : String) (zone : Option Int) :
    Reads tables (lookup qtype qname zone) (fun rs => ∀ r ∈ rs, w.HasRecord r) F := by
  refine reads_selecting_bind ?_
  refine reads_records hw (fun _ => RecordRow.Written.exists_ofRow) ?_ fun rs =>
    List.mergeSort_perm rs _
  intro row hrow
  exact List.mem_of_mem_filter (List.mem_mergeSort.1 hrow)

theorem reads_zoneListing (zone : Int) (includeDisabled : Bool) :
    Reads tables (do
      let rows ← fetch (.zoneListing (some zone) (some (storedBool includeDisabled)))
      return ResourceRecord.sortSets (← readRows ResourceRecord.ofListingRow rows))
      (fun rs => ∀ r ∈ rs, w.HasRecord r) F := by
  refine reads_selecting_bind ?_
  refine reads_records hw (fun _ => RecordRow.Written.exists_ofListingRow) ?_
    ResourceRecord.sortSets_perm
  intro row hrow
  exact List.mem_of_mem_filter (List.mem_mergeSort.1 hrow)

theorem reads_list (name : String) (zone : Option Int) (includeDisabled : Bool)
    (hnone : zone = none → F (.domainNotFound name)) :
    Reads tables (list name zone includeDisabled) (fun rs => ∀ r ∈ rs, w.HasRecord r) F := by
  cases zone with
  | some zone => exact reads_zoneListing hw zone includeDisabled
  | none =>
    have hid : Reads tables (domainId? name) (fun _ => True) F :=
      reads_selecting_bind (reads_pure trivial)
    refine hid.bind (onlyReads_domainId? name) fun found _ => ?_
    cases found with
    | some zone => exact reads_zoneListing hw zone includeDisabled
    | none => exact reads_throw (hnone rfl)

/-- The part of a zone below a name is listed, unless the pattern of the names is too long. -/
theorem reads_listSubzone (name : String) (zone : Int)
    (hlong : Like.greatestLength < (namesBelow name).utf8ByteSize →
      F (.database .patternTooComplex)) :
    Reads tables (listSubzone name zone) (fun rs => ∀ r ∈ rs, w.HasRecord r) F := by
  have hrows : Meets (· ⊆ tables.records) (fun fault => F (.database fault))
      ((Query.subzoneListing (some name) (some (namesBelow name)) (some zone)).rows tables) := by
    refine (meets_filterM fun row _ => ?_).bind fun kept hkept row hrow => ?_
    · -- The record at the name itself is not compared with the pattern.
      split
      · trivial
      · simp only [Like.compare]
        split
        · exact hlong ‹_›
        · trivial
    · exact List.mem_of_mem_filter (hkept (List.mem_mergeSort.1 hrow))
  refine reads_fetch_bind hrows fun rows hsub => ?_
  exact reads_records hw (fun _ => RecordRow.Written.exists_ofRow) hsub fun rs =>
    List.mergeSort_perm rs _

theorem reads_searchRecords (pattern : String) (limit : UInt32)
    (hlong : ¬ Glob.IsShort pattern → F (.database .patternTooComplex)) :
    Reads tables (searchRecords pattern limit) (fun rs => ∀ r ∈ rs, w.HasRecord r) F := by
  refine reads_fetch_bind (meets_searchRows hlong limit.toNat tables.records) fun rows hsub => ?_
  have harrange (rs : List ResourceRecord) : (id rs).Perm rs := .refl rs
  rw [← bind_pure (readRows ResourceRecord.ofRow rows)]
  exact reads_records hw (fun _ => RecordRow.Written.exists_ofRow) hsub harrange

theorem reads_listComments (zone : Int) :
    Reads tables (listComments zone) (fun cs => ∀ c ∈ cs, c ∈ w.comments) F := by
  refine reads_selecting_bind (reads_pure fun c hc => ?_)
  obtain ⟨row, hrow, rfl⟩ := List.mem_map.1 (List.mem_mergeSort.1 hc)
  exact hw.comments row (List.mem_of_mem_filter hrow)

theorem reads_searchComments (pattern : String) (limit : UInt32)
    (hlong : ¬ Glob.IsShort pattern → F (.database .patternTooComplex)) :
    Reads tables (searchComments pattern limit) (fun cs => ∀ c ∈ cs, c ∈ w.comments) F := by
  refine reads_fetch_bind (meets_searchRows hlong limit.toNat tables.comments) fun rows hsub => ?_
  refine reads_pure fun c hc => ?_
  obtain ⟨row, hrow, rfl⟩ := List.mem_map.1 hc
  exact hw.comments row (hsub hrow)

theorem reads_allDomainMetadata (name : String) :
    Reads tables (allDomainMetadata name) (fun _ => True) F := by
  refine reads_selecting_bind (reads_readRows_bind (P := fun _ _ => True) ?_ fun _ _ =>
    reads_pure trivial)
  intro row hrow
  obtain ⟨kind, hkind⟩ := hw.metadata row (List.mem_of_mem_filter hrow)
  rw [MetadataRow.entry, hkind]
  exact ⟨_, rfl, trivial⟩

end Records

/-! ## Domains -/

theorem describes_ofRow {d : DomainRow} (hd : d.notes = w.notes d.id d.name) (serial : Int) :
    w.Describes (.ofRow d serial) := by
  constructor
  · exact congrArg (fun notes : DomainNotes => notes.serial.getD 0) hd
  · exact congrArg (fun notes : DomainNotes => notes.check.getD 0) hd

theorem reads_domainInfo? (hnotes : tables.HasNotes w) (name : String) :
    Reads tables (domainInfo? name)
      (fun found => ∀ info, found = some info → info.serial = 0 ∧ w.Describes info) F := by
  refine reads_selecting_bind (reads_pure ?_)
  intro info hinfo
  obtain ⟨d, hd, rfl⟩ := Option.map_eq_some_iff.1 hinfo
  have hmem := List.mem_of_mem_filter (List.mem_of_head? hd)
  exact ⟨rfl, describes_ofRow (hnotes d hmem) 0⟩

/-- A serial is read as a number, or the text is none. -/
theorem meets_soaSerial (hinteger : ∀ cause, F (.integer cause)) (content : String) :
    Meets (fun serial => soaSerial content = .ok serial) F (soaSerial content) := by
  cases hserial : soaSerial content with
  | ok serial => exact rfl
  | error fault =>
    unfold soaSerial at hserial
    split at hserial
    · cases hserial
    · rename_i text _
      cases hread : Text.Decimal.read .signed64 text with
      | ok n =>
        rw [hread] at hserial
        cases hserial
      | error cause =>
        rw [hread] at hserial
        cases hserial
        exact hinteger cause

/-- The SOA record of a domain was given for it. -/
theorem exists_given_of_isSoa {d : DomainRow} {row : RecordRow} (hrow : row.Written w)
    (hsoa : d.isSoa row = true) :
    ∃ r ∈ w.records, r.domainId = d.id ∧ r.qname = d.name ∧ r.qtype = soaType ∧
      row.content = some r.content := by
  cases hrow with
  | record hr =>
    simp only [DomainRow.isSoa, ResourceRecord.toRow, RecordRow.isIn, RecordRow.isNamed,
      holds_some_some, Bool.and_eq_true, beq_iff_eq, Option.some.injEq] at hsoa
    exact ⟨_, hr, hsoa.1.1, hsoa.2, hsoa.1.2, rfl⟩
  | emptyNonTerminal => simp [DomainRow.isSoa, RecordRow.emptyNonTerminal] at hsoa

/-- The serial of a domain is that of a record that was given for it. -/
theorem meets_soaSerial_of_isSoa (hinteger : ∀ cause, F (.integer cause)) {d : DomainRow}
    {row : RecordRow} (hrow : row.Written w) (hsoa : d.isSoa row = true) :
    ∃ content, row.content = some content ∧
      Meets (w.HasSerial d.id d.name) F (soaSerial content) := by
  obtain ⟨r, hr, hzone, hname, htype, hcontent⟩ := exists_given_of_isSoa hrow hsoa
  refine ⟨r.content, hcontent, ?_⟩
  exact (meets_soaSerial hinteger r.content).mono fun serial hserial =>
    ⟨r, hr, hzone, hname, htype, hserial⟩

/-- A domain of the list is an existing one, and its SOA record, if there is one, is stored. -/
theorem mem_domainsWithSoa {p : DomainRow × Option RecordRow} (hp : p ∈ tables.domainsWithSoa) :
    p.1 ∈ tables.domains ∧ ∀ row, p.2 = some row → row ∈ tables.records ∧ p.1.isSoa row = true := by
  obtain ⟨d, hd, hp⟩ := List.mem_flatMap.1 hp
  split at hp
  · obtain rfl := List.mem_singleton.1 hp
    refine ⟨hd, ?_⟩
    rintro row hrow
    cases hrow
  · obtain ⟨soa, hsoa, rfl⟩ := List.mem_map.1 hp
    refine ⟨hd, ?_⟩
    rintro row hrow
    obtain rfl := Option.some.inj hrow
    exact List.mem_filter.1 hsoa

/-- Domains each of which can be described are described, in whatever order. -/
theorem reads_infos {ρ : Type} {f : ρ → Except Fault DomainInfo} {P : DomainInfo → Prop}
    {rows : List ρ} (hrows : ∀ row ∈ rows, Meets P F (f row))
    {arrange : List DomainInfo → List DomainInfo} (harrange : ∀ infos, arrange infos ⊆ infos) :
    Reads tables (do
      let infos ← Action.ofExcept (rows.mapM f)
      return arrange infos) (fun infos => ∀ info ∈ infos, P info) F := by
  have hinfos : Meets (List.Forall₂ (fun _ info => P info) rows) F (rows.mapM f) :=
    meets_mapM hrows
  refine (reads_ofExcept hinfos).bind (onlyReads_ofExcept _) fun infos h => ?_
  refine reads_pure fun info hinfo => ?_
  obtain ⟨row, -, hinfo⟩ := exists_of_mem_right h (harrange infos hinfo)
  exact hinfo

/-- Only a domain that is listed without an enabled SOA record may have no serial. -/
theorem reads_allDomains (hw : tables.Written w) (hnotes : tables.HasNotes w)
    (includeDisabled : Bool) (hinteger : ∀ cause, F (.integer cause)) :
    Reads tables (allDomains includeDisabled) (fun infos => ∀ info ∈ infos, w.Describes info ∧
      (w.HasSerial info.id info.zone info.serial ∨ includeDisabled = true ∧ info.serial = 0))
      F := by
  refine reads_selecting_bind (reads_infos (fun p hp => ?_) fun infos info hinfo =>
    List.mem_mergeSort.1 hinfo)
  obtain ⟨hp, hlisted⟩ := List.mem_filter.1 hp
  obtain ⟨hd, hsoa⟩ := mem_domainsWithSoa hp
  have hserial : Meets
      (fun serial => w.HasSerial p.1.id p.1.name serial ∨ includeDisabled = true ∧ serial = 0) F
      (serialOf p.2) := by
    cases hp : p.2 with
    | none =>
      rw [hp] at hlisted
      exact Or.inr ⟨by simpa using hlisted, rfl⟩
    | some row =>
      obtain ⟨hrow, his⟩ := hsoa row hp
      obtain ⟨content, hcontent, hserial⟩ :=
        meets_soaSerial_of_isSoa hinteger (hw.records row hrow) his
      simp only [serialOf, Option.bind_some, hcontent]
      exact hserial.mono fun serial h => Or.inl h
  exact hserial.map fun serial h => ⟨describes_ofRow (hnotes p.1 hd) serial, h⟩

/-- Only serials are described of a master. -/
theorem reads_updatedMasters (hw : tables.Written w) (hnotes : tables.HasNotes w)
    (hinteger : ∀ cause, F (.integer cause)) :
    Reads tables updatedMasters
      (fun infos => ∀ info ∈ infos, w.HasSerial info.id info.zone info.serial ∧
        info.notifiedSerial = (w.notes info.id info.zone).serial.getD 0) F := by
  refine reads_selecting_bind (reads_infos (fun p hp => ?_) fun infos info hinfo =>
    List.mem_of_mem_filter (List.mem_mergeSort.1 hinfo))
  obtain ⟨row, hrow, hp⟩ := List.mem_flatMap.1 hp
  obtain ⟨d, hd, rfl⟩ := List.mem_map.1 hp
  obtain ⟨hd, hsoa⟩ := List.mem_filter.1 hd
  have hwritten := hw.records row (List.mem_of_mem_filter hrow)
  obtain ⟨content, hcontent, hserial⟩ :=
    meets_soaSerial_of_isSoa hinteger hwritten ((Bool.and_eq_true _ _).mp hsoa).1
  rw [hcontent, Option.getD_some]
  exact hserial.map fun serial h => ⟨h, (describes_ofRow (hnotes d hd) serial).notifiedSerial⟩

/-! ## Keys, ordering and autoprimaries -/

/-- The keys of a domain are read one by one. -/
theorem reads_domainKeys (hkeys : tables.HasKeys w) (name : String) :
    Reads tables (do readRows SigningKey.ofRow (← fetch (.domainKeys (some name))))
      (List.Forall₂ (fun row key => SigningKey.ofRow row = .ok key ∧
        ∃ added, w.keys key.id = some added ∧ key.flags = added.flags ∧
          key.content = added.content)
        (tables.keys.filter (Tables.isKeyOf (tables.domainId? (some name))))) F := by
  refine reads_selecting_bind ?_
  rw [← bind_pure (readRows SigningKey.ofRow _)]
  refine reads_readRows_bind (fun row hrow => ?_) fun keys h => reads_pure h
  obtain ⟨added, hadded, hflags, hcontent⟩ := hkeys row (List.mem_of_mem_filter hrow)
  have hread : SigningKey.ofRow row = .ok ⟨row.id, added.flags, isTrue row.active,
      isTrue (row.published.or (some 1)), added.content⟩ := by
    rw [SigningKey.ofRow, hflags, readWord_toNat, hcontent]
    rfl
  exact ⟨_, hread, hread, added, hadded, rfl, rfl⟩

theorem reads_firstAutoprimary (ip : String) (nameservers : List String) :
    Reads tables (firstAutoprimary ip nameservers) (fun _ => True) F := by
  induction nameservers with
  | nil => exact reads_pure trivial
  | cons nameserver rest ih =>
    refine reads_selecting_bind ?_
    split
    · exact reads_pure trivial
    · exact ih

/-- An ordering query answers, since every record has a name. -/
theorem reads_of_exists_answer {α : Type} {x : BackendM α} {P : α → Prop}
    (h : ∃ answer, Answers tables x answer ∧ P answer) : Reads tables x (fun _ => True) F := by
  obtain ⟨answer, hanswer, -⟩ := h
  exact hanswer.reads trivial

end Backend

open Backend

/-- On tables of what was written every reading operation gives that, and fails only where it may,
if a connection is free. -/
theorem Operation.reads {α : Type} (op : Operation α) (hread : op.isRead = true) {w : Writings}
    {tables : Tables} (hall : tables.AllWritten w) {b : Backend} (hb : b.store.Calm)
    (hfree : b.HasFree) (htables : b.store.database.tables = some tables) :
    Meets (op.Gives w) (op.MayFail b.dnssec) (op.run.run b).1 := by
  obtain ⟨hw, hnotes, hkeys⟩ := hall
  have hwhole : ∀ row ∈ tables.records, row.Whole := fun row hrow => (hw.records row hrow).whole
  cases op with
  | lookup qtype qname zone => exact reads_lookup hw qtype qname zone b hb hfree htables
  | list name zone includeDisabled =>
    refine reads_list hw name zone includeDisabled ?_ b hb hfree htables
    rintro rfl
    exact rfl
  | listSubzone name zone =>
    exact reads_listSubzone hw name zone (fun hlong => ⟨hlong, rfl⟩) b hb hfree htables
  | searchRecords pattern limit =>
    exact reads_searchRecords hw pattern limit (fun hlong => ⟨hlong, rfl⟩) b hb hfree htables
  | listComments zone => exact reads_listComments hw zone b hb hfree htables
  | searchComments pattern limit =>
    exact reads_searchComments hw pattern limit (fun hlong => ⟨hlong, rfl⟩) b hb hfree htables
  | orderFirst zone =>
    exact reads_of_exists_answer (exists_answer_orderFirst hwhole zone) b hb hfree htables
  | orderLast zone =>
    exact reads_of_exists_answer (exists_answer_orderLast hwhole zone) b hb hfree htables
  | orderBefore zone key =>
    exact reads_of_exists_answer (exists_answer_orderBefore hwhole zone key) b hb hfree htables
  | orderAfter zone key =>
    exact reads_of_exists_answer (exists_answer_orderAfter hwhole zone key) b hb hfree htables
  | domainInfo? name => exact reads_domainInfo? hnotes name b hb hfree htables
  | allDomains includeDisabled =>
    exact reads_allDomains hw hnotes includeDisabled (fun cause => ⟨cause, rfl⟩) b hb hfree htables
  | updatedMasters =>
    exact reads_updatedMasters hw hnotes (fun cause => ⟨cause, rfl⟩) b hb hfree htables
  | authorize ip domain nameservers => exact reads_firstAutoprimary ip _ b hb hfree htables
  | domainKeys name =>
    cases hdnssec : b.dnssec with
    | true =>
      rw [Operation.run, Backend.domainKeys, run_guarded_of_true hdnssec]
      refine (reads_domainKeys hkeys name b hb hfree htables).mono fun keys h key hkey => ?_
      obtain ⟨row, -, -, hadded⟩ := exists_of_mem_right h hkey
      exact hadded
    | false =>
      rw [Operation.run, Backend.domainKeys, run_guarded_of_false hdnssec]
      exact ⟨rfl, rfl⟩
  | allDomainMetadata name => exact reads_allDomainMetadata hw name b hb hfree htables
  | domainId? | listAutoprimaries | autoprimaryAddresses | tsigKey? | tsigKeys | domainMetadata =>
    refine Reads.meets ?_ hb hfree htables
    refine reads_selecting_bind ?_
    exact reads_pure trivial
  | _ => cases hread

/-- On tables of what was written every reading operation gives that, and fails only where it may,
or because no connection is free. -/
theorem Operation.meets {α : Type} (op : Operation α) (hread : op.isRead = true) {w : Writings}
    {tables : Tables} (hall : tables.AllWritten w) {b : Backend} (hb : b.store.Calm)
    (htables : b.store.database.tables = some tables) :
    Meets (op.Gives w) (fun fault => op.MayFail b.dnssec fault ∨
      ¬ b.HasFree ∧ fault = .database .noConnection) (op.run.run b).1 := by
  by_cases hfree : b.HasFree
  · exact (op.reads hread hall hb hfree htables).weaken fun _ h => Or.inl h
  · -- If no connection was needed, another backend with these tables answers in the same way.
    rcases (op.onlyReads hread b _ hb htables).1 with hanswer | ⟨-, herror⟩
    · rw [hanswer]
      refine (op.reads hread hall (calmWith_holdingWith hb.orderly _ _ _)
        (hasFree_holdingWith _ _ _ _) rfl).weaken fun _ h => Or.inl h
    · rw [herror]
      exact Or.inr ⟨hfree, rfl⟩

end ZoneStore
