import ZoneStore.Proofs.Domain.DomainLists
import ZoneStore.Proofs.Domain.Kinds

/-!
# Serials that were not notified

The masters are found by the one text under which their kind is stored, and their serials in the
enabled SOA records at their names. So the list of those to be notified has an entry for each such
record (`Tables.masterSoas`) whose serial is not the one that was last notified, and fails exactly
if one of these records has a serial that cannot be read. Noting a serial takes the entries with
that serial away from its domain, and leaves every other domain alone (`Backend.masters_notified`).
-/

set_option autoImplicit false

namespace ZoneStore

/-! ## Serials -/

/-- A text that has a third field, which is no integer of 64 bits. -/
def HasBadSerial (content : String) : Prop :=
  ∃ field, (Text.fields Text.isBlank content)[2]? = some field ∧
    ∀ n, Text.Decimal.read .signed64 field ≠ .ok n

/-- A serial is read, or there is a bad one and it is reported. -/
theorem soaSerial_cases (content : String) :
    (¬ HasBadSerial content ∧ ∃ n, soaSerial content = .ok n) ∨
      (HasBadSerial content ∧ ∃ cause, soaSerial content = .error (.integer cause)) := by
  rw [soaSerial, HasBadSerial]
  cases (Text.fields Text.isBlank content)[2]? with
  | none => exact Or.inl ⟨by rintro ⟨field, ⟨⟩, -⟩, 0, rfl⟩
  | some field =>
    cases hread : Text.Decimal.read .signed64 field with
    | ok n =>
      refine Or.inl ⟨?_, n, by simp [hread, Except.mapError]⟩
      rintro ⟨field', hfield, hbad⟩
      obtain rfl := Option.some.inj hfield
      exact hbad n hread
    | error cause =>
      refine Or.inr ⟨⟨field, rfl, fun n hn => ?_⟩, cause, by simp [hread, Except.mapError]⟩
      cases hread.symm.trans hn

theorem not_hasBadSerial {content : String} {n : Int} (h : soaSerial content = .ok n) :
    ¬ HasBadSerial content := by
  rcases soaSerial_cases content with ⟨hgood, -⟩ | ⟨-, cause, hcause⟩
  · exact hgood
  · cases h.symm.trans hcause

namespace RecordRow

/-- The content of a record; an absent one is empty. -/
def text (r : RecordRow) : String := r.content.getD ""

/-- The serial in a record, if it can be read. -/
def serial (r : RecordRow) : Int :=
  match soaSerial r.text with
  | .ok serial => serial
  | .error _ => 0

theorem soaSerial_text {r : RecordRow} (h : ¬ HasBadSerial r.text) :
    soaSerial r.text = .ok r.serial := by
  rcases soaSerial_cases r.text with ⟨-, n, hn⟩ | ⟨hbad, -⟩
  · rw [serial, hn]
  · exact absurd hbad h

end RecordRow

/-! ## Masters and their SOA records -/

/-- Whether the kind of a domain is that of a master. -/
def DomainRow.isMaster (d : DomainRow) : Bool := DomainKind.ofText d.kind == .master

namespace Tables

variable {t : Tables}

/-- The masters with their enabled SOA records. -/
def masterSoas (t : Tables) : List (DomainRow × RecordRow) :=
  (t.domains.product t.records).filter fun p => p.1.isMaster && p.1.isSoa p.2 && p.2.isEnabled

theorem mem_masterSoas {p : DomainRow × RecordRow} : p ∈ t.masterSoas ↔
    p.1 ∈ t.domains ∧ p.2 ∈ t.records ∧ p.1.isMaster = true ∧ p.1.isSoa p.2 = true ∧
      p.2.isEnabled = true := by
  rw [masterSoas, List.mem_filter, List.pair_mem_product]
  simp only [Bool.and_eq_true]
  tauto

/-- Stored kinds are stored forms of kinds that were read from texts. -/
def KindsRead (t : Tables) : Prop := ∀ d ∈ t.domains, ∃ s, d.kind = (DomainKind.ofText s).text

/-- The rows that the query for masters selects. -/
def masterRows (t : Tables) : List (DomainRow × RecordRow) :=
  (t.records.filter (·.isEnabled)).flatMap fun r =>
    (t.domains.filter fun d => d.isSoa r && d.kind == masterKind).map fun d => (d, r)

theorem rows_masterSerials (t : Tables) :
    (Query.masterSerials masterKind).rows t = .ok t.masterRows := rfl

theorem mem_masterRows {p : DomainRow × RecordRow} : p ∈ t.masterRows ↔
    p.1 ∈ t.domains ∧ p.2 ∈ t.records ∧ p.1.kind = masterKind ∧ p.1.isSoa p.2 = true ∧
      p.2.isEnabled = true := by
  simp only [masterRows, List.mem_flatMap, List.mem_filter, List.mem_map, Bool.and_eq_true,
    beq_iff_eq]
  constructor
  · rintro ⟨r, ⟨hr, henabled⟩, d, ⟨hd, hsoa, hkind⟩, rfl⟩
    exact ⟨hd, hr, hkind, hsoa, henabled⟩
  · rintro ⟨hd, hr, hkind, hsoa, henabled⟩
    exact ⟨p.2, ⟨hr, henabled⟩, p.1, ⟨hd, hsoa, hkind⟩, rfl⟩

/-- Domains and records are without repetitions, so each pair is there once. -/
theorem nodup_masterRows (hunique : t.UniqueKeys) : t.masterRows.Nodup := by
  have hdomains : t.domains.Nodup := .of_map _ hunique.domainIds
  have hrecords : t.records.Nodup := .of_map _ hunique.recordIds
  rw [masterRows, List.nodup_flatMap]
  constructor
  · intro r _
    refine (hdomains.filter _).map ?_
    intro d e hpair
    exact congrArg Prod.fst hpair
  · refine (hrecords.filter _).imp ?_
    rintro r s hne p hr hs
    obtain ⟨d, -, rfl⟩ := List.mem_map.1 hr
    obtain ⟨e, -, hpair⟩ := List.mem_map.1 hs
    exact hne (congrArg Prod.snd hpair).symm

theorem nodup_masterSoas (hunique : t.UniqueKeys) : t.masterSoas.Nodup :=
  (hunique.domainIds.of_map.product hunique.recordIds.of_map).filter _

theorem masterRows_perm (hunique : t.UniqueKeys) (hkinds : t.KindsRead) :
    t.masterRows.Perm t.masterSoas := by
  rw [List.perm_ext_iff_of_nodup (nodup_masterRows hunique) (nodup_masterSoas hunique)]
  intro p
  rw [mem_masterRows, mem_masterSoas]
  refine and_congr_right fun hd => and_congr_right fun _ => and_congr_left fun _ => ?_
  rw [DomainRow.isMaster, beq_iff_eq, DomainKind.ofText_eq_master_iff (hkinds p.1 hd)]

/-- The tables after a notified serial was noted of a domain. -/
def noting (t : Tables) (id serial : Int) : Tables :=
  { t with
    domains := revise (fun d => holds (some d.id) (some id))
      (fun d => { d with notifiedSerial := some serial }) t.domains }

end Tables

/-- The domain after a notified serial was noted of the one with the given id. -/
def DomainRow.noting (d : DomainRow) (id serial : Int) : DomainRow :=
  if d.id = id then { d with notifiedSerial := some serial } else d

/-- The entry after a notified serial was noted of the domain with the given id. -/
def DomainInfo.noting (info : DomainInfo) (id serial : Int) : DomainInfo :=
  if info.id = id then { info with notifiedSerial := serial } else info

theorem Tables.domains_noting (t : Tables) (id serial : Int) :
    (t.noting id serial).domains = t.domains.map (·.noting id serial) := by
  refine List.map_congr_left fun d _ => ?_
  simp only [DomainRow.noting, holds_some_some, beq_iff_eq]

/-- Noting a serial changes neither the kind of a domain nor its SOA records. -/
theorem DomainRow.isSoa_noting (d : DomainRow) (id serial : Int) (r : RecordRow) :
    ((d.noting id serial).isSoa r && (d.noting id serial).kind == masterKind) =
      (d.isSoa r && d.kind == masterKind) := by
  rw [noting]
  split
  · rfl
  · rfl

theorem Tables.masterRows_noting (t : Tables) (id serial : Int) :
    (t.noting id serial).masterRows = t.masterRows.map fun p => (p.1.noting id serial, p.2) := by
  rw [masterRows, masterRows, List.map_flatMap, domains_noting]
  congr 1
  funext r
  simp only [List.filter_map, List.map_map]
  congr 1
  exact List.filter_congr fun d _ => d.isSoa_noting id serial r

namespace DomainInfo

variable {info : DomainInfo} {id serial : Int}

@[simp] theorem id_noting : (info.noting id serial).id = info.id := by
  rw [noting]
  split
  · rfl
  · rfl

theorem notifiedSerial_noting (h : info.id = id) :
    (info.noting id serial).notifiedSerial = serial := by
  rw [noting, if_pos h]

/-- The entries of other domains are as before. -/
theorem filter_noting (infos : List DomainInfo) (id serial : Int) :
    ((infos.map (·.noting id serial)).filter fun info => info.id ≠ id) =
      infos.filter fun info => info.id ≠ id := by
  rw [List.filter_map]
  have hsame : (infos.filter ((fun info => decide (info.id ≠ id)) ∘ (·.noting id serial))) =
      infos.filter fun info => info.id ≠ id := by
    refine List.filter_congr fun info _ => ?_
    simp only [Function.comp_apply, id_noting]
  rw [hsame]
  refine (List.map_congr_left fun info hinfo => ?_).trans (List.map_id _)
  have hother : info.id ≠ id := by simpa using (List.mem_filter.1 hinfo).2
  exact if_neg hother

end DomainInfo

theorem DomainInfo.ofMaster_noting (d : DomainRow) (n id serial : Int) :
    DomainInfo.ofMaster (d.noting id serial) n = (DomainInfo.ofMaster d n).noting id serial := by
  rw [DomainRow.noting, DomainInfo.noting]
  split
  next hid =>
    rw [if_pos (show (DomainInfo.ofMaster d n).id = id from hid)]
    rfl
  next hid =>
    rw [if_neg (show ¬ (DomainInfo.ofMaster d n).id = id from hid)]

namespace Backend

variable {b b' : Backend} {t t' : Tables}

/-- The entry for a master and its SOA record. -/
def masterEntry (p : DomainRow × RecordRow) : Except Fault DomainInfo :=
  (soaSerial p.2.text).map fun serial => DomainInfo.ofMaster p.1 serial

/-- The entries for the masters whose serial was not notified. -/
def arrangeMasters (infos : List DomainInfo) : List DomainInfo :=
  DomainInfo.sort (infos.filter fun info => info.serial ≠ info.notifiedSerial)

theorem run_updatedMasters_fst (hb : b.store.Calm) (hfree : b.HasFree)
    (ht : b.store.database.tables = some t) :
    (updatedMasters.run b).1 = (t.masterRows.mapM masterEntry).map arrangeMasters :=
  run_described_fst hb hfree ht t.rows_masterSerials masterEntry arrangeMasters

theorem mapM_masterEntry {rows : List (DomainRow × RecordRow)}
    (h : ∀ p ∈ rows, ¬ HasBadSerial p.2.text) :
    rows.mapM masterEntry = .ok (rows.map fun p => DomainInfo.ofMaster p.1 p.2.serial) := by
  rw [mapM_eq_ok_iff, List.forall₂_map_right_iff, List.forall₂_same]
  intro p hp
  rw [masterEntry, RecordRow.soaSerial_text (h p hp)]
  rfl

/-- Only a bad serial can make the entries fail. -/
theorem exists_bad_of_mapM_masterEntry {rows : List (DomainRow × RecordRow)} {fault : Fault}
    (h : rows.mapM masterEntry = .error fault) :
    (∃ p ∈ rows, HasBadSerial p.2.text) ∧ ∃ cause, fault = .integer cause := by
  obtain ⟨front, p, back, rfl, -, hp⟩ := mapM_eq_error_iff.1 h
  rw [masterEntry] at hp
  rcases soaSerial_cases p.2.text with ⟨-, n, hn⟩ | ⟨hbad, cause, hcause⟩
  · rw [hn] at hp
    cases hp
  · rw [hcause] at hp
    cases hp
    exact ⟨⟨p, List.mem_append_right front List.mem_cons_self, hbad⟩, cause, rfl⟩

/-- The entries are those of before, with what is noted. -/
theorem mapM_masterEntry_noting (rows : List (DomainRow × RecordRow)) (id serial : Int) :
    (rows.map fun p => (p.1.noting id serial, p.2)).mapM masterEntry =
      (rows.mapM masterEntry).map (List.map (·.noting id serial)) := by
  induction rows with
  | nil => rfl
  | cons p rest ih =>
    rw [List.map_cons, List.mapM_cons, List.mapM_cons, ih, masterEntry, masterEntry]
    cases soaSerial p.2.text with
    | error fault => rfl
    | ok n =>
      cases rest.mapM masterEntry with
      | error fault => rfl
      | ok infos =>
        simp only [Except.map, bind, Except.bind, pure, Except.pure, List.map_cons,
          DomainInfo.ofMaster_noting]

/-- What the list of masters tells in a state. -/
structure TellsMasters (b : Backend) (t : Tables) : Prop where
  /-- It fails exactly if there is a bad serial. -/
  fails : (∃ cause, (updatedMasters.run b).1 = .error (.integer cause)) ↔
    ∃ p ∈ t.masterSoas, HasBadSerial p.2.text
  /-- Otherwise it has an entry for each SOA record whose serial was not notified. -/
  lists : (∀ p ∈ t.masterSoas, ¬ HasBadSerial p.2.text) →
    ∃ infos, (updatedMasters.run b).1 = .ok infos ∧
      infos.Perm ((t.masterSoas.filter fun p => p.2.serial ≠ p.1.notifiedSerial.getD 0).map
        fun p => .ofMaster p.1 p.2.serial)

theorem tellsMasters (hb : b.store.Calm) (hfree : b.HasFree)
    (ht : b.store.database.tables = some t) (hunique : t.UniqueKeys) (hkinds : t.KindsRead) :
    b.TellsMasters t := by
  have hperm := Tables.masterRows_perm hunique hkinds
  have hrun := run_updatedMasters_fst hb hfree ht
  have hlists (hgood : ∀ p ∈ t.masterSoas, ¬ HasBadSerial p.2.text) :
      (updatedMasters.run b).1 =
        .ok (arrangeMasters (t.masterRows.map fun p => .ofMaster p.1 p.2.serial)) := by
    rw [hrun, mapM_masterEntry fun p hp => hgood p (hperm.mem_iff.1 hp)]
    rfl
  refine ⟨⟨?_, ?_⟩, ?_⟩
  · rintro ⟨cause, hcause⟩
    by_contra hnone
    rw [hlists fun p hp hbad => hnone ⟨p, hp, hbad⟩] at hcause
    cases hcause
  · rintro ⟨p, hp, hbad⟩
    cases hentries : t.masterRows.mapM masterEntry with
    | error fault =>
      obtain ⟨-, cause, rfl⟩ := exists_bad_of_mapM_masterEntry hentries
      rw [hrun, hentries]
      exact ⟨cause, rfl⟩
    | ok infos =>
      obtain ⟨info, -, hinfo⟩ := exists_of_mem_left (mapM_eq_ok_iff.1 hentries)
        (hperm.mem_iff.2 hp)
      rcases soaSerial_cases p.2.text with ⟨hgood, -⟩ | ⟨-, cause, hcause⟩
      · exact absurd hbad hgood
      · rw [masterEntry, hcause] at hinfo
        cases hinfo
  · intro hgood
    refine ⟨_, hlists hgood, (List.mergeSort_perm _ _).trans ?_⟩
    rw [List.filter_map]
    exact (hperm.filter _).map _

/-- What noting a serial of a domain changes of the list of masters. -/
structure NotesSerial (b b' : Backend) (id serial : Int) : Prop where
  /-- It fails exactly as before. -/
  fails : ∀ fault, (updatedMasters.run b').1 = .error fault ↔
    (updatedMasters.run b).1 = .error fault
  /-- Otherwise no entry of the domain has that serial, and the entries of other domains are those
  of before. -/
  lists : ∀ infos, (updatedMasters.run b).1 = .ok infos →
    ∃ infos', (updatedMasters.run b').1 = .ok infos' ∧
      (∀ info ∈ infos', ¬ (info.id = id ∧ info.serial = serial)) ∧
      (infos'.filter fun info => info.id ≠ id).Perm (infos.filter fun info => info.id ≠ id)

theorem notesSerial (hb : b.store.Calm) (hfree : b.HasFree)
    (ht : b.store.database.tables = some t) (hb' : b'.store.Calm) (hfree' : b'.HasFree)
    {id serial : Int}
    (ht' : b'.store.database.tables = some (t.noting id serial)) : b.NotesSerial b' id serial := by
  have hrun := run_updatedMasters_fst hb hfree ht
  have hrun' := run_updatedMasters_fst hb' hfree' ht'
  rw [t.masterRows_noting, mapM_masterEntry_noting] at hrun'
  cases hentries : t.masterRows.mapM masterEntry with
  | error fault =>
    rw [hentries] at hrun hrun'
    refine ⟨fun fault' => ?_, fun infos hinfos => ?_⟩
    · rw [hrun, hrun']
      rfl
    · cases hrun.symm.trans hinfos
  | ok entries =>
    rw [hentries] at hrun hrun'
    refine ⟨fun fault => ?_, fun infos hinfos => ?_⟩
    · rw [hrun, hrun']
      exact iff_of_false nofun nofun
    · obtain rfl := Except.ok.inj (hrun.symm.trans hinfos)
      refine ⟨_, hrun', ?_, ?_⟩
      · rintro info hinfo ⟨hid, hserial⟩
        obtain ⟨hinfo, hnew⟩ := List.mem_filter.1 (List.mem_mergeSort.1 hinfo)
        obtain ⟨entry, -, rfl⟩ := List.mem_map.1 hinfo
        rw [DomainInfo.id_noting] at hid
        rw [DomainInfo.notifiedSerial_noting hid, hserial] at hnew
        simp at hnew
      · have hsorted (infos : List DomainInfo) := ((List.mergeSort_perm
          (infos.filter fun info => info.serial ≠ info.notifiedSerial) fun a b =>
            (DomainInfo.order a b).isLE).filter fun info => info.id ≠ id)
        refine (hsorted _).trans (List.Perm.trans (.of_eq ?_) (hsorted entries).symm)
        rw [List.filter_comm, DomainInfo.filter_noting, List.filter_comm]

/-- A domain is described under its name. -/
theorem run_domainInfo?_fst (hb : b.store.Calm) (hfree : b.HasFree)
    (ht : b.store.database.tables = some t) (hunique : t.UniqueKeys) {d : DomainRow}
    (hd : d ∈ t.domains) :
    ((domainInfo? d.name).run b).1 = .ok (some (.ofRow d 0)) := by
  obtain ⟨b', hrun⟩ := run_fetch_bind_fst hb hfree ht (.domainInfo (some d.name)) fun rows =>
    pure (rows.head?.map fun row => DomainInfo.ofRow row 0)
  refine hrun.trans ?_
  have hid := Tables.domainId?_of_mem hunique.domains hd (Text.alike_self d.name)
  obtain ⟨e, he, hsame⟩ := Option.map_eq_some_iff.1 hid
  obtain rfl := List.inj_on_of_nodup_map hunique.domainIds (List.mem_of_find?_eq_some he) hd hsame
  simp only [Query.domainInfo, Query.selecting, List.head?_filter, he]
  rfl

/-- The list of masters to be notified, after every run of operations in which kinds are read from
texts and that leaves a connection free. A master is a domain that is described as one. The list
fails exactly if a master has an enabled SOA record with a third field that is no serial, and
otherwise has exactly one entry for each enabled SOA record of a master whose serial is not the one
last notified. Noting a serial takes the entries with it away from its domain, and leaves all others
as they are. -/
theorem masters_notified (connections : Nat) (dnssec : Bool) (hasher : Option Hasher)
    (ops : List AnyOperation) (hfree : (operated connections dnssec hasher ops).HasFree)
    (hkinds : ∀ op ∈ ops, ∀ kind, op.2.kind? = some kind → ∃ s, kind = .ofText s) :
    ∃ t, (operated connections dnssec hasher ops).store.database.tables = some t ∧
      (∀ d ∈ t.domains, ((domainInfo? d.name).run (operated connections dnssec hasher ops)).1 =
        .ok (some (.ofRow d 0))) ∧
      (operated connections dnssec hasher ops).TellsMasters t ∧
      ∀ id serial b',
        (setNotified id serial).run (operated connections dnssec hasher ops) = (.ok (), b') →
        (operated connections dnssec hasher ops).NotesSerial b' id serial := by
  obtain ⟨t, ht, -⟩ := records_whole connections dnssec hasher ops
  have hcalm := calm_operated connections dnssec hasher ops
  have hunique := (reachable_operated connections dnssec hasher ops).uniqueKeys ht
  have hread : t.KindsRead := by
    intro d hd
    obtain ⟨op, hop, kind, hkind, htext⟩ := kinds_operated ht d hd
    obtain ⟨s, rfl⟩ := hkinds op hop kind hkind
    exact ⟨s, htext⟩
  refine ⟨t, ht, fun d hd => run_domainInfo?_fst hcalm hfree ht hunique hd,
    tellsMasters hcalm hfree ht hunique hread, ?_⟩
  intro id serial b' hnoted
  obtain ⟨t', change, ht', happly, hafter⟩ :=
    exists_change_of_perform hcalm (congrArg Prod.fst hnoted)
  obtain rfl := Option.some.inj (ht.symm.trans ht')
  obtain rfl := Except.ok.inj happly
  have hcalm' : b'.store.Calm := by
    have hnext := calm_operated connections dnssec hasher (ops ++ [⟨Unit, .setNotified id serial⟩])
    rwa [operated_concat (.setNotified id serial) hnoted] at hnext
  have hfree' := (hasFree_of_perform hcalm (congrArg Prod.fst hnoted)).2
  rw [show (perform _).run _ = _ from hnoted] at hafter hfree'
  exact notesSerial hcalm hfree ht hcalm' hfree' hafter

/-- A run that creates a master and a slave, each with an SOA record. -/
def mastering : List AnyOperation :=
  [⟨Unit, .createDomain "example.com" (.ofText "master") [] ""⟩,
   ⟨Unit, .createDomain "example.net" (.ofText "slave") [] ""⟩,
   ⟨Unit, .startTransaction 7 0⟩,
   ⟨Unit, .feedRecord 7 (.plain 1 "example.com" "SOA" "ns hostmaster 5" 60) ""⟩,
   ⟨Unit, .feedRecord 7 (.plain 2 "example.net" "SOA" "ns hostmaster 9" 60) ""⟩,
   ⟨Unit, .commitTransaction 7⟩]

/-- The master is to be notified, until its serial is noted. -/
theorem masters_notified_mastering :
    (∃ infos, (updatedMasters.run (operated 8 false none mastering)).1 = .ok infos ∧
      infos.map (fun info => (info.zone, info.serial)) = [("example.com", 5)]) ∧
    ∃ infos, (updatedMasters.run ((setNotified 1 5).run (operated 8 false none mastering)).2).1 =
        .ok infos ∧
      ∀ info ∈ infos, ¬ (info.id = 1 ∧ info.serial = 5) := by
  have hkinds : ∀ op ∈ mastering, ∀ kind, op.2.kind? = some kind → ∃ s, kind = .ofText s := by
    intro op hop kind hkind
    simp only [mastering, List.mem_cons, List.not_mem_nil, or_false] at hop
    rcases hop with rfl | rfl | rfl | rfl | rfl | rfl
    · exact ⟨"master", (Option.some.inj hkind).symm⟩
    · exact ⟨"slave", (Option.some.inj hkind).symm⟩
    all_goals cases hkind
  obtain ⟨t, ht, -, htells, hnotes⟩ := masters_notified 8 false none mastering (by decide) hkinds
  obtain rfl := Option.some.inj (ht.symm.trans rfl)
  obtain ⟨infos, hinfos, hperm⟩ := htells.lists fun p hp => by
    obtain rfl := List.mem_singleton.1 hp
    exact not_hasBadSerial (n := 5) rfl
  obtain ⟨infos', hinfos', hnone, -⟩ := (hnotes 1 5 _ rfl).lists infos hinfos
  refine ⟨⟨infos, hinfos, List.perm_singleton.1 (hperm.map _)⟩, infos', hinfos', hnone⟩

end Backend

end ZoneStore
