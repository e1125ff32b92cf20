import ZoneStore.Proofs.Backend.RoundTrip
import ZoneStore.Proofs.Domain.UniqueKeys

/-!
# How often a domain is listed

The list of the domains comes from a join of each domain with the SOA records at its name, so it has
an entry for each of these records, or one for a domain without any (`Tables.timesListed`). Which
domains are listed is as asked for; but a domain with several SOA records at its name is listed
several times (`Backend.domains_listed`).
-/

set_option autoImplicit false

namespace ZoneStore

/-! ## Counting entries -/

section Counting

variable {α : Type} {rows : List α} {id : α → Int}

/-- Where the ids are unique, an id is there as often as its row asks for. -/
theorem count_flatMap_replicate (h : (rows.map id).Nodup) (times : α → Nat) {r : α} (hr : r ∈ rows) :
    (rows.flatMap fun s => List.replicate (times s) (id s)).count (id r) = times r := by
  induction rows with
  | nil => cases hr
  | cons s rest ih =>
    rw [List.map_cons, List.nodup_cons] at h
    rw [List.flatMap_cons, List.count_append, List.count_replicate]
    rcases List.mem_cons.1 hr with rfl | hr
    · have hrest : (rest.flatMap fun s => List.replicate (times s) (id s)).count (id r) = 0 := by
        rw [List.count_eq_zero]
        intro hmem
        obtain ⟨s, hs, hid⟩ := List.mem_flatMap.1 hmem
        exact h.1 (List.mem_map.2 ⟨s, hs, (List.eq_of_mem_replicate hid).symm⟩)
      rw [hrest, if_pos (beq_self_eq_true _), Nat.add_zero]
    · have hne : id s ≠ id r := fun heq => h.1 (heq ▸ List.mem_map_of_mem hr)
      rw [if_neg (by simpa using hne), Nat.zero_add, ih h.2 hr]

end Counting

namespace Tables

variable {t : Tables} {d : DomainRow}

/-- The SOA records of a domain. -/
def soasOf (t : Tables) (d : DomainRow) : List RecordRow := t.records.filter d.isSoa

/-- The SOA records under which a domain is listed; a domain without any is listed with nothing
where all domains are asked for. -/
def listedSoas (t : Tables) (includeDisabled : Bool) (d : DomainRow) : List (Option RecordRow) :=
  if includeDisabled && (t.soasOf d).isEmpty then [none]
  else ((t.soasOf d).filter fun r => r.isEnabled || includeDisabled).map some

/-- How often a domain is listed: once for each SOA record that counts, and at least once where all
domains are asked for. -/
def timesListed (t : Tables) (includeDisabled : Bool) (d : DomainRow) : Nat :=
  if includeDisabled then max 1 (t.soasOf d).length else (t.soasOf d).countP (·.isEnabled)

theorem listedSoas_ne_nil_iff {includeDisabled : Bool} : t.listedSoas includeDisabled d ≠ [] ↔
    includeDisabled = true ∨ ∃ r ∈ t.soasOf d, r.isEnabled = true := by
  rw [listedSoas]
  cases includeDisabled with
  | false => simp
  | true => cases t.soasOf d <;> simp

theorem length_listedSoas (t : Tables) (includeDisabled : Bool) (d : DomainRow) :
    (t.listedSoas includeDisabled d).length = t.timesListed includeDisabled d := by
  rw [listedSoas, timesListed]
  cases includeDisabled with
  | false => simp [List.countP_eq_length_filter]
  | true => cases t.soasOf d <;> simp

/-- The list goes through the domains, and for each of them through the SOA records under which it
is listed. -/
def listedDomains (t : Tables) (includeDisabled : Bool) : List (DomainRow × Option RecordRow) :=
  t.domains.flatMap fun d => (t.listedSoas includeDisabled d).map fun soa => (d, soa)

theorem rows_allDomains (t : Tables) (includeDisabled : Bool) :
    (Query.allDomains (some (storedBool includeDisabled))).rows t =
      .ok (t.listedDomains includeDisabled) := by
  simp only [Query.allDomains, Query.selecting, domainsWithSoa, isTrue_storedBool,
    List.filter_flatMap, listedDomains]
  congr 2
  funext d
  rw [listedSoas, soasOf]
  cases t.records.filter d.isSoa with
  | nil => cases includeDisabled <;> rfl
  | cons r rest =>
    rw [List.isEmpty_cons, Bool.and_false, if_neg Bool.false_ne_true, List.filter_map, List.map_map]
    rfl

end Tables

namespace Backend

variable {b : Backend} {t : Tables}

/-- A list of descriptions succeeds as its rows can be described, one after another. -/
theorem run_described_fst {ρ : Type} (hb : b.store.Calm) (hfree : b.HasFree)
    (ht : b.store.database.tables = some t) {q : Query ρ} {rows : List ρ} (hrows : q.rows t = .ok rows)
    (describe : ρ → Except Fault DomainInfo) (arrange : List DomainInfo → List DomainInfo) :
    ((do
      let rows ← fetch q
      let infos ← Action.ofExcept (rows.mapM describe)
      return arrange infos : BackendM (List DomainInfo)).run b).1 =
      (rows.mapM describe).map arrange := by
  obtain ⟨b', hrun⟩ := run_fetch_bind_fst hb hfree ht q fun rows => do
    let infos ← Action.ofExcept (rows.mapM describe)
    return arrange infos
  rw [hrows] at hrun
  refine hrun.trans ?_
  cases hinfos : rows.mapM describe with
  | error fault =>
    simp only [hinfos]
    rfl
  | ok infos =>
    simp only [hinfos]
    rfl

/-- What a list of domains has for each of them. -/
structure ListsDomains (t : Tables) (includeDisabled : Bool) (infos : List DomainInfo) : Prop where
  /-- Each entry describes a domain, with the serial of the SOA record under which it is listed. -/
  described : ∀ info ∈ infos, ∃ d ∈ t.domains, ∃ soa ∈ t.listedSoas includeDisabled d,
    serialOf soa = .ok info.serial ∧ info = .ofRow d info.serial
  /-- Which domains are listed. -/
  listed : ∀ d ∈ t.domains, (∃ info ∈ infos, info.id = d.id) ↔
    includeDisabled = true ∨ ∃ r ∈ t.soasOf d, r.isEnabled = true
  /-- How often a domain is listed. -/
  times : ∀ d ∈ t.domains,
    infos.countP (fun info => info.id = d.id) = t.timesListed includeDisabled d

/-- The entry for a domain and the SOA record under which it is listed. -/
def entryOf (p : DomainRow × Option RecordRow) : Except Fault DomainInfo :=
  (serialOf p.2).map fun serial => DomainInfo.ofRow p.1 serial

/-- The entry has the serial of the SOA record, and describes the domain. -/
structure DescribesRow (p : DomainRow × Option RecordRow) (info : DomainInfo) : Prop where
  serial : serialOf p.2 = .ok info.serial
  info : info = .ofRow p.1 info.serial

theorem DescribesRow.id {p : DomainRow × Option RecordRow} {info : DomainInfo}
    (h : DescribesRow p info) : p.1.id = info.id := by
  rw [h.info]
  rfl

theorem entryOf_eq_ok_iff {p : DomainRow × Option RecordRow} {info : DomainInfo} :
    entryOf p = .ok info ↔ DescribesRow p info := by
  refine Iff.trans (map_eq_ok_iff (x := serialOf p.2)) ⟨?_, ?_⟩
  · rintro ⟨serial, hserial, rfl⟩
    exact ⟨hserial, rfl⟩
  · intro h
    exact ⟨_, h.serial, h.info.symm⟩

theorem listsDomains_of_forall₂ (hunique : t.UniqueKeys) {includeDisabled : Bool}
    {infos : List DomainInfo}
    (h : List.Forall₂ DescribesRow (t.listedDomains includeDisabled) infos) :
    ListsDomains t includeDisabled infos := by
  have hids : infos.map DomainInfo.id =
      t.domains.flatMap fun d => List.replicate (t.timesListed includeDisabled d) d.id := by
    rw [← map_eq_map_iff_forall₂.2 (h.imp fun _ _ => DescribesRow.id), Tables.listedDomains,
      List.map_flatMap]
    congr 1
    funext d
    rw [List.map_map, ← t.length_listedSoas, ← List.map_const']
    rfl
  have htimes : ∀ d ∈ t.domains,
      infos.countP (fun info => info.id = d.id) = t.timesListed includeDisabled d := by
    intro d hd
    rw [← count_flatMap_replicate hunique.domainIds (t.timesListed includeDisabled) hd, ← hids,
      List.count, List.countP_map]
    rfl
  refine ⟨?_, ?_, htimes⟩
  · intro info hinfo
    obtain ⟨p, hp, hdescribes⟩ := exists_of_mem_right h hinfo
    obtain ⟨d, hd, hp⟩ := List.mem_flatMap.1 hp
    obtain ⟨soa, hsoa, rfl⟩ := List.mem_map.1 hp
    exact ⟨d, hd, soa, hsoa, hdescribes.serial, hdescribes.info⟩
  · intro d hd
    rw [← Tables.listedSoas_ne_nil_iff, ← List.length_pos_iff, t.length_listedSoas, ← htimes d hd,
      List.countP_pos_iff]
    simp

/-- The order of the entries does not matter. -/
theorem ListsDomains.of_perm {includeDisabled : Bool} {entries infos : List DomainInfo}
    (h : ListsDomains t includeDisabled entries) (hperm : infos.Perm entries) :
    ListsDomains t includeDisabled infos where
  described info hinfo := h.described info (hperm.mem_iff.1 hinfo)
  listed d hd := by
    rw [← h.listed d hd]
    simp only [hperm.mem_iff]
  times d hd := (hperm.countP_eq _).trans (h.times d hd)

theorem run_allDomains_fst (hb : b.store.Calm) (hfree : b.HasFree)
    (ht : b.store.database.tables = some t) (includeDisabled : Bool) :
    ((allDomains includeDisabled).run b).1 =
      ((t.listedDomains includeDisabled).mapM entryOf).map DomainInfo.sort :=
  run_described_fst hb hfree ht (t.rows_allDomains includeDisabled) entryOf DomainInfo.sort

theorem exists_allDomains_iff (hb : b.store.Calm) (ht : b.store.database.tables = some t)
    (includeDisabled : Bool) :
    (∃ infos, ((allDomains includeDisabled).run b).1 = .ok infos) ↔
      b.HasFree ∧ ∀ d ∈ t.domains, ∀ soa ∈ t.listedSoas includeDisabled d,
        ∃ serial, serialOf soa = .ok serial := by
  have hentries : (∃ entries, (t.listedDomains includeDisabled).mapM entryOf = .ok entries) ↔
      ∀ p ∈ t.listedDomains includeDisabled, ∃ info, entryOf p = .ok info := mapM_succeeds_iff
  constructor
  · rintro ⟨infos, hinfos⟩
    have hfree := hasFree_of_fetch_bind hinfos
    refine ⟨hfree, fun d hd soa hsoa => ?_⟩
    rw [run_allDomains_fst hb hfree ht] at hinfos
    obtain ⟨entries, hall, -⟩ := map_eq_ok_iff.1 hinfos
    have hlisted : (d, soa) ∈ t.listedDomains includeDisabled :=
      List.mem_flatMap.2 ⟨d, hd, List.mem_map_of_mem hsoa⟩
    obtain ⟨info, hinfo⟩ := hentries.1 ⟨entries, hall⟩ (d, soa) hlisted
    exact ⟨_, (entryOf_eq_ok_iff.1 hinfo).serial⟩
  · rintro ⟨hfree, hserials⟩
    have hall : ∀ p ∈ t.listedDomains includeDisabled, ∃ info, entryOf p = .ok info := by
      intro p hp
      obtain ⟨d, hd, hp⟩ := List.mem_flatMap.1 hp
      obtain ⟨soa, hsoa, rfl⟩ := List.mem_map.1 hp
      obtain ⟨serial, hserial⟩ := hserials d hd soa hsoa
      exact ⟨.ofRow d serial, entryOf_eq_ok_iff.2 ⟨hserial, rfl⟩⟩
    obtain ⟨entries, hmap⟩ := hentries.2 hall
    rw [run_allDomains_fst hb hfree ht]
    exact ⟨_, map_eq_ok_iff.2 ⟨entries, hmap, rfl⟩⟩

theorem listsDomains_of_run (hb : b.store.Calm) (ht : b.store.database.tables = some t)
    (hunique : t.UniqueKeys) {includeDisabled : Bool} {infos : List DomainInfo}
    (hinfos : ((allDomains includeDisabled).run b).1 = .ok infos) :
    ListsDomains t includeDisabled infos := by
  rw [run_allDomains_fst hb (hasFree_of_fetch_bind hinfos) ht] at hinfos
  obtain ⟨entries, hentries, rfl⟩ := map_eq_ok_iff.1 hinfos
  have hdescribed := (mapM_eq_ok_iff.1 hentries).imp fun _ _ => entryOf_eq_ok_iff.1
  exact (listsDomains_of_forall₂ hunique hdescribed).of_perm (List.mergeSort_perm _ _)

/-- The lists of domains, in every state that a run can reach. A list fails exactly if no connection
is free, or an SOA record under which a domain would be listed has no serial that can be read.
Otherwise it has the domains
that are asked for, each as often as it has SOA records that count: each of them once exactly if
none has several. -/
theorem domains_listed (b : Backend) (hreachable : b.Reachable) (includeDisabled : Bool) :
    ∃ t, b.store.database.tables = some t ∧
      ((∃ infos, ((allDomains includeDisabled).run b).1 = .ok infos) ↔
        b.HasFree ∧ ∀ d ∈ t.domains, ∀ soa ∈ t.listedSoas includeDisabled d,
          ∃ serial, serialOf soa = .ok serial) ∧
      ∀ infos, ((allDomains includeDisabled).run b).1 = .ok infos →
        ListsDomains t includeDisabled infos := by
  obtain ⟨j, hj⟩ := hreachable.matches
  obtain ⟨t, ht, -⟩ := hj.committed
  exact ⟨t, ht, exists_allDomains_iff hj.calm ht includeDisabled, fun infos hinfos =>
    listsDomains_of_run hj.calm ht (hreachable.uniqueKeys ht) hinfos⟩

/-- The SOA record of a domain. -/
def soaRecord (disabled : Bool) : ResourceRecord :=
  { ResourceRecord.plain 1 "example.org" "SOA"
      "ns1.example.org hostmaster.example.org 2024010101 10800 3600 604800 3600" 3600 with
    disabled := disabled }

/-- A backend with two domains. One has two SOA records, an enabled and a disabled one. -/
def spare : Backend :=
  operated 8 false none
    [⟨Unit, .createDomain "example.org" .native [] ""⟩,
     ⟨Unit, .createDomain "example.net" .native [] ""⟩,
     ⟨Unit, .startTransaction 7 0⟩,
     ⟨Unit, .feedRecord 7 (soaRecord false) ""⟩,
     ⟨Unit, .feedRecord 7 (soaRecord true) ""⟩,
     ⟨Unit, .commitTransaction 7⟩]

theorem exists_serial_spare {t : Tables} (ht : spare.store.database.tables = some t) :
    ∀ d ∈ t.domains, ∀ soa ∈ t.listedSoas true d, ∃ serial, serialOf soa = .ok serial := by
  obtain rfl := Option.some.inj (ht.symm.trans rfl)
  refine List.forall_mem_cons.2 ⟨?_, List.forall_mem_singleton.2 ?_⟩
  · exact List.forall_mem_cons.2 ⟨⟨2024010101, rfl⟩,
      List.forall_mem_singleton.2 ⟨2024010101, rfl⟩⟩
  · exact List.forall_mem_singleton.2 ⟨0, rfl⟩

/-- Both domains are listed, the one with two SOA records twice. -/
theorem domains_listed_spare :
    ∃ infos, ((allDomains true).run spare).1 = .ok infos ∧
      infos.countP (fun info => info.id = 1) = 2 ∧ infos.countP (fun info => info.id = 2) = 1 := by
  obtain ⟨t, ht, hsucceeds, hlists⟩ := domains_listed spare (reachable_operated 8 false none _) true
  obtain ⟨infos, hinfos⟩ := hsucceeds.2 ⟨by decide, exists_serial_spare ht⟩
  obtain rfl := Option.some.inj (ht.symm.trans rfl)
  have htimes := (hlists infos hinfos).times
  exact ⟨infos, hinfos, htimes _ List.mem_cons_self,
    htimes _ (List.mem_cons_of_mem _ List.mem_cons_self)⟩

/-- A domain with several SOA records is listed several times. -/
theorem domain_listed_twice :
    ¬ ∀ connections dnssec hasher ops t infos,
      (operated connections dnssec hasher ops).store.database.tables = some t →
      ((allDomains true).run (operated connections dnssec hasher ops)).1 = .ok infos →
      ∀ d ∈ t.domains, infos.countP (fun info => info.id = d.id) = 1 := by
  intro h
  have hcalm : spare.store.Calm := calm_operated 8 false none _
  have hunique := (reachable_operated 8 false none _ : spare.Reachable).uniqueKeys rfl
  obtain ⟨infos, hinfos⟩ := (exists_allDomains_iff hcalm rfl true).2
    ⟨by decide, exists_serial_spare rfl⟩
  have hlists := listsDomains_of_run hcalm rfl hunique hinfos
  cases (hlists.times _ List.mem_cons_self).symm.trans
    (h 8 false none _ _ infos rfl hinfos _ List.mem_cons_self)

end Backend

end ZoneStore
