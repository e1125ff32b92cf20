import ZoneStore.Proofs.Backend.RoundTrip
import ZoneStore.Proofs.Dnssec.MetadataEntries
import ZoneStore.Proofs.Domain.Orphans
import ZoneStore.Proofs.Domain.UniqueKeys
import ZoneStore.Proofs.Zone.OrderingChain

/-!
# The views of metadata agree

One reader has the database compare kinds by the collation, the other groups the values in a map
whose keys are the kinds as they are spelled. After every run of operations they tell the same, for
no kind of a domain ever stands in two spellings (`Backend.oneSpelling_operated`): metadata comes
into the database by replacements only, each of which takes every older spelling of its kind away
(`Backend.metadata_views`).
-/

set_option autoImplicit false

namespace ZoneStore

open Backend

/-! ## Where metadata comes from -/

theorem Mutation.addsMetadata_of_target {m : Mutation} (h : m.target ≠ .domainmetadata) :
    m.addsMetadata = false := by
  cases m with
  | addMetadata => exact absurd rfl h
  | _ => rfl

theorem Mutation.addsMetadata_of_removes {m : Mutation} (h : m.removes = true) :
    m.addsMetadata = false := by
  cases m with
  | addMetadata => cases h
  | _ => rfl

theorem Mutation.IsZoneUpdate.addsMetadata {m : Mutation} (h : m.IsZoneUpdate) :
    m.addsMetadata = false := by
  refine addsMetadata_of_target fun htarget => ?_
  rcases h.target with h | h <;> cases h.symm.trans htarget

/-- Run as a whole, the mutations leave the kinds of each domain in one spelling. -/
def KeepsSpellings (ms : List Mutation) : Prop :=
  ∀ t t' : Tables, t.OneSpelling → t.runAll ms = .ok t' → t'.OneSpelling

theorem keepsSpellings_of_addsMetadata {ms : List Mutation} (h : ∀ m ∈ ms, m.addsMetadata = false) :
    KeepsSpellings ms := fun _ _ ht hrun =>
  Tables.runAll_induction (fun m hm _ _ hu halters => hu.alters halters (h m hm)) ht hrun

/-- What an operation does at once keeps the spellings: only the replacement of a kind adds
metadata. -/
theorem Operation.keepsSpellings_of_atOnce {α : Type} (op : Operation α) {b : Backend}
    {ms : List Mutation} (h : op.deed b = .atOnce ms) : KeepsSpellings ms := by
  cases op with
  | setDomainMetadata name kind values =>
    cases h
    exact fun _ _ ht hrun => ht.metadataReplacement hrun
  | deleteDomain name =>
    refine keepsSpellings_of_addsMetadata fun m hm => ?_
    have hdeed : deedAfter (removalDeed name) ((Backend.domainId? name).run b).1 = .atOnce ms := h
    have hmem : m ∈ (deedAfter (removalDeed name) ((Backend.domainId? name).run b).1).mutations := by
      rw [hdeed]
      exact hm
    exact Mutation.addsMetadata_of_removes (removes_of_mem_removal hmem)
  | _ =>
    refine keepsSpellings_of_addsMetadata fun m hm => ?_
    have hwritten := target_of_atOnce _ h hm
    refine Mutation.addsMetadata_of_target fun htarget => ?_
    simp [written, htarget] at hwritten

namespace Backend

/-- After every run of operations the metadata kinds of each domain stand in one spelling. -/
theorem oneSpelling_operated {connections : Nat} {dnssec : Bool} {hasher : Option Hasher}
    {ops : List AnyOperation}
    {t : Tables} (ht : (operated connections dnssec hasher ops).store.database.tables = some t) :
    t.OneSpelling := by
  -- A single added value could bring in a second spelling, so it is whole blocks that keep this.
  have hblocks := forall_blocks_journalFrom (P := KeepsSpellings) .empty
    (fun ms hms => absurd hms List.not_mem_nil)
    (fun ms hms => keepsSpellings_of_addsMetadata fun m hm => (hms m hm).addsMetadata)
    (fun op _ _ => op.2.keepsSpellings_of_atOnce) (on (.on .empty connections) dnssec hasher) ops
  have hmatches := ((Journal.Matches.on_empty connections dnssec hasher).after
    (ops.map AnyOperation.step)).1
  exact Tables.runAll_flatten_induction hblocks Tables.oneSpelling_empty (hmatches.runAll_blocks ht)

/-! ## The readers -/

variable {t : Tables}

theorem answers_domainMetadata (t : Tables) (name kind : String) :
    Answers t (domainMetadata name kind) ((t.metadataUnder name).valuesOf kind) := by
  rw [Tables.metadataUnder, ← Tables.map_filter_isMetadataOfKind]
  exact answers_fetch_map (q := .metadataOfKind (some name) (some kind)) rfl
    fun rows => rows.map fun row => row.content.getD ""

theorem answers_allDomainMetadata (hkinds : ∀ m ∈ t.metadata, ∃ kind, m.kind = some kind)
    (name : String) :
    Answers t (allDomainMetadata name) (collectKinds (t.metadataUnder name)) := by
  intro b hb hfree ht
  have hread := run_readRows_fst hb hfree ht (.allMetadata (some name)) MetadataRow.entry collectKinds
  have hrows : ((Query.allMetadata (some name)).rows t >>= fun rows =>
      rows.mapM MetadataRow.entry) = .ok (t.metadataUnder name) :=
    MetadataRow.mapM_entry fun m hm => hkinds m (List.mem_of_mem_filter hm)
  rw [hrows] at hread
  exact hread

section Views

variable {connections : Nat} {dnssec : Bool} {hasher : Option Hasher} {ops : List AnyOperation}

theorem run_domainMetadata_fst (hfree : (operated connections dnssec hasher ops).HasFree)
    (ht : (operated connections dnssec hasher ops).store.database.tables = some t)
    (name kind : String) :
    ((domainMetadata name kind).run (operated connections dnssec hasher ops)).1 =
      .ok ((t.metadataUnder name).valuesOf kind) :=
  answers_domainMetadata t name kind _ (calm_operated connections dnssec hasher ops) hfree ht

theorem run_allDomainMetadata_fst (hfree : (operated connections dnssec hasher ops).HasFree)
    (ht : (operated connections dnssec hasher ops).store.database.tables = some t) (name : String) :
    ((allDomainMetadata name).run (operated connections dnssec hasher ops)).1 =
      .ok (collectKinds (t.metadataUnder name)) := by
  obtain ⟨t', ht', hall⟩ := allWritten_operated connections dnssec hasher ops
  obtain rfl := Option.some.inj (ht.symm.trans ht')
  exact answers_allDomainMetadata hall.toWritten.metadata name _
    (calm_operated connections dnssec hasher ops) hfree ht

/-- Both views of the metadata of a domain can be read, and tell the same. -/
structure ViewsAgree (b : Backend) (name : String) (full : TextMap (List String))
    (values : String → List String) : Prop where
  whole : ((allDomainMetadata name).run b).1 = .ok full
  ofKind : ∀ kind, ((domainMetadata name kind).run b).1 = .ok (values kind)
  /-- No two keys are one kind. -/
  distinct : full.keys.Pairwise fun k l => Text.alike k l = false
  /-- Under each key stand the values of the kind. -/
  agree : ∀ k ∈ full.keys, full.find? k = some (values k)
  /-- A kind has values exactly if some key is like it. -/
  empty : ∀ kind, values kind = [] ↔ ∀ k ∈ full.keys, Text.alike k kind = false

theorem viewsAgree_operated (hfree : (operated connections dnssec hasher ops).HasFree)
    (ht : (operated connections dnssec hasher ops).store.database.tables = some t) (name : String) :
    (operated connections dnssec hasher ops).ViewsAgree name (collectKinds (t.metadataUnder name))
      (t.metadataUnder name).valuesOf where
  whole := run_allDomainMetadata_fst hfree ht name
  ofKind := run_domainMetadata_fst hfree ht name
  distinct := (oneSpelling_operated ht _).pairwise_keys
  agree _ hk := (oneSpelling_operated ht _).find?_collectKinds hk
  empty _ := MetadataEntries.valuesOf_eq_nil_iff_keys

end Views

end Backend

/-! ## Setting the values of a kind -/

namespace Tables

variable {t t' : Tables} {name kind : String} {values : List String}

/-- The tables differ at most in the values of a kind of the domain of a name. -/
structure KeepsOtherKinds (t t' : Tables) (name kind : String) : Prop where
  tables : t' = { t with metadata := t'.metadata }
  rows : without (isMetadataOfKind (t.domainId? (some name)) kind) t'.metadata =
    without (isMetadataOfKind (t.domainId? (some name)) kind) t.metadata
  values : ∀ name' kind', (Text.alike name' name = true → Text.alike kind' kind = false) →
    (t'.metadataUnder name').valuesOf kind' = (t.metadataUnder name').valuesOf kind'
  keys : ∀ name' k, (Text.alike name' name = true → Text.alike k kind = false) →
    (collectKinds (t'.metadataUnder name')).find? k = (collectKinds (t.metadataUnder name')).find? k

theorem KeepsOtherKinds.refl (t : Tables) (name kind : String) : t.KeepsOtherKinds t name kind :=
  ⟨rfl, rfl, fun _ _ _ => rfl, fun _ _ _ => rfl⟩

namespace ReplacesKind

variable {id : Int} {added : List MetadataRow} (h : t.ReplacesKind t' name kind values id added)
include h

theorem domainId?_eq (name' : String) : t'.domainId? (some name') = t.domainId? (some name') := by
  rw [h.tables]
  rfl

/-- The domain has the new values in place of those of the kind, in whatever spelling its name is
given. -/
theorem metadataUnder_of_alike {name' : String} (hname : Text.alike name' name = true) :
    t'.metadataUnder name' = (t.metadataUnder name').replace kind values := by
  rw [metadataUnder, metadataUnder, h.domainId?_eq, domainId?_congr hname, h.domain]
  exact h.metadataEntries_self

/-- Every other domain has the entries that it had. -/
theorem metadataUnder_of_not_alike (hunique : t.UniqueKeys) {name' : String}
    (hname : Text.alike name' name = false) : t'.metadataUnder name' = t.metadataUnder name' := by
  rw [metadataUnder, metadataUnder, h.domainId?_eq]
  apply h.metadataEntries_of_ne
  intro hsame
  cases hname.symm.trans (hunique.alike_of_domainId? hsame h.domain)

theorem keepsOtherKinds (hunique : t.UniqueKeys) : t.KeepsOtherKinds t' name kind where
  tables := by
    rw [h.tables]
  rows := by
    rw [h.domain]
    exact h.without_eq
  values name' kind' hother := by
    cases hname : Text.alike name' name with
    | false => rw [h.metadataUnder_of_not_alike hunique hname]
    | true =>
      rw [h.metadataUnder_of_alike hname]
      exact MetadataEntries.valuesOf_replace_of_not_alike (hother hname)
  keys name' k hother := by
    cases hname : Text.alike name' name with
    | false => rw [h.metadataUnder_of_not_alike hunique hname]
    | true =>
      rw [h.metadataUnder_of_alike hname]
      exact MetadataEntries.find?_collectKinds_replace (hother hname)

end ReplacesKind

end Tables

namespace Backend

variable {b : Backend} {t : Tables}

theorem neverRefused_metadataReplacement (name kind : String) (values : List String) :
    ∀ m ∈ metadataReplacement name kind values, m.NeverRefused := by
  intro m hm
  rcases List.mem_cons.1 hm with rfl | hm
  · exact fun _ => ⟨_, rfl⟩
  · obtain ⟨value, -, rfl⟩ := List.mem_map.1 hm
    exact fun _ => ⟨_, rfl⟩

/-- What setting the values of a metadata kind of a domain leaves of the tables `t`. -/
structure SetsMetadata (b : Backend) (t : Tables) (name kind : String) (values : List String)
    (after : Except Fault Unit × Backend) : Prop where
  /-- It succeeds if no transaction is the writer. -/
  succeeds : (∀ h c, b.transaction? h = some c → c.isWriter = false) → after.1 = .ok ()
  /-- A failure changes nothing. -/
  failed : ∀ fault, after.1 = .error fault → after.2.store.database.tables = some t
  /-- Without a domain of the name nothing changes. -/
  unknown : (∀ d ∈ t.domains, Text.alike d.name name = false) →
    after.2.store.database.tables = some t
  /-- Each spelling of the name and the kind leads to the values as they were given. -/
  readBack : after.1 = .ok () → (∃ d ∈ t.domains, Text.alike d.name name = true) →
    ∀ name' kind', Text.alike name' name = true → Text.alike kind' kind = true →
      ((domainMetadata name' kind').run after.2).1 = .ok values
  /-- The whole map has the kind as it was spelled, if there are values. -/
  spelling : after.1 = .ok () → (∃ d ∈ t.domains, Text.alike d.name name = true) →
    ∀ name', Text.alike name' name = true → ∃ full,
      ((allDomainMetadata name').run after.2).1 = .ok full ∧ (kind ∈ full.keys ↔ values ≠ [])
  /-- Other kinds, and all kinds of other domains, have the values that they had. -/
  otherValues : ∀ name' kind', (Text.alike name' name = true → Text.alike kind' kind = false) →
    ((domainMetadata name' kind').run after.2).1 = ((domainMetadata name' kind').run b).1
  /-- They stand in the whole map as they stood there. -/
  otherKeys : ∀ name', ∃ full full', ((allDomainMetadata name').run b).1 = .ok full ∧
    ((allDomainMetadata name').run after.2).1 = .ok full' ∧
    ∀ k, (Text.alike name' name = true → Text.alike k kind = false) → full'.find? k = full.find? k
  /-- No other row is touched, no transaction and no lock. -/
  rows : ∃ t', after.2.store.database.tables = some t' ∧ t' = { t with metadata := t'.metadata } ∧
    without (Tables.isMetadataOfKind (t.domainId? (some name)) kind) t'.metadata =
      without (Tables.isMetadataOfKind (t.domainId? (some name)) kind) t.metadata
  transactions : after.2.transaction? = b.transaction?
  locked : after.2.store.database.locked = b.store.database.locked

/-- In the signing mode setting the values of a kind succeeds if no transaction is the writer. -/
theorem Quiet.setDomainMetadata (h : b.Quiet t) (hmode : b.dnssec = true) (name kind : String)
    (values : List String) : ((setDomainMetadata name kind values).run b).1 = .ok () := by
  rw [Backend.setDomainMetadata, run_guarded_of_true hmode]
  exact (h.atomically (neverRefused_metadataReplacement name kind values)).1

/-- Whatever the outcome is, other kinds and domains are kept; and if it succeeds on an existing
domain, new rows stand in place of those of the kind. -/
theorem exists_tables_setDomainMetadata (hb : b.store.Calm)
    (ht : b.store.database.tables = some t) (hunique : t.UniqueKeys) (name kind : String)
    (values : List String) :
    ∃ t', ((setDomainMetadata name kind values).run b).2.store.database.tables = some t' ∧
      t.KeepsOtherKinds t' name kind ∧
      (t.domainId? (some name) = none → t' = t) ∧
      (((setDomainMetadata name kind values).run b).1 = .ok () →
        t.domainId? (some name) ≠ none →
          ∃ id added, t.ReplacesKind t' name kind values id added) := by
  have hall := allOrNothing_setDomainMetadata hb name kind values
  cases houtcome : ((setDomainMetadata name kind values).run b).1 with
  | error fault =>
    exact ⟨t, (hall.failed fault houtcome).trans ht, .refl t name kind, fun _ => rfl, nofun⟩
  | ok =>
    obtain ⟨u, t', hu, ht', hrun⟩ := hall.done () houtcome
    obtain rfl := Option.some.inj (hu.symm.trans ht)
    refine ⟨t', ht', ?_⟩
    rcases Tables.metadataReplacement_cases hrun with ⟨hnone, rfl⟩ | ⟨id, added, hreplaces⟩
    · exact ⟨.refl _ name kind, fun _ => rfl, fun _ hsome => absurd hnone hsome⟩
    · refine ⟨hreplaces.keepsOtherKinds hunique, fun hnone => ?_, fun _ _ => ⟨id, added, hreplaces⟩⟩
      cases hnone.symm.trans hreplaces.domain

theorem setsMetadata_operated {connections : Nat} {hasher : Option Hasher} {ops : List AnyOperation}
    (hfree : (operated connections true hasher ops).HasFree)
    (ht : (operated connections true hasher ops).store.database.tables = some t)
    (name kind : String) (values : List String) :
    (operated connections true hasher ops).SetsMetadata t name kind values
      ((setDomainMetadata name kind values).run (operated connections true hasher ops)) := by
  have hcalm := calm_operated connections true hasher ops
  have hreach := reachable_operated connections true hasher ops
  have hall := allOrNothing_setDomainMetadata hcalm name kind values
  obtain ⟨t', ht', hkeeps, hunknown, hreplaces⟩ :=
    exists_tables_setDomainMetadata hcalm ht (hreach.uniqueKeys ht) name kind values
  have hsucceeds : (∀ h c, (operated connections true hasher ops).transaction? h = some c →
      c.isWriter = false) →
      ((setDomainMetadata name kind values).run (operated connections true hasher ops)).1 = .ok () := by
    intro hquiet
    obtain ⟨u, hu⟩ := hreach.quiet hfree hquiet
    exact hu.setDomainMetadata (dnssec_operated connections true hasher ops) name kind values
  have hknown (hexists : ∃ d ∈ t.domains, Text.alike d.name name = true) :
      t.domainId? (some name) ≠ none := by
    obtain ⟨d, hd, halike⟩ := hexists
    intro hnone
    cases halike.symm.trans (Tables.domainId?_eq_none_iff.1 hnone d hd)
  -- What comes after the call is a run of operations again, so that it can be read.
  rcases hrun : (setDomainMetadata name kind values).run (operated connections true hasher ops) with
    ⟨outcome, b'⟩
  rw [hrun] at hall ht' hreplaces hsucceeds
  have hfree' : b'.HasFree := Nat.lt_of_lt_of_eq hfree hall.free.symm
  obtain rfl := operated_concat (.setDomainMetadata name kind values) hrun
  have hvalues := run_domainMetadata_fst hfree ht
  have hvalues' := run_domainMetadata_fst hfree' ht'
  have hwhole := run_allDomainMetadata_fst hfree ht
  have hwhole' := run_allDomainMetadata_fst hfree' ht'
  constructor
  case succeeds => exact hsucceeds
  case failed =>
    intro fault hfault
    exact (hall.failed fault hfault).trans ht
  case unknown =>
    intro hnone
    rw [ht', hunknown (Tables.domainId?_eq_none_iff.2 hnone)]
  case readBack =>
    intro hok hexists name' kind' hname hkind
    obtain ⟨id, added, h⟩ := hreplaces hok (hknown hexists)
    rw [hvalues', h.metadataUnder_of_alike hname,
      MetadataEntries.valuesOf_replace_of_alike hkind]
  case spelling =>
    intro hok hexists name' hname
    obtain ⟨id, added, h⟩ := hreplaces hok (hknown hexists)
    refine ⟨_, hwhole' name', ?_⟩
    rw [h.metadataUnder_of_alike hname]
    exact MetadataEntries.mem_keys_collectKinds_replace
  case otherValues =>
    intro name' kind' hother
    rw [hvalues', hvalues, hkeeps.values name' kind' hother]
  case otherKeys =>
    intro name'
    exact ⟨_, _, hwhole name', hwhole' name', fun k hother => hkeeps.keys name' k hother⟩
  case rows => exact ⟨t', ht', hkeeps.tables, hkeeps.rows⟩
  case transactions => exact transaction?_congr (fun _ => by rw [hall.registry]) hall.held
  case locked => exact hall.locked

/-- After every run of operations that leaves a connection free and for every name, the keys of the
whole map of metadata are pairwise different kinds, under each of them stand the values that are
read for it, and a kind has no value exactly if no key is like it. In the signing mode, setting the
values of a kind leaves exactly these values, under every spelling of the name and the kind, and the
kind in the whole map as it was spelled, if there are values; other kinds and domains are as before,
and without a domain of the name nothing changes. -/
theorem metadata_views (connections : Nat) (dnssec : Bool) (hasher : Option Hasher)
    (ops : List AnyOperation) (hfree : (operated connections dnssec hasher ops).HasFree) :
    ∃ t, (operated connections dnssec hasher ops).store.database.tables = some t ∧
      (∀ name, ∃ full values, (operated connections dnssec hasher ops).ViewsAgree name full values) ∧
      (dnssec = true → ∀ name kind values,
        (operated connections dnssec hasher ops).SetsMetadata t name kind values
          ((setDomainMetadata name kind values).run (operated connections dnssec hasher ops))) := by
  obtain ⟨t, ht, -⟩ := records_whole connections dnssec hasher ops
  refine ⟨t, ht, fun name => ⟨_, _, viewsAgree_operated hfree ht name⟩, ?_⟩
  rintro rfl
  exact setsMetadata_operated hfree ht

/-- A domain has two kinds of metadata. -/
def described : List AnyOperation :=
  [⟨Unit, .createDomain "example.org" .native [] ""⟩,
   ⟨Unit, .setDomainMetadata "example.org" "ALLOW-AXFR-FROM" ["192.0.2.1"]⟩,
   ⟨Unit, .setDomainMetadata "example.org" "PRESIGNED" ["1"]⟩]

/-- One of them is set again in another spelling, to values that repeat and are empty. -/
theorem metadata_views_described :
    let after := (setDomainMetadata "Example.ORG" "Allow-AXFR-From" ["b", "", "b"]).run
      (operated 8 true none described)
    after.1 = .ok () ∧
      ((domainMetadata "EXAMPLE.org" "allow-axfr-from").run after.2).1 = .ok ["b", "", "b"] ∧
      ((domainMetadata "example.org" "presigned").run after.2).1 = .ok ["1"] ∧
      ∃ full, ((allDomainMetadata "example.org").run after.2).1 = .ok full ∧
        "Allow-AXFR-From" ∈ full.keys := by
  intro after
  obtain ⟨t, ht, -, hsets⟩ := metadata_views 8 true none described (by decide)
  have hset := hsets rfl "Example.ORG" "Allow-AXFR-From" ["b", "", "b"]
  have hok : after.1 = .ok () := hset.succeeds fun h c hc => by cases h <;> cases hc
  have hexists : ∃ d ∈ t.domains, Text.alike d.name "Example.ORG" = true := by
    obtain rfl := Option.some.inj (ht.symm.trans rfl)
    exact ⟨_, List.mem_cons_self, by decide⟩
  refine ⟨hok, hset.readBack hok hexists _ _ (by decide) (by decide), ?_, ?_⟩
  · rw [hset.otherValues "example.org" "presigned" fun _ => by decide]
    rfl
  · obtain ⟨full, hfull, hkey⟩ := hset.spelling hok hexists "example.org" (by decide)
    exact ⟨full, hfull, hkey.2 (by decide)⟩

end Backend

end ZoneStore
