import Mathlib.Data.List.Nodup
import ZoneStore.Domain.Administration
import ZoneStore.Proofs.Table.Alterations

/-!
# Rows that belong to domains

Keys and metadata belong to existing domains (`Tables.KeysOwned`), and so do records and comments
(`Tables.ZonesOwned`). Keys and metadata are added to a domain by its name, so no mutation but the
removal of a domain could leave one without its domain; records and comments are added under any id,
so their ids have to be those of domains. The removal of a domain as a whole leaves no orphan, since
names are unique: the rows of the domain are found by its name or by the id that goes with it
(`Tables.KeysOwned.removal`, `Tables.ZonesOwned.removal`).
-/

set_option autoImplicit false

namespace ZoneStore

namespace Tables

/-- The ids of the existing domains. -/
def domainIds (t : Tables) : List Int := t.domains.map DomainRow.id

/-- No two domains have names that are alike, and keys and metadata belong to existing domains. -/
structure KeysOwned (t : Tables) : Prop where
  names : (t.domains.map fun d => Text.collationKey d.name).Nodup
  keys : ∀ k ∈ t.keys, k.domainId ∈ t.domainIds
  metadata : ∀ m ∈ t.metadata, m.domainId ∈ t.domainIds

/-- Records and comments belong to existing domains. -/
structure ZonesOwned (t : Tables) : Prop where
  records : ∀ r ∈ t.records, ∃ zone, r.domainId = some zone ∧ zone ∈ t.domainIds
  comments : ∀ c ∈ t.comments, c.domainId ∈ t.domainIds

theorem keysOwned_empty : Tables.empty.KeysOwned :=
  ⟨List.nodup_nil, fun _ h => absurd h List.not_mem_nil, fun _ h => absurd h List.not_mem_nil⟩

theorem zonesOwned_empty : Tables.empty.ZonesOwned :=
  ⟨fun _ h => absurd h List.not_mem_nil, fun _ h => absurd h List.not_mem_nil⟩

end Tables

/-- The id under which a mutation adds a record or a comment. -/
def Mutation.zone? : Mutation → Option Int
  | insertRecord row => row.domainId
  | insertEmptyNonTerminal zone _ _ _ => zone
  | insertComment zone _ _ _ _ _ => zone
  | _ => none

theorem Mutation.zone?_of_newRecord? {m : Mutation} {row : RecordRow}
    (h : m.newRecord? = some row) : m.zone? = row.domainId := by
  cases m with
  | insertRecord =>
    cases h
    rfl
  | insertEmptyNonTerminal =>
    cases h
    rfl
  | _ => cases h

namespace Tables

variable {t t' : Tables} {m : Mutation} {id : Int} {name : String}

theorem isNamed_iff {d : DomainRow} :
    d.isNamed (some name) = true ↔ Text.collationKey d.name = Text.collationKey name :=
  Text.alike_iff

/-- Whether a row has a name does not depend on the case in which it is given. -/
theorem isNamed_congr {other : String} (h : Text.alike name other = true) (d : DomainRow) :
    d.isNamed (some name) = d.isNamed (some other) := by
  rw [Bool.eq_iff_iff, isNamed_iff, isNamed_iff, Text.alike_iff.1 h]

theorem domainId?_congr {other : String} (h : Text.alike name other = true) :
    t.domainId? (some name) = t.domainId? (some other) := by
  simp only [domainId?, isNamed_congr h]

/-- No id is found exactly where no domain has the name. -/
theorem domainId?_eq_none_iff :
    t.domainId? (some name) = none ↔ ∀ d ∈ t.domains, Text.alike d.name name = false := by
  rw [domainId?, Option.map_eq_none_iff, List.find?_eq_none]
  simp only [Bool.not_eq_true]
  rfl

/-- The domain of a name exists. -/
theorem mem_domainIds_of_domainId? {name : Option String} (h : t.domainId? name = some id) :
    id ∈ t.domainIds := by
  obtain ⟨d, hd, rfl⟩ := Option.map_eq_some_iff.1 h
  exact List.mem_map_of_mem (List.mem_of_find?_eq_some hd)

/-- Names being unique, a domain is the one that is found under its name. -/
theorem domainId?_of_mem (hnames : (t.domains.map fun d => Text.collationKey d.name).Nodup)
    {d : DomainRow} (hd : d ∈ t.domains) (hname : d.isNamed (some name) = true) :
    t.domainId? (some name) = some d.id := by
  have hfound : (t.domains.find? (·.isNamed (some name))).isSome :=
    List.find?_isSome.2 ⟨d, hd, hname⟩
  obtain ⟨e, he⟩ := Option.isSome_iff_exists.1 hfound
  have hnamed : e.isNamed (some name) = true := by simpa using List.find?_some he
  have hsame : Text.collationKey e.name = Text.collationKey d.name :=
    (isNamed_iff.1 hnamed).trans (isNamed_iff.1 hname).symm
  have hed : e = d := List.inj_on_of_nodup_map hnames (List.mem_of_find?_eq_some he) hd hsame
  rw [domainId?, he, hed]
  rfl

/-- Names stay unique where a domain is added under a free one. -/
theorem nodup_names_append (hnames : (t.domains.map fun d => Text.collationKey d.name).Nodup)
    {row : DomainRow} (hfree : t.domains.any (·.isNamed (some row.name)) = false) :
    ((t.domains ++ [row]).map fun d => Text.collationKey d.name).Nodup := by
  rw [List.map_append, List.nodup_append]
  refine ⟨hnames, List.nodup_singleton _, ?_⟩
  rintro a ha b hb rfl
  -- A domain of that name would have refused the new one.
  obtain ⟨d, hd, hda⟩ := List.mem_map.1 ha
  have hnamed : d.isNamed (some row.name) = true :=
    isNamed_iff.2 (hda.trans (List.mem_singleton.1 hb))
  exact List.any_eq_false.1 hfree d hd hnamed

/-! ## Single mutations -/

/-- No domain is lost but by the deletion of its row. -/
theorem domainIds_subset_of_alters (hm : m.Alters t t') (hkeep : ∀ name, m ≠ .deleteDomain name) :
    t.domainIds ⊆ t'.domainIds := by
  cases hm with
  | addDomain =>
    intro id hid
    unfold domainIds
    rw [List.map_append]
    exact List.mem_append_left _ hid
  | reviseDomains m p f hid =>
    unfold domainIds
    rw [map_revise hid]
    exact List.Subset.refl _
  | removeDomain name => exact absurd rfl (hkeep name)
  | _ => exact List.Subset.refl _

theorem KeysOwned.of_subset {domains : List DomainRow} (h : t.KeysOwned)
    (hnames : (domains.map fun d => Text.collationKey d.name).Nodup)
    (hids : t.domainIds ⊆ domains.map DomainRow.id) : KeysOwned { t with domains := domains } :=
  ⟨hnames, fun k hk => hids (h.keys k hk), fun m hm => hids (h.metadata m hm)⟩

/-- Keys and metadata are added to existing domains, and keep to them. -/
theorem KeysOwned.alters (h : t.KeysOwned) (hm : m.Alters t t')
    (hkeep : ∀ name, m ≠ .deleteDomain name) : t'.KeysOwned := by
  have hids := domainIds_subset_of_alters hm hkeep
  cases hm with
  | addDomain kind name masters account hfree =>
    exact h.of_subset (nodup_names_append h.names hfree) hids
  | reviseDomains m p f hid hname =>
    exact h.of_subset (nodup_revise h.names fun d => congrArg Text.collationKey (hname d)) hids
  | removeDomain name => exact absurd rfl (hkeep name)
  | addMetadata kind content hdomain =>
    refine ⟨h.names, h.keys, fun row hrow => ?_⟩
    rcases List.mem_append.1 hrow with hrow | hrow
    · exact h.metadata row hrow
    · obtain rfl := List.mem_singleton.1 hrow
      exact mem_domainIds_of_domainId? hdomain
  | removeMetadata m p =>
    exact ⟨h.names, h.keys, fun row hrow => h.metadata row (mem_without.1 hrow).1⟩
  | addKey flags active published content hdomain =>
    refine ⟨h.names, fun row hrow => ?_, h.metadata⟩
    rcases List.mem_append.1 hrow with hrow | hrow
    · exact h.keys row hrow
    · obtain rfl := List.mem_singleton.1 hrow
      exact mem_domainIds_of_domainId? hdomain
  | reviseKeys m p f hmarks =>
    refine ⟨h.names, fun row hrow => ?_, h.metadata⟩
    obtain ⟨k, hk, rfl | rfl⟩ := exists_of_mem_revise hrow
    · exact h.keys row hk
    · obtain ⟨active, published, hmarked⟩ := hmarks k
      rw [hmarked]
      exact h.keys k hk
  | removeKeys m p => exact ⟨h.names, fun row hrow => h.keys row (mem_without.1 hrow).1, h.metadata⟩
  | _ => exact ⟨h.names, h.keys, h.metadata⟩

/-- Records and comments that are added under the ids of existing domains belong to them. -/
theorem ZonesOwned.alters (h : t.ZonesOwned) (hm : m.Alters t t')
    (hkeep : ∀ name, m ≠ .deleteDomain name)
    (hzone : ∀ zone, m.zone? = some zone → zone ∈ t.domainIds)
    (hnew : ∀ row, m.newRecord? = some row → ∃ zone, row.domainId = some zone) :
    t'.ZonesOwned := by
  have hids := domainIds_subset_of_alters hm hkeep
  cases hm with
  | addRecord hrow =>
    refine ⟨fun r hr => ?_, h.comments⟩
    rcases List.mem_append.1 hr with hr | hr
    · exact h.records r hr
    · obtain rfl := List.mem_singleton.1 hr
      obtain ⟨zone, hdomain⟩ := hnew _ hrow
      exact ⟨zone, hdomain, hzone zone ((Mutation.zone?_of_newRecord? hrow).trans hdomain)⟩
  | removeRecords m p => exact ⟨fun r hr => h.records r (mem_without.1 hr).1, h.comments⟩
  | reorderRecords zone name type change auth p =>
    refine ⟨fun r hr => ?_, h.comments⟩
    obtain ⟨s, hs, rfl | rfl⟩ := exists_of_mem_revise hr
    · exact h.records r hs
    · exact h.records s hs
  | addComment zone name type modifiedAt account comment =>
    refine ⟨h.records, fun c hc => ?_⟩
    rcases List.mem_append.1 hc with hc | hc
    · exact h.comments c hc
    · obtain rfl := List.mem_singleton.1 hc
      exact hzone zone rfl
  | removeComments m p => exact ⟨h.records, fun c hc => h.comments c (mem_without.1 hc).1⟩
  | removeDomain name => exact absurd rfl (hkeep name)
  | addDomain | reviseDomains =>
    refine ⟨fun r hr => ?_, fun c hc => hids (h.comments c hc)⟩
    obtain ⟨zone, hdomain, hzone⟩ := h.records r hr
    exact ⟨zone, hdomain, hids hzone⟩
  | _ => exact ⟨h.records, h.comments⟩

/-! ## A new domain -/

/-- A domain is added under a free name, which then leads to it, and under an id of its own. -/
theorem exists_row_of_insertDomain {kind masters account : Option String}
    (hrun : t.runAll [.insertDomain kind (some name) masters account] = .ok t') :
    ∃ row : DomainRow, t' = { t with domains := t.domains ++ [row] } ∧
      t'.domainId? (some name) = some row.id ∧ row.id ∉ t.domainIds := by
  rw [runAll_singleton] at hrun
  obtain ⟨change, hchange, rfl⟩ := map_eq_ok_iff.1 hrun
  obtain ⟨role, domain, -, hname, hfree, hadded⟩ := Mutation.insertDomain_eq_ok hchange
  obtain rfl := Option.some.inj hname
  rw [hadded]
  refine ⟨_, rfl, ?_, ?_⟩
  · have hothers : t.domains.find? (·.isNamed (some name)) = none := by
      rw [List.find?_eq_none]
      intro d hd hnamed
      exact List.any_eq_false.1 hfree d hd hnamed
    rw [domainId?, List.find?_append, hothers, Option.none_or, List.find?_singleton,
      if_pos (isNamed_iff.2 rfl)]
    rfl
  · intro hmem
    obtain ⟨d, hd, hid⟩ := List.mem_map.1 hmem
    exact absurd hid (Int.ne_of_lt (lt_nextId DomainRow.id hd))

/-! ## The removal of a domain -/

/-- Removing a domain deletes its records and comments by id, and its metadata, its keys and its own
row by name. -/
theorem runAll_domainRemoval (t : Tables) (id : Int) (name : String) :
    t.runAll (Backend.domainRemoval id name) = .ok
      { t with
        domains := without (·.isNamed (some name)) t.domains
        records := without (·.isIn (some id)) t.records
        comments := without (fun c => holds (some c.domainId) (some id)) t.comments
        metadata := without (isMetadataOf (t.domainId? (some name))) t.metadata
        keys := without (isKeyOf (t.domainId? (some name))) t.keys } := rfl

/-- A domain with another id than the one of the name stays. -/
theorem mem_domainIds_without (h : t.KeysOwned) {other : Int} (hother : other ∈ t.domainIds)
    (hne : t.domainId? (some name) ≠ some other) :
    other ∈ (without (·.isNamed (some name)) t.domains).map DomainRow.id := by
  obtain ⟨d, hd, rfl⟩ := List.mem_map.1 hother
  refine List.mem_map_of_mem (mem_without.2 ⟨hd, ?_⟩)
  by_contra hnamed
  exact hne (domainId?_of_mem h.names hd (by simpa using hnamed))

theorem KeysOwned.removal (h : t.KeysOwned)
    (hrun : t.runAll (Backend.domainRemoval id name) = .ok t') : t'.KeysOwned := by
  rw [runAll_domainRemoval] at hrun
  obtain rfl := Except.ok.inj hrun
  refine ⟨h.names.sublist (List.filter_sublist.map _), fun k hk => ?_, fun m hm => ?_⟩
  · obtain ⟨hk, hother⟩ := mem_without.1 hk
    refine mem_domainIds_without h (h.keys k hk) fun heq => ?_
    simp [isKeyOf, heq] at hother
  · obtain ⟨hm, hother⟩ := mem_without.1 hm
    refine mem_domainIds_without h (h.metadata m hm) fun heq => ?_
    simp [isMetadataOf, heq] at hother

theorem ZonesOwned.removal (h : t.ZonesOwned) (hkeys : t.KeysOwned)
    (hid : t.domainId? (some name) = some id)
    (hrun : t.runAll (Backend.domainRemoval id name) = .ok t') : t'.ZonesOwned := by
  rw [runAll_domainRemoval] at hrun
  obtain rfl := Except.ok.inj hrun
  refine ⟨fun r hr => ?_, fun c hc => ?_⟩
  · obtain ⟨hr, hother⟩ := mem_without.1 hr
    obtain ⟨zone, hdomain, hzone⟩ := h.records r hr
    refine ⟨zone, hdomain, mem_domainIds_without hkeys hzone fun heq => ?_⟩
    obtain rfl := Option.some.inj (hid.symm.trans heq)
    simp [RecordRow.isIn, hdomain] at hother
  · obtain ⟨hc, hother⟩ := mem_without.1 hc
    refine mem_domainIds_without hkeys (h.comments c hc) fun heq => ?_
    obtain rfl := Option.some.inj (hid.symm.trans heq)
    simp at hother

end Tables

end ZoneStore
