import Mathlib.Data.List.Induction
import ZoneStore.Dnssec.Metadata
import ZoneStore.Proofs.Table.Alterations

/-!
# Metadata as entries

The metadata of a domain amounts to a list of entries, each a kind with one value, in the order in
which they are stored (`Tables.metadataEntries`). One reader picks the values of a kind in whatever
spelling it stands (`MetadataEntries.valuesOf`), the other collects the values under each kind as it
is spelled (`collectKinds`). They agree if each kind stands in one spelling
(`MetadataEntries.OneSpelling`), which replacing the values of a kind upholds: all entries of the
kind go before the new ones come (`MetadataEntries.replace`).
-/

set_option autoImplicit false

namespace ZoneStore

namespace TextMap

variable {α : Type} {m : TextMap α} {k : String}

theorem mem_keys_iff : k ∈ m.keys ↔ m.find? k ≠ none := by
  rw [find?, ne_eq, Option.map_eq_none_iff, List.find?_eq_none]
  simp [keys]

end TextMap

/-! ## Entries -/

/-- Kinds with single values, in the order in which they are stored. -/
abbrev MetadataEntries : Type := List (String × String)

namespace MetadataEntries

variable {es fs : MetadataEntries} {kind k : String} {values : List String}

/-- The values of a kind, in whatever spelling it stands. -/
def valuesOf (es : MetadataEntries) (kind : String) : List String :=
  (es.filter fun e => Text.alike e.1 kind).map Prod.snd

/-- The values of a kind in exactly this spelling. -/
def spelled (es : MetadataEntries) (kind : String) : List String :=
  (es.filter fun e => e.1 = kind).map Prod.snd

/-- The entries with the given values in place of those of a kind. -/
def replace (es : MetadataEntries) (kind : String) (values : List String) : MetadataEntries :=
  without (fun e => Text.alike e.1 kind) es ++ values.map fun value => (kind, value)

/-- Each kind stands in one spelling. -/
def OneSpelling (es : MetadataEntries) : Prop :=
  ∀ e ∈ es, ∀ f ∈ es, Text.alike e.1 f.1 = true → e.1 = f.1

theorem valuesOf_eq_nil_iff : es.valuesOf kind = [] ↔ ∀ e ∈ es, Text.alike e.1 kind = false := by
  simp [valuesOf]

theorem spelled_eq_nil_iff : es.spelled k = [] ↔ ∀ e ∈ es, e.1 ≠ k := by
  simp [spelled]

/-! ## Replacing the values of a kind -/

theorem alike_of_mem_map {e : String × String}
    (he : e ∈ values.map fun value => (kind, value)) : Text.alike e.1 kind = true := by
  obtain ⟨value, -, rfl⟩ := List.mem_map.1 he
  exact Text.alike_self kind

/-- An entry after a replacement is one of another kind from before, or has the new spelling. -/
theorem mem_replace_cases {e : String × String} (he : e ∈ es.replace kind values) :
    (e ∈ es ∧ Text.alike e.1 kind = false) ∨ e.1 = kind := by
  rcases List.mem_append.1 he with he | he
  · exact Or.inl (mem_without.1 he)
  · obtain ⟨value, -, rfl⟩ := List.mem_map.1 he
    exact Or.inr rfl

/-- Whatever is asked of entries of other kinds only is as before. -/
theorem filter_replace_of_disjoint {p : String × String → Bool}
    (h : ∀ e, Text.alike e.1 kind = true → p e = false) :
    (es.replace kind values).filter p = es.filter p := by
  apply filter_without_append
  · exact h
  · exact fun e => alike_of_mem_map

/-- The kind has the new values, in whatever spelling it is asked for. -/
theorem valuesOf_replace_of_alike (h : Text.alike k kind = true) :
    (es.replace kind values).valuesOf k = values := by
  have hsame (e : String × String) : Text.alike e.1 k = Text.alike e.1 kind := by
    rw [Text.alike, Text.alike, Text.alike_iff.1 h]
  simp only [valuesOf, hsame]
  rw [replace, filter_without_append_self fun e => alike_of_mem_map, List.map_map]
  exact List.map_id values

/-- Every other kind has its values. -/
theorem valuesOf_replace_of_not_alike (h : Text.alike k kind = false) :
    (es.replace kind values).valuesOf k = es.valuesOf k := by
  apply congrArg (List.map Prod.snd)
  apply filter_replace_of_disjoint
  intro e he
  rw [← Bool.not_eq_true]
  intro hk
  rw [Text.alike_trans (Text.alike_comm e.1 k ▸ hk) he] at h
  cases h

theorem spelled_replace_of_not_alike (h : Text.alike k kind = false) :
    (es.replace kind values).spelled k = es.spelled k := by
  apply congrArg (List.map Prod.snd)
  apply filter_replace_of_disjoint
  intro e he
  rw [decide_eq_false_iff_not]
  rintro rfl
  rw [he] at h
  cases h

namespace OneSpelling

theorem nil : OneSpelling [] := by
  intro e he
  cases he

theorem sublist (h : es.OneSpelling) (hsub : List.Sublist fs es) : fs.OneSpelling :=
  fun e he f hf => h e (hsub.subset he) f (hsub.subset hf)

/-- Replacing the values of a kind leaves it in one spelling, for no older one stays. -/
theorem replace (h : es.OneSpelling) (kind : String) (values : List String) :
    (es.replace kind values).OneSpelling := by
  intro e he f hf halike
  -- An old entry and a new one cannot be alike: the old ones like the new kind are gone.
  rcases mem_replace_cases he with ⟨he, hother⟩ | he
  · rcases mem_replace_cases hf with ⟨hf, -⟩ | hf
    · exact h e he f hf halike
    · rw [hf, hother] at halike
      cases halike
  · rcases mem_replace_cases hf with ⟨-, hother⟩ | hf
    · rw [he, Text.alike_comm, hother] at halike
      cases halike
    · exact he.trans hf.symm

/-- Then the values of a kind that occurs are those in its own spelling. -/
theorem spelled_eq (h : es.OneSpelling) {e : String × String} (he : e ∈ es) :
    es.spelled e.1 = es.valuesOf e.1 := by
  apply congrArg (List.map Prod.snd)
  apply List.filter_congr
  intro f hf
  rw [Bool.eq_iff_iff, decide_eq_true_iff]
  constructor
  · intro heq
    rw [heq]
    exact Text.alike_self e.1
  · intro halike
    exact h f hf e he halike

end OneSpelling

/-! ## The whole map -/

/-- The whole map holds the values in each spelling that occurs. -/
theorem find?_collectKinds (es : MetadataEntries) (k : String) :
    (collectKinds es).find? k = if es.spelled k = [] then none else some (es.spelled k) := by
  -- The map is collected from the front, so the last entry is the one that was inserted last.
  induction es using List.reverseRecOn with
  | nil => rfl
  | append_singleton es e ih =>
    have hstep : collectKinds (es ++ [e]) = (collectKinds es).insert e.1
        (((collectKinds es).find? e.1).getD [] ++ [e.2]) := by
      rw [collectKinds, List.foldl_append]
      rfl
    rw [hstep, TextMap.find?_insert]
    by_cases hk : k = e.1
    · subst hk
      have happend : spelled (es ++ [e]) e.1 = spelled es e.1 ++ [e.2] := by simp [spelled]
      have hvalues : ((collectKinds es).find? e.1).getD [] = spelled es e.1 := by
        rw [ih]
        split
        · rename_i hnil
          exact hnil.symm
        · rfl
      rw [if_pos rfl, hvalues, happend, if_neg (List.append_ne_nil_of_right_ne_nil _ (by simp))]
    · have happend : spelled (es ++ [e]) k = spelled es k := by
        simp [spelled, Ne.symm hk]
      rw [if_neg hk, happend, ih]

/-- The keys of the whole map are the kinds as they are spelled. -/
theorem mem_keys_collectKinds : k ∈ (collectKinds es).keys ↔ ∃ e ∈ es, e.1 = k := by
  have hnil : (collectKinds es).find? k = none ↔ es.spelled k = [] := by
    rw [find?_collectKinds]
    split <;> simp [*]
  rw [TextMap.mem_keys_iff, ne_eq, hnil, spelled_eq_nil_iff]
  simp

/-- A kind has no value exactly if no key is like it. -/
theorem valuesOf_eq_nil_iff_keys :
    es.valuesOf kind = [] ↔ ∀ k ∈ (collectKinds es).keys, Text.alike k kind = false := by
  rw [valuesOf_eq_nil_iff]
  constructor
  · intro h k hk
    obtain ⟨e, he, rfl⟩ := mem_keys_collectKinds.1 hk
    exact h e he
  · intro h e he
    exact h e.1 (mem_keys_collectKinds.2 ⟨e, he, rfl⟩)

/-- If each kind stands in one spelling, the whole map has the values of each of its keys. -/
theorem OneSpelling.find?_collectKinds (h : es.OneSpelling) (hk : k ∈ (collectKinds es).keys) :
    (collectKinds es).find? k = some (es.valuesOf k) := by
  have hsome := TextMap.mem_keys_iff.1 hk
  obtain ⟨e, he, rfl⟩ := mem_keys_collectKinds.1 hk
  rw [MetadataEntries.find?_collectKinds] at hsome ⊢
  split at hsome
  · exact absurd rfl hsome
  · rename_i hne
    rw [if_neg hne, h.spelled_eq he]

/-- If each kind stands in one spelling, no two keys of the whole map are alike. -/
theorem OneSpelling.pairwise_keys (h : es.OneSpelling) :
    (collectKinds es).keys.Pairwise fun k l => Text.alike k l = false := by
  have hsorted : (collectKinds es).keys.Pairwise (· < ·) :=
    List.pairwise_map.2 (collectKinds es).sorted
  apply hsorted.imp_of_mem
  intro k l hk hl hlt
  obtain ⟨e, he, rfl⟩ := mem_keys_collectKinds.1 hk
  obtain ⟨f, hf, rfl⟩ := mem_keys_collectKinds.1 hl
  rw [← Bool.not_eq_true]
  intro halike
  exact String.ne_of_lt hlt (h e he f hf halike)

/-- Replacing the values of a kind changes the whole map at no other kind. -/
theorem find?_collectKinds_replace (h : Text.alike k kind = false) :
    (collectKinds (es.replace kind values)).find? k = (collectKinds es).find? k := by
  rw [find?_collectKinds, find?_collectKinds, spelled_replace_of_not_alike h]

/-- The kind stands in the whole map as it was spelled last, if there are values. -/
theorem mem_keys_collectKinds_replace :
    kind ∈ (collectKinds (es.replace kind values)).keys ↔ values ≠ [] := by
  rw [mem_keys_collectKinds]
  constructor
  · rintro ⟨e, he, heq⟩ rfl
    rw [replace, List.map_nil, List.append_nil] at he
    have hother := (mem_without.1 he).2
    rw [heq, Text.alike_self] at hother
    cases hother
  · intro hne
    obtain ⟨value, rest, rfl⟩ := List.exists_cons_of_ne_nil hne
    exact ⟨(kind, value), List.mem_append_right _ List.mem_cons_self, rfl⟩

end MetadataEntries

/-! ## The entries of a domain -/

/-- The entry of a row that has a kind. -/
def MetadataRow.pair? (m : MetadataRow) : Option (String × String) :=
  m.kind.map fun kind => (kind, m.content.getD "")

theorem MetadataRow.pair?_of_some {m : MetadataRow} {kind : String} (h : m.kind = some kind) :
    m.pair? = some (kind, m.content.getD "") := by
  rw [pair?, h]
  rfl

theorem MetadataRow.pair?_of_none {m : MetadataRow} (h : m.kind = none) : m.pair? = none := by
  rw [pair?, h]
  rfl

/-- The values of a kind are the contents of the rows that have it. -/
theorem MetadataRow.valuesOf_filterMap_pair? (rows : List MetadataRow) (kind : String) :
    MetadataEntries.valuesOf (rows.filterMap pair?) kind =
      (rows.filter fun m => holdsAnyCase m.kind (some kind)).map fun m => m.content.getD "" := by
  induction rows with
  | nil => rfl
  | cons m rest ih =>
    cases hkind : m.kind with
    | none =>
      rw [List.filterMap_cons_none (pair?_of_none hkind)]
      simpa [hkind, holdsAnyCase] using ih
    | some k =>
      rw [List.filterMap_cons_some (pair?_of_some hkind)]
      cases halike : Text.alike k kind <;>
        simpa [hkind, holdsAnyCase, MetadataEntries.valuesOf, halike] using ih

/-- Rows that have a kind, all of them, can be read. -/
theorem MetadataRow.mapM_entry {rows : List MetadataRow}
    (h : ∀ m ∈ rows, ∃ kind, m.kind = some kind) :
    rows.mapM entry = .ok (rows.filterMap pair?) := by
  induction rows with
  | nil => rfl
  | cons m rest ih =>
    obtain ⟨kind, hkind⟩ := h m List.mem_cons_self
    have hentry : m.entry = .ok (kind, m.content.getD "") := by rw [entry, hkind]
    have hrest := ih fun m hm => h m (List.mem_cons_of_mem _ hm)
    rw [List.mapM_cons, hentry, hrest, List.filterMap_cons_some (pair?_of_some hkind)]
    rfl

/-- The row without its id. -/
def MetadataRow.unnumbered (m : MetadataRow) : MetadataRow := { m with id := 0 }

namespace Tables

variable {t t' : Tables} {domain : Option Int} {id : Int} {name kind : String}
  {values : List String} {added : List MetadataRow}

/-- The metadata of a domain as entries. -/
def metadataEntries (t : Tables) (domain : Option Int) : MetadataEntries :=
  (t.metadata.filter (isMetadataOf domain)).filterMap MetadataRow.pair?

/-- The metadata of the domain of a name as entries. -/
def metadataUnder (t : Tables) (name : String) : MetadataEntries :=
  t.metadataEntries (t.domainId? (some name))

/-- Whether a metadata row belongs to the domain and has a kind like the given one. -/
def isMetadataOfKind (domain : Option Int) (kind : String) (m : MetadataRow) : Bool :=
  isMetadataOf domain m && holdsAnyCase m.kind (some kind)

/-- The rows of a kind hold its values. -/
theorem map_filter_isMetadataOfKind (t : Tables) (domain : Option Int) (kind : String) :
    (t.metadata.filter (isMetadataOfKind domain kind)).map (fun m => m.content.getD "") =
      (t.metadataEntries domain).valuesOf kind := by
  rw [metadataEntries, MetadataRow.valuesOf_filterMap_pair?, List.filter_filter]
  apply congrArg
  apply List.filter_congr
  intro m _
  exact Bool.and_comm _ _

/-! ## One spelling -/

/-- The metadata kinds of each domain stand in one spelling. -/
def OneSpelling (t : Tables) : Prop := ∀ domain, (t.metadataEntries domain).OneSpelling

theorem oneSpelling_empty : Tables.empty.OneSpelling := fun _ => .nil

theorem OneSpelling.of_sublist (h : t.OneSpelling) (hsub : List.Sublist t'.metadata t.metadata) :
    t'.OneSpelling := fun domain =>
  (h domain).sublist ((hsub.filter _).filterMap _)

end Tables

/-- Whether the mutation adds a metadata value. -/
def Mutation.addsMetadata : Mutation → Bool
  | addMetadata _ _ _ => true
  | _ => false

namespace Tables

variable {t t' : Tables} {id : Int} {name kind : String} {values : List String}
  {added : List MetadataRow}

/-- Spellings come in with new values only. -/
theorem OneSpelling.alters (h : t.OneSpelling) {m : Mutation} (hm : m.Alters t t')
    (hadds : m.addsMetadata = false) : t'.OneSpelling := by
  cases hm with
  | addMetadata => cases hadds
  | removeMetadata => exact h.of_sublist List.filter_sublist
  | _ => exact h

/-! ## The replacement of a kind -/

/-- Adding values to a domain appends rows. -/
theorem exists_runAll_addMetadata (hid : t.domainId? (some name) = some id) (kind : String)
    (values : List String) :
    ∃ added : List MetadataRow,
      t.runAll (values.map fun value => .addMetadata (some name) (some kind) (some value)) =
        .ok { t with metadata := t.metadata ++ added } ∧
      added.map MetadataRow.unnumbered = values.map fun value => ⟨0, id, some kind, some value⟩ := by
  induction values generalizing t with
  | nil => exact ⟨[], by rw [List.append_nil]; rfl, rfl⟩
  | cons value rest ih =>
    let row : MetadataRow := ⟨nextId MetadataRow.id t.metadata, id, some kind, some value⟩
    obtain ⟨added, hrun, hadded⟩ := ih (t := { t with metadata := t.metadata ++ [row] }) hid
    refine ⟨row :: added, ?_, congrArg (List.cons _) hadded⟩
    rw [List.map_cons, runAll_cons]
    simp only [Mutation.apply, addMetadata, hid]
    refine hrun.trans ?_
    simp only [List.append_assoc, List.singleton_append]

/-- Adding values to no domain does nothing. -/
theorem runAll_addMetadata_of_none (hnone : t.domainId? (some name) = none) (kind : String)
    (values : List String) :
    t.runAll (values.map fun value => .addMetadata (some name) (some kind) (some value)) =
      .ok t := by
  induction values with
  | nil => rfl
  | cons value rest ih =>
    rw [List.map_cons, runAll_cons]
    simp only [Mutation.apply, addMetadata, hnone]
    exact ih

/-- New rows stand in place of those of a kind of the domain of a name. -/
structure ReplacesKind (t t' : Tables) (name kind : String) (values : List String) (id : Int)
    (added : List MetadataRow) : Prop where
  domain : t.domainId? (some name) = some id
  tables : t' = { t with
    metadata := without (isMetadataOfKind (some id) kind) t.metadata ++ added }
  added : added.map MetadataRow.unnumbered = values.map fun value => ⟨0, id, some kind, some value⟩

/-- Replacing the values of a kind of no domain does nothing. -/
theorem runAll_metadataReplacement_of_none (hnone : t.domainId? (some name) = none) (kind : String)
    (values : List String) : t.runAll (Backend.metadataReplacement name kind values) = .ok t := by
  -- No row belongs to no domain, so nothing is cleared either.
  have hkept : without (fun m => isMetadataOf none m && holdsAnyCase m.kind (some kind))
      t.metadata = t.metadata := List.filter_eq_self.2 fun m _ => rfl
  rw [Backend.metadataReplacement, runAll_cons]
  simp only [Mutation.apply, hnone, deleteMetadata, hkept]
  exact runAll_addMetadata_of_none hnone kind values

/-- Replacing the values of a kind leaves the tables as they are without a domain of the name, and
puts new rows in place of those of the kind with one. -/
theorem metadataReplacement_cases
    (hrun : t.runAll (Backend.metadataReplacement name kind values) = .ok t') :
    (t.domainId? (some name) = none ∧ t' = t) ∨
      ∃ id added, t.ReplacesKind t' name kind values id added := by
  cases hid : t.domainId? (some name) with
  | none =>
    rw [runAll_metadataReplacement_of_none hid] at hrun
    exact Or.inl ⟨rfl, (Except.ok.inj hrun).symm⟩
  | some id =>
    let cleared : Tables :=
      { t with metadata := without (isMetadataOfKind (some id) kind) t.metadata }
    obtain ⟨added, hadds, hadded⟩ := exists_runAll_addMetadata (t := cleared) hid kind values
    rw [Backend.metadataReplacement, runAll_cons] at hrun
    simp only [Mutation.apply, hid] at hrun
    exact Or.inr ⟨id, added, hid, Except.ok.inj (hrun.symm.trans hadds), hadded⟩

namespace ReplacesKind

variable (h : t.ReplacesKind t' name kind values id added)
include h

/-- The rows that are appended belong to the domain and have the kind. -/
theorem isMetadataOfKind_of_mem {m : MetadataRow} (hm : m ∈ added) :
    isMetadataOfKind (some id) kind m = true := by
  have hmem : m.unnumbered ∈ added.map MetadataRow.unnumbered := List.mem_map_of_mem hm
  rw [h.added] at hmem
  obtain ⟨value, -, heq⟩ := List.mem_map.1 hmem
  have hsame : isMetadataOfKind (some id) kind m = isMetadataOfKind (some id) kind m.unnumbered :=
    rfl
  rw [hsame, ← heq]
  simp [isMetadataOfKind, isMetadataOf, holdsAnyCase]

theorem filterMap_pair? :
    added.filterMap MetadataRow.pair? = values.map fun value => (kind, value) := by
  have hsame : MetadataRow.pair? = MetadataRow.pair? ∘ MetadataRow.unnumbered := rfl
  rw [hsame, ← List.filterMap_map, h.added, List.filterMap_map, ← List.filterMap_eq_map']
  rfl

/-- The domain has the new values in place of those of the kind. -/
theorem metadataEntries_self :
    t'.metadataEntries (some id) = (t.metadataEntries (some id)).replace kind values := by
  have hnew : added.filter (isMetadataOf (some id)) = added := by
    rw [List.filter_eq_self]
    intro m hm
    exact (Bool.and_eq_true_iff.1 (h.isMetadataOfKind_of_mem hm)).1
  have hold : ((without (isMetadataOfKind (some id) kind) t.metadata).filter
      (isMetadataOf (some id))).filterMap MetadataRow.pair? =
        without (fun e => Text.alike e.1 kind) (t.metadataEntries (some id)) := by
    rw [metadataEntries, without, without, List.filter_filter, List.filterMap_filter,
      List.filter_filterMap, List.filterMap_filter]
    apply List.filterMap_congr
    intro m _
    -- A row without a kind is no entry; any other one is kept exactly if its entry is.
    cases hkind : m.kind with
    | none => simp [MetadataRow.pair?_of_none hkind]
    | some k =>
      rw [MetadataRow.pair?_of_some hkind]
      cases hof : isMetadataOf (some id) m <;> cases halike : Text.alike k kind <;>
        simp [isMetadataOfKind, holdsAnyCase, hkind, hof, halike, Option.filter_some]
  have hentries := h.filterMap_pair?
  rw [h.tables, metadataEntries, List.filter_append, List.filterMap_append, hold, hnew, hentries]
  rfl

/-- Every other domain has the entries that it had. -/
theorem metadataEntries_of_ne {domain : Option Int} (hne : domain ≠ some id) :
    t'.metadataEntries domain = t.metadataEntries domain := by
  apply congrArg (List.filterMap MetadataRow.pair?)
  rw [h.tables]
  apply filter_without_append
  · intro m hm
    have hid : m.domainId = id := by
      simpa using holds_some_iff.1 (Bool.and_eq_true_iff.1 hm).1
    rw [← Bool.not_eq_true]
    intro hdomain
    exact hne (hid ▸ Mutation.eq_some_of_holds hdomain)
  · exact fun m => h.isMetadataOfKind_of_mem

/-- The rows of other kinds and domains are those of before. -/
theorem without_eq :
    without (isMetadataOfKind (some id) kind) t'.metadata =
      without (isMetadataOfKind (some id) kind) t.metadata := by
  rw [h.tables]
  apply filter_without_append
  · intro m hm
    rw [hm]
    rfl
  · exact fun m => h.isMetadataOfKind_of_mem

end ReplacesKind

/-- Replacing the values of a kind leaves every kind in one spelling. -/
theorem OneSpelling.metadataReplacement (h : t.OneSpelling)
    (hrun : t.runAll (Backend.metadataReplacement name kind values) = .ok t') :
    t'.OneSpelling := by
  rcases metadataReplacement_cases hrun with ⟨-, rfl⟩ | ⟨id, added, hreplaces⟩
  · exact h
  · intro domain
    by_cases hdomain : domain = some id
    · rw [hdomain, hreplaces.metadataEntries_self]
      exact (h (some id)).replace kind values
    · rw [hreplaces.metadataEntries_of_ne hdomain]
      exact h domain

end Tables

end ZoneStore
