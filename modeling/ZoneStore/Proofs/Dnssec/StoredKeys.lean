import ZoneStore.Proofs.Dnssec.KeyEvents
import ZoneStore.Proofs.Domain.UniqueKeys

/-!
# Signing keys as they are stored

The tables store a key under the name of a domain if the name leads to the domain that a row with
this key belongs to (`Tables.StoresKey`). Each mutation of signing keys does to these keys what the
event of its call tells, and so does the removal of a domain; a domain is created without keys, as
every key belongs to a domain that was there before
(`Tables.UniqueKeys.storesKey_insertDomain`).
-/

set_option autoImplicit false

namespace ZoneStore

/-! ## Rows of keys -/

/-- The row with the mark set or taken away. -/
def KeyRow.marked (k : KeyRow) (mark : KeyMark) (value : Bool) : KeyRow :=
  match mark with
  | .active => { k with active := some (storedBool value) }
  | .published => { k with published := some (storedBool value) }

theorem KeyRow.domainId_marked (k : KeyRow) (mark : KeyMark) (value : Bool) :
    (k.marked mark value).domainId = k.domainId := by
  cases mark <;> rfl

namespace SigningKey

variable {k : KeyRow} {key : SigningKey}

theorem id_of_ofRow (h : ofRow k = .ok key) : key.id = k.id := by
  obtain ⟨flags, -, h⟩ := bind_eq_ok_iff.1 h
  obtain rfl := Except.ok.inj h
  rfl

/-- A key that is added is read as it was given, under its new id. -/
theorem ofRow_added (key : SigningKey) (id domain : Int) :
    ofRow ⟨id, domain, key.flags.toNat, some (storedBool key.active),
      some (storedBool key.published), some key.content⟩ = .ok { key with id := id } := by
  simp only [ofRow, readWord_toNat, isTrue_storedBool, Option.some_or, Option.getD_some]
  rfl

theorem ofRow_marked (k : KeyRow) (mark : KeyMark) (value : Bool) :
    ofRow (k.marked mark value) = (·.marked mark value) <$> ofRow k := by
  cases mark with
  | active =>
    simp only [ofRow, KeyRow.marked, isTrue_storedBool]
    cases readWord 1 k.flags <;> rfl
  | published =>
    simp only [ofRow, KeyRow.marked, Option.some_or, isTrue_storedBool]
    cases readWord 1 k.flags <;> rfl

end SigningKey

/-! ## Keys under names -/

namespace Tables

variable {t t' : Tables} {name other : String} {id : Int} {key : SigningKey} {k : KeyRow}

/-- The name leads to a domain that has the key. -/
def StoresKey (t : Tables) (name : String) (key : SigningKey) : Prop :=
  ∃ k ∈ t.keys, t.domainId? (some name) = some k.domainId ∧ SigningKey.ofRow k = .ok key

theorem not_storesKey_empty : ¬ Tables.empty.StoresKey name key := by
  rintro ⟨k, hk, -⟩
  cases hk

/-- Where the rows are the same and lead to the same names, so are the keys. -/
theorem storesKey_congr (hkeys : t'.keys = t.keys)
    (hnames : ∀ k ∈ t.keys, t'.domainId? (some name) = some k.domainId ↔
      t.domainId? (some name) = some k.domainId) :
    t'.StoresKey name key ↔ t.StoresKey name key := by
  rw [StoresKey, hkeys]
  refine exists_congr fun k => and_congr_right fun hk => ?_
  rw [hnames k hk]

/-- Revising a column of the domains other than their ids and names does not matter to names. -/
theorem domainId?_revise {p : DomainRow → Bool} {f : DomainRow → DomainRow}
    (hid : ∀ d, (f d).id = d.id) (hname : ∀ d, (f d).name = d.name) (name : Option String) :
    domainId? { t with domains := revise p f t.domains } name = t.domainId? name := by
  have hnamed : ((·.isNamed name) ∘ fun d => if p d then f d else d) = (·.isNamed name) := by
    funext d
    simp only [Function.comp_apply]
    split
    · rw [DomainRow.isNamed, hname]
      rfl
    · rfl
  rw [domainId?, domainId?, revise, List.find?_map, hnamed, Option.map_map]
  congr 1
  funext d
  simp only [Function.comp_apply]
  split
  · exact hid d
  · rfl

section UniqueKeys

variable (h : t.UniqueKeys)
include h

/-- A row of the domain of one name is a row of the domain of another one if the names are alike. -/
theorem UniqueKeys.isKeyOf_eq (hdomain : t.domainId? (some name) = some k.domainId) :
    isKeyOf (t.domainId? (some other)) k = Text.alike other name := by
  rw [Bool.eq_iff_iff]
  constructor
  · intro hof
    exact h.alike_of_domainId? (Mutation.eq_some_of_holds hof) hdomain
  · intro halike
    rw [domainId?_congr halike, hdomain]
    exact holds_some_iff.2 rfl

theorem UniqueKeys.isKey_eq (hdomain : t.domainId? (some name) = some k.domainId) :
    isKey (t.domainId? (some other)) (some id) k = KeyEvent.isNamed other id name k.id := by
  rw [isKey, h.isKeyOf_eq hdomain]
  rfl

/-! ## Mutations of keys -/

/-- A key that is added is stored under the names that lead to its domain. -/
theorem UniqueKeys.storesKey_append {row : KeyRow}
    (hdomain : t.domainId? (some other) = some row.domainId) {given : SigningKey}
    (hread : SigningKey.ofRow row = .ok { given with id := row.id }) :
    StoresKey { t with keys := t.keys ++ [row] } name key ↔
      (KeyEvent.added other row.id given).Leaves t.StoresKey name key := by
  constructor
  · rintro ⟨k, hk, hname, hkey⟩
    rcases List.mem_append.1 hk with hk | hk
    · exact Or.inr ⟨key, ⟨k, hk, hname, hkey⟩, rfl, rfl⟩
    · obtain rfl := List.mem_singleton.1 hk
      obtain rfl := Except.ok.inj (hread.symm.trans hkey)
      exact Or.inl ⟨other, given, rfl, h.alike_of_domainId? hdomain hname, rfl⟩
  · rintro (⟨other', given', hevent, hname, hkey⟩ | ⟨old, ⟨k, hk, hname, hold⟩, -, rfl⟩)
    · obtain ⟨rfl, hid, rfl⟩ := KeyEvent.added.inj hevent
      refine ⟨row, List.mem_append_right _ (List.mem_singleton_self row), ?_, ?_⟩
      · exact (domainId?_congr hname).symm.trans hdomain
      · rw [hread, hkey, hid]
    · exact ⟨k, List.mem_append_left _ hk, hname, hold⟩

/-- A mark is changed of the key that a name and an id lead to. -/
theorem UniqueKeys.storesKey_mark (mark : KeyMark) (value : Bool) :
    StoresKey
        { t with
          keys := revise (isKey (t.domainId? (some other)) (some id)) (·.marked mark value) t.keys }
        name key ↔ (KeyEvent.marked mark other id value).Leaves t.StoresKey name key := by
  -- A row leads to the same names as before, and is marked if it is the one that is named.
  let revised (k : KeyRow) : KeyRow :=
    if isKey (t.domainId? (some other)) (some id) k then k.marked mark value else k
  have hsame (k : KeyRow) : (revised k).domainId = k.domainId := by
    simp only [revised]
    split
    · exact k.domainId_marked mark value
    · rfl
  have hread {k : KeyRow} {old : SigningKey} (hname : t.domainId? (some name) = some k.domainId)
      (hold : SigningKey.ofRow k = .ok old) : SigningKey.ofRow (revised k) =
        .ok ((KeyEvent.marked mark other id value).apply name old) := by
    simp only [revised]
    rw [KeyEvent.apply_marked, h.isKey_eq hname, SigningKey.id_of_ofRow hold]
    split
    · rw [SigningKey.ofRow_marked, hold]
      rfl
    · exact hold
  rw [KeyEvent.leaves_iff_of_not_adds (e := .marked mark other id value) nofun]
  constructor
  · rintro ⟨k', hk', hname, hkey⟩
    obtain ⟨k, hk, rfl⟩ := List.mem_map.1 hk'
    have hname : t.domainId? (some name) = some k.domainId := by
      rw [← hsame k]
      exact hname
    obtain ⟨old, hold⟩ : ∃ old, SigningKey.ofRow k = .ok old := by
      split at hkey
      · rw [SigningKey.ofRow_marked] at hkey
        obtain ⟨old, hold, -⟩ := map_eq_ok_iff.1 hkey
        exact ⟨old, hold⟩
      · exact ⟨key, hkey⟩
    exact ⟨old, ⟨k, hk, hname, hold⟩, rfl, Except.ok.inj (hkey.symm.trans (hread hname hold))⟩
  · rintro ⟨old, ⟨k, hk, hname, hold⟩, -, rfl⟩
    refine ⟨revised k, List.mem_map_of_mem hk, ?_, hread hname hold⟩
    rw [hsame]
    exact hname

/-- The key that a name and an id lead to is removed. -/
theorem UniqueKeys.storesKey_remove :
    StoresKey { t with keys := without (isKey (t.domainId? (some other)) (some id)) t.keys } name
        key ↔ (KeyEvent.removed other id).Leaves t.StoresKey name key := by
  rw [KeyEvent.leaves_iff_of_not_adds (e := .removed other id) nofun]
  constructor
  · rintro ⟨k, hk, hname, hkey⟩
    obtain ⟨hk, hother⟩ := mem_without.1 hk
    refine ⟨key, ⟨k, hk, hname, hkey⟩, ?_, rfl⟩
    rw [SigningKey.id_of_ofRow hkey]
    exact (h.isKey_eq hname).symm.trans hother
  · rintro ⟨old, ⟨k, hk, hname, hold⟩, hends, rfl⟩
    refine ⟨k, mem_without.2 ⟨hk, ?_⟩, hname, hold⟩
    rw [h.isKey_eq hname, ← SigningKey.id_of_ofRow hold]
    exact hends

/-! ## Domains that go and come -/

/-- A domain that is deleted takes its keys along. -/
theorem UniqueKeys.storesKey_removal (h' : t'.UniqueKeys)
    (hdomains : t'.domains = without (·.isNamed (some other)) t.domains)
    (hkeys : t'.keys = without (isKeyOf (t.domainId? (some other))) t.keys) :
    t'.StoresKey name key ↔ (KeyEvent.deleted other).Leaves t.StoresKey name key := by
  have hfound {id : Int} : t'.domainId? (some name) = some id ↔
      t.domainId? (some name) = some id ∧ Text.alike other name = false := by
    rw [h'.domainId?_eq_some_iff, h.domainId?_eq_some_iff, hdomains]
    -- A domain that has another name as well would have names that are alike.
    have halike {d : DomainRow} (hname : Text.alike d.name name = true) :
        d.isNamed (some other) = Text.alike other name := by
      rw [Bool.eq_iff_iff, isNamed_iff, Text.alike_iff, ← Text.alike_iff.1 hname]
      exact eq_comm
    constructor
    · rintro ⟨d, hd, hname, rfl⟩
      obtain ⟨hd, hother⟩ := mem_without.1 hd
      exact ⟨⟨d, hd, hname, rfl⟩, (halike hname).symm.trans hother⟩
    · rintro ⟨⟨d, hd, hname, rfl⟩, hother⟩
      exact ⟨d, mem_without.2 ⟨hd, (halike hname).trans hother⟩, hname, rfl⟩
  rw [KeyEvent.leaves_iff_of_not_adds (e := .deleted other) nofun]
  constructor
  · rintro ⟨k, hk, hname, hkey⟩
    obtain ⟨hname, hother⟩ := hfound.1 hname
    rw [hkeys] at hk
    exact ⟨key, ⟨k, (mem_without.1 hk).1, hname, hkey⟩, hother, rfl⟩
  · rintro ⟨old, ⟨k, hk, hname, hold⟩, hends, rfl⟩
    refine ⟨k, ?_, hfound.2 ⟨hname, hends⟩, hold⟩
    rw [hkeys]
    exact mem_without.2 ⟨hk, (h.isKeyOf_eq hname).trans hends⟩

/-- A domain that is created has no keys. -/
theorem UniqueKeys.storesKey_insertDomain (h' : t'.UniqueKeys) (howned : t.KeysOwned)
    {row : DomainRow} (hnew : row.id ∉ t.domainIds)
    (htables : t' = { t with domains := t.domains ++ [row] }) :
    t'.StoresKey name key ↔ t.StoresKey name key := by
  refine storesKey_congr (by rw [htables]) fun k hk => ?_
  rw [h'.domainId?_eq_some_iff, h.domainId?_eq_some_iff, htables]
  constructor
  · rintro ⟨d, hd, hname, hid⟩
    rcases List.mem_append.1 hd with hd | hd
    · exact ⟨d, hd, hname, hid⟩
    · -- Every key belongs to a domain that was there before.
      obtain rfl := List.mem_singleton.1 hd
      exact absurd (hid ▸ howned.keys k hk) hnew
  · rintro ⟨d, hd, hname, hid⟩
    exact ⟨d, List.mem_append_left _ hd, hname, hid⟩

end UniqueKeys

end Tables

end ZoneStore
