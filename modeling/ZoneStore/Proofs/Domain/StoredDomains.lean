import ZoneStore.Proofs.Domain.DomainEvents
import ZoneStore.Proofs.Domain.Kinds
import ZoneStore.Proofs.Domain.UniqueKeys
import ZoneStore.Proofs.Text.Fields

/-!
# Domains as they are stored

The tables describe the domains of their rows (`Tables.Describes`). Each mutation of domains does to
these descriptions what the event of its call tells: a new row is read as what the domain was
created with, and a row that is revised as what the event wrote to it, for the stored forms of
masters and kinds are read as what they were made of.
-/

set_option autoImplicit false

namespace ZoneStore

/-! ## Rows of domains -/

/-- The kind is read from its stored form as it is. -/
def DomainKind.IsRead (kind : DomainKind) : Prop := DomainKind.ofText kind.text = kind

theorem DomainKind.isRead_of_ofText {kind : DomainKind} (h : ∃ s, kind = .ofText s) :
    kind.IsRead := by
  obtain ⟨s, rfl⟩ := h
  exact ofText_text_ofText s

/-- The row of a new domain. -/
def NewDomain.row (new : NewDomain) (id : Int) : DomainRow :=
  ⟨id, new.name, some (joinMasters new.masters), none, new.kind.text, none, some new.account⟩

/-- The row of a new domain is read as what it was created with. -/
theorem NewDomain.ofRow_row {new : NewDomain} (hkind : new.kind.IsRead) (id : Int) :
    DomainInfo.ofRow (new.row id) 0 = new.since id [] := by
  have hkind : DomainKind.ofText new.kind.text = new.kind := hkind
  simp only [DomainInfo.ofRow, NewDomain.row, Option.getD_some, hkind, splitMasters_joinMasters]
  rfl

/-- What an event writes to the row of a domain. -/
def DomainEvent.revise (e : DomainEvent) (d : DomainRow) : DomainRow :=
  { d with
    master := ((e.masters? d.name).map joinMasters).or d.master
    notifiedSerial := (e.serial? d.id).or d.notifiedSerial
    kind := ((e.kind? d.name).map DomainKind.text).getD d.kind
    lastCheck := (e.time? d.id).or d.lastCheck
    account := (e.account? d.name).or d.account }

/-- The kinds that the event writes are read as they are. -/
def DomainEvent.KindsRead : DomainEvent → Prop
  | .created _ new => new.kind.IsRead
  | .setKind _ kind => kind.IsRead
  | _ => True

theorem DomainEvent.KindsRead.isRead_of_kind? {e : DomainEvent} (he : e.KindsRead) {zone : String}
    {kind : DomainKind} (h : e.kind? zone = some kind) : kind.IsRead := by
  cases e with
  | setKind name given =>
    obtain ⟨-, hgiven⟩ := Option.ite_none_right_eq_some.1 h
    exact Option.some.inj hgiven ▸ he
  | _ => cases h

/-- A row that is written to is read as the description that is written to. -/
theorem DomainEvent.ofRow_revise {e : DomainEvent} (he : e.KindsRead) (d : DomainRow) :
    DomainInfo.ofRow (e.revise d) 0 = e.apply (DomainInfo.ofRow d 0) := by
  have hmasters : splitMasters (((e.masters? d.name).map joinMasters).getD (d.master.getD "")) =
      ((e.masters? d.name).map (·.flatMap splitMasters)).getD (splitMasters (d.master.getD "")) := by
    cases e.masters? d.name with
    | none => rfl
    | some masters => exact splitMasters_joinMasters masters
  have hkind : DomainKind.ofText (((e.kind? d.name).map DomainKind.text).getD d.kind) =
      (e.kind? d.name).getD (.ofText d.kind) := by
    cases hwritten : e.kind? d.name with
    | none => rfl
    | some kind => exact he.isRead_of_kind? hwritten
  simp only [DomainInfo.ofRow, revise, apply, Option.getD_or, hmasters, hkind]

namespace Tables

variable {t t' : Tables} {info : DomainInfo} {e : DomainEvent}

/-- A row of the tables is read as the description. -/
def Describes (t : Tables) (info : DomainInfo) : Prop :=
  ∃ d ∈ t.domains, DomainInfo.ofRow d 0 = info

theorem not_describes_empty : ¬ Tables.empty.Describes info := by
  rintro ⟨d, hd, -⟩
  cases hd

theorem describes_congr (h : t'.domains = t.domains) : t'.Describes info ↔ t.Describes info := by
  rw [Describes, h]
  rfl

/-- A domain is created. -/
theorem describes_create {new : NewDomain} {id : Int} (hkind : new.kind.IsRead)
    (htables : t' = { t with domains := t.domains ++ [new.row id] }) :
    t'.Describes info ↔ (DomainEvent.created id new).Leaves t.Describes info := by
  rw [htables]
  constructor
  · rintro ⟨d, hd, rfl⟩
    rcases List.mem_append.1 hd with hd | hd
    · exact Or.inr ⟨_, ⟨d, hd, rfl⟩, rfl, rfl⟩
    · obtain rfl := List.mem_singleton.1 hd
      exact Or.inl ⟨id, new, rfl, new.ofRow_row hkind id⟩
  · rintro (⟨id', new', heq, rfl⟩ | ⟨old, ⟨d, hd, rfl⟩, -, rfl⟩)
    · obtain ⟨rfl, rfl⟩ := DomainEvent.created.inj heq
      exact ⟨_, List.mem_append_right _ (List.mem_singleton_self _), new.ofRow_row hkind id⟩
    · exact ⟨d, List.mem_append_left _ hd, rfl⟩

/-- A domain is deleted. -/
theorem describes_delete {name : String}
    (hdomains : t'.domains = without (·.isNamed (some name)) t.domains) :
    t'.Describes info ↔ (DomainEvent.deleted name).Leaves t.Describes info := by
  rw [Describes, hdomains]
  constructor
  · rintro ⟨d, hd, rfl⟩
    obtain ⟨hd, hother⟩ := mem_without.1 hd
    exact Or.inr ⟨_, ⟨d, hd, rfl⟩, hother, rfl⟩
  · rintro (⟨id, new, ⟨⟩, -⟩ | ⟨old, ⟨d, hd, rfl⟩, hother, rfl⟩)
    exact ⟨d, mem_without.2 ⟨hd, hother⟩, rfl⟩

/-- Domains are written to. -/
theorem describes_revise (he : e.KindsRead) (hcreates : ∀ id new, e ≠ .created id new)
    (hdeletes : ∀ name, e ≠ .deleted name) (hdomains : t'.domains = t.domains.map e.revise) :
    t'.Describes info ↔ e.Leaves t.Describes info := by
  have hkept (zone : String) : e.deletes zone = false := by
    cases e with
    | deleted name => exact absurd rfl (hdeletes name)
    | _ => rfl
  rw [Describes, hdomains]
  constructor
  · rintro ⟨d', hd', rfl⟩
    obtain ⟨d, hd, rfl⟩ := List.mem_map.1 hd'
    exact Or.inr ⟨_, ⟨d, hd, rfl⟩, hkept _, DomainEvent.ofRow_revise he d⟩
  · rintro (⟨id, new, heq, -⟩ | ⟨old, ⟨d, hd, rfl⟩, -, rfl⟩)
    · exact absurd heq (hcreates id new)
    · exact ⟨_, List.mem_map_of_mem hd, DomainEvent.ofRow_revise he d⟩

/-- A name leads to the one domain that has it. -/
theorem UniqueKeys.find?_isNamed_iff (h : t.UniqueKeys) {name : String} {d : DomainRow} :
    t.domains.find? (·.isNamed (some name)) = some d ↔
      d ∈ t.domains ∧ Text.alike d.name name = true := by
  constructor
  · intro hfound
    have hnamed : d.isNamed (some name) = true := by simpa using List.find?_some hfound
    exact ⟨List.mem_of_find?_eq_some hfound, hnamed⟩
  · rintro ⟨hd, hname⟩
    obtain ⟨e, he, hid⟩ := Option.map_eq_some_iff.1 (domainId?_of_mem h.domains hd hname)
    obtain rfl := List.inj_on_of_nodup_map h.domainIds (List.mem_of_find?_eq_some he) hd hid
    exact he

end Tables

end ZoneStore
