import ZoneStore.Proofs.Backend.Operations
import ZoneStore.Proofs.Domain.UniqueKeys

/-!
# Deleting a domain

A domain is deleted by five statements: its records and comments go by its id, its metadata and keys
by the id that its name leads to while its row is still there, and the row itself by its name. As
names and ids are unique, all of them mean one domain, and what is left are exactly the rows of the
others (`Tables.withoutDomain`, `Backend.domain_removed`).
-/

set_option autoImplicit false

namespace ZoneStore

namespace Tables

variable {t : Tables} {domain : DomainRow} {name : String}

/-- The tables without the domain of an id and everything that belongs to it. -/
def withoutDomain (t : Tables) (id : Int) : Tables :=
  { t with
    domains := t.domains.filter fun d => d.id ≠ id
    records := t.records.filter fun r => r.domainId ≠ some id
    comments := t.comments.filter fun c => c.domainId ≠ id
    metadata := t.metadata.filter fun m => m.domainId ≠ id
    keys := t.keys.filter fun k => k.domainId ≠ id }

/-- A row has the name of a domain exactly if it has its id. -/
theorem UniqueKeys.isNamed_iff (h : t.UniqueKeys) (hdomain : domain ∈ t.domains)
    (hname : Text.alike domain.name name = true) {d : DomainRow} (hd : d ∈ t.domains) :
    d.isNamed (some name) = true ↔ d.id = domain.id := by
  have hid := h.domainId?_eq_some_iff.2 ⟨domain, hdomain, hname, rfl⟩
  constructor
  · intro hnamed
    exact Option.some.inj ((domainId?_of_mem h.domains hd hnamed).symm.trans hid)
  · intro heq
    obtain rfl := List.inj_on_of_nodup_map h.domainIds hd hdomain heq
    exact hname

/-- Removing the domain of a name leaves the tables without it. -/
theorem UniqueKeys.runAll_domainRemoval (h : t.UniqueKeys) (hdomain : domain ∈ t.domains)
    (hname : Text.alike domain.name name = true) :
    t.runAll (Backend.domainRemoval domain.id name) = .ok (t.withoutDomain domain.id) := by
  have hid := h.domainId?_eq_some_iff.2 ⟨domain, hdomain, hname, rfl⟩
  have hdomains : without (·.isNamed (some name)) t.domains =
      t.domains.filter fun d => d.id ≠ domain.id := by
    -- The row goes by its name, and it is the only one that has it.
    apply List.filter_congr
    intro d hd
    rw [Bool.eq_iff_iff, Bool.not_eq_true', ← Bool.not_eq_true, h.isNamed_iff hdomain hname hd,
      decide_eq_true_iff]
  have hzone (r : RecordRow) : r.isIn (some domain.id) = true ↔ r.domainId = some domain.id :=
    holds_some_iff
  have howner (id : Int) : holds (some id) (some domain.id) = true ↔ id = domain.id := by
    rw [holds_some_some, beq_iff_eq]
  rw [Tables.runAll_domainRemoval, hdomains, hid, without_eq_filter hzone,
    without_eq_filter fun c : CommentRow => howner c.domainId,
    without_eq_filter (p := isMetadataOf (some domain.id)) fun m => howner m.domainId,
    without_eq_filter (p := isKeyOf (some domain.id)) fun k => howner k.domainId]
  rfl

end Tables

/-- No tables refuse to delete a domain and what belongs to it. -/
theorem neverRefused_domainRemoval (id : Int) (name : String) :
    ∀ m ∈ Backend.domainRemoval id name, m.NeverRefused := by
  intro m hm
  simp only [Backend.domainRemoval, List.mem_cons, List.not_mem_nil, or_false] at hm
  rcases hm with rfl | rfl | rfl | rfl | rfl <;> exact fun _ => ⟨_, rfl⟩

namespace Backend

variable {b : Backend} {t : Tables} {name : String}

/-- Without a domain of the name nothing is deleted. -/
theorem Quiet.deleteDomain_of_none (h : b.Quiet t) (hnone : t.domainId? (some name) = none) :
    ((deleteDomain name).run b).1 = .error (.domainNotFound name) ∧
      ((deleteDomain name).run b).2.Quiet t := by
  have hfound : ((domainId? name).run b).1 = .ok none :=
    (run_domainId?_fst h.calm h.free h.tables name).trans (congrArg Except.ok hnone)
  have hquiet := (onlyReads_domainId? name).quiet h
  rw [deleteDomain, Action.run_bind]
  rcases hrun : (domainId? name).run b with ⟨outcome, b'⟩
  rw [hrun] at hfound hquiet
  obtain rfl : outcome = .ok none := hfound
  exact ⟨rfl, hquiet⟩

/-- With a domain of the name all statements are carried out. -/
theorem Quiet.deleteDomain_of_some (h : b.Quiet t) {id : Int}
    (hid : t.domainId? (some name) = some id) :
    ((deleteDomain name).run b).1 = .ok () ∧
      ∃ t', ((deleteDomain name).run b).2.Quiet t' ∧ t.runAll (domainRemoval id name) = .ok t' := by
  have hfound : ((domainId? name).run b).1 = .ok (some id) :=
    (run_domainId?_fst h.calm h.free h.tables name).trans (congrArg Except.ok hid)
  have hquiet := (onlyReads_domainId? name).quiet h
  rw [deleteDomain, Action.run_bind]
  rcases hrun : (domainId? name).run b with ⟨outcome, b'⟩
  rw [hrun] at hfound hquiet
  obtain rfl : outcome = .ok (some id) := hfound
  exact hquiet.atomically (neverRefused_domainRemoval id name)

/-- Deleting a domain, in every state that a run can reach and in which a connection is free and no
transaction is the writer. The domain is not found exactly if there is none with a name like the
given one, and then nothing changes. Otherwise the call succeeds, and leaves the tables without the
domain and all that belongs to its id, with every other row as it was. -/
theorem domain_removed (b : Backend) (hreachable : b.Reachable) (hfree : b.HasFree)
    (hquiet : ∀ h c, b.transaction? h = some c → c.isWriter = false) (name : String) :
    ∃ before after, b.store.database.tables = some before ∧
      ((deleteDomain name).run b).2.store.database.tables = some after ∧
      (((deleteDomain name).run b).1 = .error (.domainNotFound name) ↔
        ∀ d ∈ before.domains, Text.alike d.name name = false) ∧
      ((∀ d ∈ before.domains, Text.alike d.name name = false) → after = before) ∧
      ∀ domain ∈ before.domains, Text.alike domain.name name = true →
        ((deleteDomain name).run b).1 = .ok () ∧ after = before.withoutDomain domain.id := by
  obtain ⟨before, hb⟩ := hreachable.quiet hfree hquiet
  have hunique := hreachable.uniqueKeys hb.tables
  cases hid : before.domainId? (some name) with
  | none =>
    obtain ⟨herror, hafter⟩ := hb.deleteDomain_of_none hid
    have hnone := Tables.domainId?_eq_none_iff.1 hid
    refine ⟨before, before, hb.tables, hafter.tables, iff_of_true herror hnone, fun _ => rfl, ?_⟩
    intro domain hdomain hname
    cases (hnone domain hdomain).symm.trans hname
  | some id =>
    obtain ⟨domain, hdomain, hname, rfl⟩ := hunique.domainId?_eq_some_iff.1 hid
    obtain ⟨hok, after, hafter, hrun⟩ := hb.deleteDomain_of_some hid
    obtain rfl := Except.ok.inj ((hunique.runAll_domainRemoval hdomain hname).symm.trans hrun)
    have hsome : ¬ ∀ d ∈ before.domains, Text.alike d.name name = false := by
      intro hnone
      cases (hnone domain hdomain).symm.trans hname
    refine ⟨before, _, hb.tables, hafter.tables, iff_of_false ?_ hsome, fun h => absurd h hsome, ?_⟩
    · intro herror
      cases hok.symm.trans herror
    · intro other hother halike
      have heq : other.id = domain.id :=
        (hunique.isNamed_iff hdomain hname hother).1 halike
      rw [heq]
      exact ⟨hok, rfl⟩

/-- A backend on which two domains have a record and a metadata value each. -/
def neighbours : Backend :=
  operated 8 true none
    [⟨Unit, .createDomain "example.org" .native [] ""⟩,
     ⟨Unit, .createDomain "example.net" .native [] ""⟩,
     ⟨Unit, .startTransaction 7 0⟩,
     ⟨Unit, .feedRecord 7 (.plain 1 "example.org" "A" "192.0.2.1" 60) ""⟩,
     ⟨Unit, .feedRecord 7 (.plain 2 "example.net" "A" "192.0.2.2" 60) ""⟩,
     ⟨Unit, .commitTransaction 7⟩,
     ⟨Unit, .setDomainMetadata "example.org" "PRESIGNED" ["1"]⟩,
     ⟨Unit, .setDomainMetadata "example.net" "PRESIGNED" ["1"]⟩]

/-- The one domain goes with its rows, and those of the other one stay. -/
theorem domain_removed_neighbours :
    ((deleteDomain "EXAMPLE.org").run neighbours).1 = .ok () ∧
    ∃ after, ((deleteDomain "EXAMPLE.org").run neighbours).2.store.database.tables = some after ∧
      after.domains.map DomainRow.name = ["example.net"] ∧
      after.records.map RecordRow.name = [some "example.net"] ∧
      after.metadata.map MetadataRow.domainId = [2] := by
  obtain ⟨before, after, hbefore, hafter, -, -, hremoved⟩ :=
    domain_removed neighbours ⟨8, true, none, _, rfl⟩ (by decide)
      (fun h c hc => by cases h <;> cases hc)
      "EXAMPLE.org"
  obtain rfl := Option.some.inj (hbefore.symm.trans rfl)
  obtain ⟨hok, rfl⟩ := hremoved _ List.mem_cons_self (by decide)
  exact ⟨hok, _, hafter, rfl, rfl, rfl⟩

end Backend

end ZoneStore
