import ZoneStore.Proofs.Backend.AllOrNothing
import ZoneStore.Proofs.Table.Ownership

/-!
# Keys are unique

Ids are unique in every table; names of domains, addresses with nameservers of autoprimaries, and
names with algorithms of TSIG keys are unique in that no two of them are alike, where a TSIG key
without a name or an algorithm clashes with none (`Tables.UniqueKeys`). Every mutation upholds this:
a new row gets an id beyond those that are there and is refused where it would clash, or takes the
place of the rows that it clashes with. So it holds of the committed tables and of the views of all
open transactions (`Backend.unique_keys`).
-/

set_option autoImplicit false

namespace ZoneStore

/-! ## Unique keys -/

namespace Tables

/-- Ids are unique in each table, no two domains have names that are alike, and no two autoprimaries
and no two TSIG keys clash. -/
structure UniqueKeys (t : Tables) : Prop where
  domainIds : (t.domains.map DomainRow.id).Nodup
  recordIds : (t.records.map RecordRow.id).Nodup
  autoprimaryIds : (t.autoprimaries.map AutoprimaryRow.id).Nodup
  commentIds : (t.comments.map CommentRow.id).Nodup
  metadataIds : (t.metadata.map MetadataRow.id).Nodup
  keyIds : (t.keys.map KeyRow.id).Nodup
  tsigKeyIds : (t.tsigKeys.map TsigRow.id).Nodup
  domains : (t.domains.map fun d => Text.collationKey d.name).Nodup
  autoprimaries : t.autoprimaries.Pairwise fun a other =>
    ¬ (a.ip = other.ip ∧ Text.alike a.nameserver other.nameserver = true)
  tsigKeys : t.tsigKeys.Pairwise fun k other =>
    ¬ (holdsAnyCase k.name other.name = true ∧ holdsAnyCase k.algorithm other.algorithm = true)

theorem uniqueKeys_empty : Tables.empty.UniqueKeys :=
  ⟨.nil, .nil, .nil, .nil, .nil, .nil, .nil, .nil, .nil, .nil⟩

variable {t t' : Tables} {m : Mutation}

theorem UniqueKeys.alters (h : t.UniqueKeys) (hm : m.Alters t t') : t'.UniqueKeys := by
  cases hm with
  | nothing => exact h
  | addRecord => exact { h with recordIds := nodup_append_nextId h.recordIds (.refl _) rfl }
  | removeRecords => exact { h with recordIds := nodup_without h.recordIds }
  | reorderRecords => exact { h with recordIds := nodup_revise h.recordIds fun _ => rfl }
  | addDomain kind name masters account hfree =>
    exact { h with
      domainIds := nodup_append_nextId h.domainIds (.refl _) rfl
      domains := nodup_names_append h.domains hfree }
  | reviseDomains m p f hid hname =>
    exact { h with
      domainIds := nodup_revise h.domainIds hid
      domains := nodup_revise h.domains fun d => congrArg Text.collationKey (hname d) }
  | removeDomain name =>
    exact { h with
      domainIds := nodup_without h.domainIds
      domains := h.domains.sublist (List.filter_sublist.map _) }
  | addAutoprimary ip nameserver account hfree =>
    refine { h with
      autoprimaryIds := nodup_append_nextId h.autoprimaryIds (.refl _) rfl
      autoprimaries := pairwise_append_singleton h.autoprimaries ?_ }
    rintro a ha ⟨hip, hnameserver⟩
    refine List.any_eq_false.1 hfree a ha ?_
    simp only [isAutoprimary, holdsAnyCase, holds_some_some, Bool.and_eq_true]
    exact ⟨beq_iff_eq.2 hip, hnameserver⟩
  | removeAutoprimaries m p =>
    exact { h with
      autoprimaryIds := nodup_without h.autoprimaryIds
      autoprimaries := h.autoprimaries.sublist List.filter_sublist }
  | addComment => exact { h with commentIds := nodup_append_nextId h.commentIds (.refl _) rfl }
  | removeComments => exact { h with commentIds := nodup_without h.commentIds }
  | addMetadata => exact { h with metadataIds := nodup_append_nextId h.metadataIds (.refl _) rfl }
  | removeMetadata => exact { h with metadataIds := nodup_without h.metadataIds }
  | addKey => exact { h with keyIds := nodup_append_nextId h.keyIds (.refl _) rfl }
  | reviseKeys m p f hmarks =>
    have hid (k : KeyRow) : (f k).id = k.id := by
      obtain ⟨active, published, hk⟩ := hmarks k
      rw [hk]
    exact { h with keyIds := nodup_revise h.keyIds hid }
  | removeKeys => exact { h with keyIds := nodup_without h.keyIds }
  | setTsigKey name algorithm secret =>
    have hothers := h.tsigKeys.sublist
      (List.filter_sublist (p := fun k => !isTsigKey name algorithm k))
    refine { h with
      tsigKeyIds := nodup_append_nextId h.tsigKeyIds List.filter_sublist rfl
      tsigKeys := pairwise_append_singleton hothers ?_ }
    -- The keys that the new one clashes with are those that it replaces.
    rintro k hk ⟨hname, halgorithm⟩
    have hother := (mem_without.1 hk).2
    simp [isTsigKey, hname, halgorithm] at hother
  | removeTsigKeys =>
    exact { h with
      tsigKeyIds := nodup_without h.tsigKeyIds
      tsigKeys := h.tsigKeys.sublist List.filter_sublist }

/-- The id of a name is that of the one domain that has it. -/
theorem UniqueKeys.domainId?_eq_some_iff (h : t.UniqueKeys) {name : String} {id : Int} :
    t.domainId? (some name) = some id ↔
      ∃ d ∈ t.domains, Text.alike d.name name = true ∧ d.id = id := by
  constructor
  · intro hfound
    obtain ⟨d, hd, rfl⟩ := Option.map_eq_some_iff.1 hfound
    have hnamed : d.isNamed (some name) = true := by simpa using List.find?_some hd
    exact ⟨d, List.mem_of_find?_eq_some hd, hnamed, rfl⟩
  · rintro ⟨d, hd, hname, rfl⟩
    exact domainId?_of_mem h.domains hd hname

/-- Two names that lead to one domain are alike. -/
theorem UniqueKeys.alike_of_domainId? (h : t.UniqueKeys) {name other : String} {id : Int}
    (hname : t.domainId? (some name) = some id) (hother : t.domainId? (some other) = some id) :
    Text.alike name other = true := by
  obtain ⟨d, hd, hname, hid⟩ := h.domainId?_eq_some_iff.1 hname
  obtain ⟨e, he, hother, hid'⟩ := h.domainId?_eq_some_iff.1 hother
  obtain rfl := List.inj_on_of_nodup_map h.domainIds hd he (hid.trans hid'.symm)
  exact Text.alike_trans (Text.alike_comm name d.name ▸ hname) hother

end Tables

/-- Every mutation upholds the uniqueness of keys, whatever its values are. -/
theorem Mutation.upholds_uniqueKeys (m : Mutation) : m.Upholds Tables.UniqueKeys :=
  upholds_of_alters fun _ _ ht hm => ht.alters hm

/-! ## Single mutations on an unlocked database -/

namespace Connection

variable {c : Connection} {db : Database} {t : Tables} {m : Mutation}

/-- Outside a transaction a mutation that the tables do not refuse takes effect at once. -/
theorem mutate_of_apply_ok (hmode : c.mode = .autocommit) (ht : db.tables = some t)
    (hlocked : db.locked = false) {change : Change} (h : m.apply t = .ok change) :
    c.mutate db m =
      (.ok change.rows, c.after (.ok change), db.install change.tables change.alters) := by
  have hview : c.view? db = some t := by rw [view?, hmode]; exact ht
  have hmay : c.mayWrite db = true := by rw [mayWrite, hmode]; simp [hlocked]
  simp only [mutate, hview, hmay, h, if_true, place, mode_after, hmode]

end Connection

/-- A mutation that is run directly has the outcome that it has on a connection outside any
transaction, leaves the database as that does, and gives the connection back. -/
theorem Store.CalmWith.run_perform {s : Store} (hs : s.Calm) (hfree : s.HasFree) (m : Mutation) :
    ∃ (c : Connection) (u : Store), c.mode = .autocommit ∧
      (Store.perform m).run s = ((c.mutate s.database m).1.mapError .database, u) ∧
      u.database = (c.mutate s.database m).2.2 ∧ u.pool.free = s.pool.free := by
  obtain ⟨c, u, htake, hmode, hu, hdb, hless⟩ := hs.takeConnection hfree
  have hown : u.repertoire.role? m.statement = some .own := by
    rw [hu.repertoire]
    rfl
  let left := (Work.mk c u).count.keep (c.mutate u.database m).2.1 (c.mutate u.database m).2.2
  have hwork : (Work.perform m).run ⟨c, u⟩ =
      ((c.mutate u.database m).1.mapError .database, left) :=
    (Work.run_perform_of_own (w := ⟨c, u⟩) hown).trans (Work.run_mutate m _)
  have hdone : left.connection.mode = .autocommit := (c.mutate_moves hmode m).1
  rw [← hdb]
  refine ⟨c, left.store.release left.connection, hmode, ?_, ?_, ?_⟩
  · simp only [Store.perform, Store.direct, Action.run_bind, htake, Store.run_runOn, hwork,
      Store.run_giveBack, Action.run_ofExcept]
  · -- The connection is given back outside any transaction.
    simp only [Store.release, Connection.finish, hdone]
    rfl
  · rw [Store.free_release]
    exact hless

namespace Backend

variable {b : Backend} {t : Tables} {m : Mutation}

/-- On an unlocked database a mutation that the tables do not refuse succeeds. -/
theorem run_perform_of_apply_ok (hb : b.store.Calm) (hfree : b.HasFree)
    (ht : b.store.database.tables = some t) (hlocked : b.store.database.locked = false)
    {change : Change} (h : m.apply t = .ok change) :
    ((perform m).run b).1 = .ok () ∧
      ((perform m).run b).2.store.database.tables = some change.tables := by
  obtain ⟨c, u, hmode, hrun, hdb, -⟩ := hb.run_perform hfree m
  rw [Connection.mutate_of_apply_ok hmode ht hlocked h] at hrun hdb
  simp only [perform, Action.run_bind, run_onStore, hrun]
  exact ⟨rfl, congrArg Database.tables hdb⟩

/-- Without a free connection no mutation is run. -/
theorem run_perform_of_none (h : ¬ b.HasFree) (m : Mutation) :
    (perform m).run b = (.error (.database .noConnection), b) := by
  rw [perform, Action.run_bind, run_onStore, Store.perform, Store.run_direct_of_none h]

/-- A mutation that succeeds has found a free connection, and has given it back. -/
theorem hasFree_of_perform (hb : b.store.Calm) (h : ((perform m).run b).1 = .ok ()) :
    b.HasFree ∧ ((perform m).run b).2.HasFree := by
  have hfree : b.HasFree := by
    by_contra hnone
    rw [run_perform_of_none hnone] at h
    cases h
  refine ⟨hfree, ?_⟩
  obtain ⟨c, u, -, hrun, -, hsame⟩ := hb.run_perform hfree m
  rw [HasFree, Store.HasFree, perform, Action.run_bind, run_onStore, hrun]
  cases (c.mutate b.store.database m).1 <;> exact hsame ▸ hfree

/-- A mutation that succeeds has changed the committed tables. -/
theorem exists_change_of_perform (hb : b.store.Calm) (h : ((perform m).run b).1 = .ok ()) :
    ∃ t change, b.store.database.tables = some t ∧ m.apply t = .ok change ∧
      ((perform m).run b).2.store.database.tables = some change.tables := by
  have hfree := (hasFree_of_perform hb h).1
  obtain ⟨c, u, hmode, hrun, hdb, -⟩ := hb.run_perform hfree m
  have hview : c.view? b.store.database = b.store.database.tables := by
    rw [Connection.view?, hmode]
  have hlocked : b.store.database.locked = false := by
    by_contra hlocked
    have hmay : c.mayWrite b.store.database = false := by
      rw [Connection.mayWrite, hmode]
      simpa using hlocked
    simp only [perform, Action.run_bind, run_onStore, hrun, Connection.mutate, hmay] at h
    cases hview' : c.view? b.store.database with
    | none =>
      rw [hview'] at h
      cases h
    | some t =>
      rw [hview'] at h
      cases h
  cases hrows : (c.mutate b.store.database m).1 with
  | error fault =>
    simp only [perform, Action.run_bind, run_onStore, hrun, hrows] at h
    cases h
  | ok rows =>
    obtain ⟨t, change, ht, happly, -, -⟩ := Connection.exists_change_of_mutate hrows
    have htables := hview.symm.trans ht
    exact ⟨t, change, htables, happly, (run_perform_of_apply_ok hb hfree htables hlocked happly).2⟩

/-- The id of a domain does not depend on the case in which its name is given. -/
theorem domainId?_congr {name other : String} (h : Text.alike name other = true) :
    domainId? name = domainId? other := by
  have hquery : Query.domainId (some name) = Query.domainId (some other) := by
    simp only [Query.domainId, Tables.isNamed_congr h]
  rw [domainId?, hquery]
  rfl

/-! ## Runs -/

/-- Wherever a run leads to, keys are unique in the committed tables and in every view. -/
theorem ReachableWithFaults.obeys (h : b.ReachableWithFaults) :
    ∃ r, b.Obeys r Tables.UniqueKeys := by
  induction h with
  | bare connections dnssec hasher =>
    refine ⟨.full, ⟨Store.calm_on .bare connections, ?_⟩, ?_⟩
    · intro t ht
      cases ht
    · intro h c hc
      cases h <;> cases hc
  | provision _ ih =>
    obtain ⟨r, hb⟩ := ih
    refine ⟨r, hb.congr ⟨hb.store.calm.provision, ?_⟩ rfl⟩
    rcases hb.store.calm.database_provision with hdb | hdb
    · exact hdb ▸ hb.store.database.provision Tables.uniqueKeys_empty
    · exact hdb ▸ hb.store.database
  | disturb _ hr ih =>
    obtain ⟨_, hb⟩ := ih
    exact ⟨_, ⟨⟨rfl, hr, hb.store.calm.idle⟩, hb.store.database⟩, hb.transactions⟩
  | next _ step ih =>
    obtain ⟨r, hb⟩ := ih
    exact ⟨r, hb.next step fun m _ => m.upholds_uniqueKeys⟩

theorem Reachable.uniqueKeys (h : b.Reachable) (ht : b.store.database.tables = some t) :
    t.UniqueKeys := by
  obtain ⟨j, hj⟩ := h.matches
  apply Tables.runAll_induction _ Tables.uniqueKeys_empty (hj.runAll_blocks ht)
  intro m _ _ _ hu hm
  exact hu.alters hm

/-- A name that a statement gives as an integer is stored as a text, and is taken from then on. -/
example : ((createDomain "5" .native [] "").run
    ((Backend.provision.run (on (.on .bare 8) false none)).2.next
      (.statement (.perform "insert-zone-query"
        ⟨[("domain", .integer 5), ("type", .text "NATIVE")]⟩)))).1 =
      .error (.database (.notUnique .domains ["name"])) := rfl

end Backend

end ZoneStore
