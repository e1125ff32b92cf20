import ZoneStore.Proofs.Backend.RoundTrip
import ZoneStore.Proofs.Domain.Orphans

/-!
# Histories of signing keys

Each operation does to the stored keys what its event tells
(`Operation.Advances.storesKey_of_event`), and an operation that is no event leaves them alone. So
after every run of operations the keys that the tables store are those that the events of the run
have left (`Backend.followsKeys_operated`). After a run in the signing mode that starts no
transaction these are the keys that are listed for a name, a key is added to every existing domain
under an id that no stored key has, and a call that names no key of its domain changes nothing
(`Backend.key_histories`).
-/

set_option autoImplicit false

namespace ZoneStore

open Backend

/-! ## Mutations that keep the keys -/

/-- The mutation neither writes a signing key nor creates or deletes a domain. -/
def Mutation.keepsKeys : Mutation → Bool
  | insertDomain _ _ _ _ | deleteDomain _ | addKey _ _ _ _ _ | setKeyActive _ _ _
  | setKeyPublished _ _ _ | removeKey _ _ | clearKeys _ => false
  | _ => true

theorem Mutation.keepsKeys_of_target {m : Mutation} (hdomains : m.target ≠ .domains)
    (hkeys : m.target ≠ .cryptokeys) : m.keepsKeys = true := by
  cases m with
  | insertDomain | deleteDomain => exact absurd rfl hdomains
  | addKey | setKeyActive | setKeyPublished | removeKey | clearKeys => exact absurd rfl hkeys
  | _ => rfl

theorem Mutation.IsZoneUpdate.keepsKeys {m : Mutation} (h : m.IsZoneUpdate) :
    m.keepsKeys = true := by
  rcases h.target with htarget | htarget
  · exact keepsKeys_of_target (by simp [htarget]) (by simp [htarget])
  · exact keepsKeys_of_target (by simp [htarget]) (by simp [htarget])

namespace Tables

variable {t t' : Tables} {name : String} {key : SigningKey}

/-- Names lead to the same domains where none is created or deleted. -/
theorem domainId?_of_keepsKeys {m : Mutation} (hm : m.keepsKeys = true) {change : Change}
    (happly : m.apply t = .ok change) (name : Option String) :
    change.tables.domainId? name = t.domainId? name := by
  by_cases htarget : m.target = .domains
  · cases m with
    | setMasters | setAccount | setNotifiedSerial | setLastCheck =>
      cases happly
      refine domainId?_revise ?_ ?_ name
      · exact fun _ => rfl
      · exact fun _ => rfl
    | setKind other kind =>
      cases kind with
      | some kind =>
        cases happly
        refine domainId?_revise ?_ ?_ name
        · exact fun _ => rfl
        · exact fun _ => rfl
      | none =>
        simp only [Mutation.apply, setKind] at happly
        split at happly
        · cases happly
        · cases happly
          rfl
    | insertDomain | deleteDomain => cases hm
    | _ => cases htarget
  · rw [domainId?, domainId?, (Mutation.keepsBeside_target happly).domains htarget]

theorem storesKey_of_keepsKeys {m : Mutation} (hm : m.keepsKeys = true) {change : Change}
    (happly : m.apply t = .ok change) :
    change.tables.StoresKey name key ↔ t.StoresKey name key := by
  have htarget : m.target ≠ .cryptokeys := by
    intro htarget
    cases m with
    | addKey | setKeyActive | setKeyPublished | removeKey | clearKeys => cases hm
    | _ => cases htarget
  refine storesKey_congr ((Mutation.keepsBeside_target happly).keys htarget) fun k _ => ?_
  rw [domainId?_of_keepsKeys hm happly]

theorem storesKey_of_runAll {ms : List Mutation} (hms : ∀ m ∈ ms, m.keepsKeys = true)
    (hrun : t.runAll ms = .ok t') : t'.StoresKey name key ↔ t.StoresKey name key := by
  refine runAll_apply_induction (P := fun u => u.StoresKey name key ↔ t.StoresKey name key) ?_
    Iff.rfl hrun
  intro m hm u change hu happly
  exact (storesKey_of_keepsKeys (hms m hm) happly).trans hu

end Tables

/-! ## Single operations -/

namespace Operation

variable {α : Type} {op : Operation α} {b : Backend} {t t' : Tables} {name : String}
  {key : SigningKey}

/-- Only what gives a result is an event. -/
theorem exists_ok_of_keyEvent? {outcome : Except Fault α} {e : KeyEvent}
    (h : op.keyEvent? outcome = some e) : ∃ a, outcome = .ok a := by
  cases outcome with
  | ok a => exact ⟨a, rfl⟩
  | error fault => cases op <;> cases h

/-- An operation that is an event does to the stored keys what the event tells. -/
theorem Advances.storesKey_of_event (h : op.Advances b t t') (hb : b.store.Calm)
    (ht : b.store.database.tables = some t)
    (ht' : (op.run.run b).2.store.database.tables = some t') (hunique : t.UniqueKeys)
    (hunique' : t'.UniqueKeys) {e : KeyEvent} (he : op.keyEvent? (op.run.run b).1 = some e) :
    t'.StoresKey name key ↔ e.Leaves t.StoresKey name key := by
  obtain ⟨a, ha⟩ := exists_ok_of_keyEvent? he
  rw [ha] at he
  cases op with
  | addDomainKey other given =>
    obtain rfl := Option.some.inj he
    obtain ⟨u, u', hu, hu', domain, hdomain, rfl⟩ :=
      (allOrNothing_addDomainKey hb other given).done a ha
    obtain rfl := Option.some.inj (ht.symm.trans hu)
    obtain rfl := Option.some.inj (ht'.symm.trans hu')
    exact hunique.storesKey_append hdomain (SigningKey.ofRow_added given a domain)
  | removeDomainKey other id =>
    obtain rfl := Option.some.inj he
    obtain rfl := Except.ok.inj (h.runAll (by rw [ha]; rfl) rfl)
    exact hunique.storesKey_remove
  | setDomainKeyActive other id active =>
    obtain rfl := Option.some.inj he
    obtain rfl := Except.ok.inj (h.runAll (by rw [ha]; rfl) rfl)
    exact hunique.storesKey_mark .active active
  | setDomainKeyPublished other id published =>
    obtain rfl := Option.some.inj he
    obtain rfl := Except.ok.inj (h.runAll (by rw [ha]; rfl) rfl)
    exact hunique.storesKey_mark .published published
  | deleteDomain other =>
    obtain rfl := Option.some.inj he
    obtain ⟨u, u', hu, hu', id, -, hrun⟩ := (allOrNothing_deleteDomain hb other).done a ha
    obtain rfl := Option.some.inj (ht.symm.trans hu)
    obtain rfl := Option.some.inj (ht'.symm.trans hu')
    rw [Tables.runAll_domainRemoval] at hrun
    obtain rfl := Except.ok.inj hrun
    exact hunique.storesKey_removal hunique' rfl rfl
  | _ => cases he

/-- An operation that is no event leaves the stored keys as they are. -/
theorem Advances.storesKey_of_no_event (h : op.Advances b t t') (hunique : t.UniqueKeys)
    (hunique' : t'.UniqueKeys) (howned : t.KeysOwned)
    (he : op.keyEvent? (op.run.run b).1 = none) :
    t'.StoresKey name key ↔ t.StoresKey name key := by
  cases h with
  | updates ms _ hms hrun =>
    exact Tables.storesKey_of_runAll (fun m hm => (hms m hm).keepsKeys) hrun
  | done ms hdone hdeed hrun =>
    obtain ⟨a, ha⟩ := exists_ok_of_succeeded hdone
    rw [ha] at he
    cases op with
    | createDomain | createSlaveDomain =>
      cases hdeed
      obtain ⟨row, htables, -, hnew⟩ := Tables.exists_row_of_insertDomain hrun
      exact hunique.storesKey_insertDomain hunique' howned hnew htables
    | setNotified | setFresh | setMasters | setKind | setAccount =>
      cases hdeed
      exact Tables.storesKey_of_runAll (List.forall_mem_singleton.2 rfl) hrun
    | addDomainKey | removeDomainKey | setDomainKeyActive | setDomainKeyPublished
    | deleteDomain => cases he
    | _ =>
      -- What is left writes neither domains nor keys.
      refine Tables.storesKey_of_runAll (fun m hm => ?_) hrun
      have hwritten := target_of_atOnce _ hdeed hm
      refine Mutation.keepsKeys_of_target (fun htarget => ?_) fun htarget => ?_
      · simp [written, htarget] at hwritten
      · simp [written, htarget] at hwritten

end Operation

/-! ## Runs -/

/-- The events of a run in the signing mode. -/
def KeyEvent.ofRun (connections : Nat) (hasher : Option Hasher)
    (ops : List AnyOperation) : List KeyEvent :=
  (on (.on .empty connections) true hasher).trace
    (fun op outcome events => events ++ (op.keyEvent? outcome).toList) [] ops

namespace Tables

/-- The stored keys are those that the events have left. -/
structure FollowsKeys (events : List KeyEvent) (t : Tables) : Prop where
  unique : t.UniqueKeys
  owned : t.KeysOwned
  stored : ∀ name key, t.StoresKey name key ↔ KeyStored events name key

theorem followsKeys_empty : Tables.empty.FollowsKeys [] :=
  ⟨uniqueKeys_empty, keysOwned_empty, fun _ _ => iff_of_false not_storesKey_empty not_keyStored_nil⟩

end Tables

/-- One operation. -/
theorem Operation.Advances.followsKeys {α : Type} {op : Operation α} {b : Backend} {t t' : Tables}
    (h : op.Advances b t t') (hb : b.store.Calm) (ht : b.store.database.tables = some t)
    (ht' : (op.run.run b).2.store.database.tables = some t') {events : List KeyEvent}
    (hevents : t.FollowsKeys events) :
    t'.FollowsKeys (events ++ (op.keyEvent? (op.run.run b).1).toList) := by
  obtain ⟨ms, hblock, hrun⟩ := h.exists_block
  have hunique : t'.UniqueKeys :=
    Tables.runAll_induction (fun m _ _ _ hu hm => hu.alters hm) hevents.unique hrun
  refine ⟨hunique, hevents.owned.block hblock hrun, fun name key => ?_⟩
  have hsame : t.StoresKey = KeyStored events := by
    funext name key
    exact propext (hevents.stored name key)
  cases he : op.keyEvent? (op.run.run b).1 with
  | none =>
    rw [h.storesKey_of_no_event hevents.unique hunique hevents.owned he, hsame, Option.toList_none,
      List.append_nil]
  | some e =>
    rw [h.storesKey_of_event hb ht ht' hevents.unique hunique he, hsame, Option.toList_some,
      keyStored_concat]

namespace Backend

/-- After every run of operations the stored keys are those that its events have left. -/
theorem followsKeys_operated (connections : Nat) (hasher : Option Hasher)
    (ops : List AnyOperation) {t : Tables}
    (ht : (operated connections true hasher ops).store.database.tables = some t) :
    t.FollowsKeys (KeyEvent.ofRun connections hasher ops) := by
  obtain ⟨u, hu, hfollows⟩ := trace_induction (S := Tables.FollowsKeys)
    (f := fun op outcome events => events ++ (op.keyEvent? outcome).toList)
    Tables.followsKeys_empty
    (fun _ _ _ _ _ hb ht ht' h hs => h.followsKeys hb ht ht' hs) connections true hasher ops
  obtain rfl := Option.some.inj (ht.symm.trans hu)
  exact hfollows

end Backend

/-! ## Keys that are listed -/

namespace Tables

variable {t : Tables} {events : List KeyEvent} {name other : String} {id : Int}

/-- An id is that of one key, in one domain. -/
theorem FollowsKeys.eq_of_id (h : t.FollowsKeys events) {key key' : SigningKey}
    (hkey : KeyStored events name key) (hkey' : KeyStored events other key')
    (hid : key.id = key'.id) : Text.alike name other = true ∧ key = key' := by
  obtain ⟨k, hk, hname, hread⟩ := (h.stored name key).2 hkey
  obtain ⟨k', hk', hother, hread'⟩ := (h.stored other key').2 hkey'
  have hids : k.id = k'.id :=
    (SigningKey.id_of_ofRow hread).symm.trans (hid.trans (SigningKey.id_of_ofRow hread'))
  obtain rfl := List.inj_on_of_nodup_map h.unique.keyIds hk hk' hids
  exact ⟨h.unique.alike_of_domainId? hname hother, Except.ok.inj (hread.symm.trans hread')⟩

/-- No row is the one that a name and an id lead to if no key is. -/
theorem FollowsKeys.countP_isKey (h : t.FollowsKeys events)
    (hread : ∀ k ∈ t.keys, ∃ key, SigningKey.ofRow k = .ok key)
    (hnone : ∀ key, KeyStored events name key → key.id ≠ id) :
    t.keys.countP (isKey (t.domainId? (some name)) (some id)) = 0 := by
  rw [List.countP_eq_zero]
  intro k hk hisKey
  obtain ⟨hof, hid⟩ := Bool.and_eq_true_iff.1 hisKey
  obtain ⟨key, hkey⟩ := hread k hk
  have hstored : t.StoresKey name key := ⟨k, hk, Mutation.eq_some_of_holds hof, hkey⟩
  refine hnone key ((h.stored name key).1 hstored) ?_
  rw [SigningKey.id_of_ofRow hkey]
  exact (Option.some.inj (Mutation.eq_some_of_holds hid)).symm

end Tables

/-- The calls that change a key, which they tell by the name of a domain and an id. -/
inductive KeyCall where
  /-- The key is removed. -/
  | remove
  /-- A mark of the key is set or taken away. -/
  | mark (mark : KeyMark) (value : Bool)

/-- What a call does. -/
def KeyCall.run (name : String) (id : Int) : KeyCall → BackendM Unit
  | remove => removeDomainKey name id
  | mark .active value => setDomainKeyActive name id value
  | mark .published value => setDomainKeyPublished name id value

namespace Backend

variable {b : Backend} {t : Tables} {events : List KeyEvent} {w : Writings}

/-- What the calls that concern signing keys do on a backend with the given tables, after the given
events. -/
structure KeyHistories (b : Backend) (t : Tables) (events : List KeyEvent) : Prop where
  /-- For a name exactly the keys are listed that the events have left, each once. -/
  listed : ∀ name, ∃ keys, ((domainKeys name).run b).1 = .ok keys ∧
    (keys.map SigningKey.id).Nodup ∧ ∀ key, key ∈ keys ↔ KeyStored events name key
  /-- Different keys have different ids, also those of different domains. -/
  apart : ∀ name other key key', KeyStored events name key → KeyStored events other key' →
    key.id = key'.id → Text.alike name other = true ∧ key = key'
  /-- A key is added to an existing domain under an id that no stored key of any domain has. -/
  added : ∀ name given, (∃ d ∈ t.domains, Text.alike d.name name = true) →
    ∃ new, ((addDomainKey name given).run b).1 = .ok new ∧ ∀ k ∈ t.keys, k.id ≠ new
  /-- Without a domain of the name no key is added, and nothing changes. -/
  unknown : ∀ name given, (∀ d ∈ t.domains, Text.alike d.name name = false) →
    ((addDomainKey name given).run b).1 = .error (.domainNotFound name) ∧
      ((addDomainKey name given).run b).2.store.database.tables = some t
  /-- Every call that changes a key succeeds. -/
  succeeds : ∀ (call : KeyCall) name id, ((call.run name id).run b).1 = .ok ()
  /-- It changes nothing if no key of the domain has the id. -/
  foreign : ∀ (call : KeyCall) name id, (∀ key, KeyStored events name key → key.id ≠ id) →
    ((call.run name id).run b).2.store.database.tables = some t

/-- The keys of a domain are listed as they are stored, each once. -/
theorem exists_keys_of_storesKey (hb : b.store.Calm) (hfree : b.HasFree)
    (ht : b.store.database.tables = some t) (hall : t.AllWritten w) (hunique : t.UniqueKeys)
    (hmode : b.dnssec = true) (name : String) :
    ∃ keys, ((domainKeys name).run b).1 = .ok keys ∧ (keys.map SigningKey.id).Nodup ∧
      ∀ key, key ∈ keys ↔ t.StoresKey name key := by
  obtain ⟨keys, hkeys, hrows⟩ := exists_domainKeys hb hfree ht hall hmode name
  refine ⟨keys, hkeys, ?_, fun key => ⟨fun hkey => ?_, ?_⟩⟩
  · have hids : keys.map SigningKey.id =
        (t.keys.filter (Tables.isKeyOf (t.domainId? (some name)))).map KeyRow.id :=
      map_eq_map_iff_forall₂.2 (hrows.flip.imp fun _ _ h => SigningKey.id_of_ofRow h)
    rw [hids]
    exact hunique.keyIds.sublist (List.filter_sublist.map _)
  · obtain ⟨k, hk, hread⟩ := exists_of_mem_right hrows hkey
    obtain ⟨hk, hof⟩ := List.mem_filter.1 hk
    exact ⟨k, hk, Mutation.eq_some_of_holds hof, hread⟩
  · rintro ⟨k, hk, hname, hread⟩
    obtain ⟨keys', hkeys', hkey⟩ := exists_mem_domainKeys hb hfree ht hall hmode hk hname hread
    obtain rfl := Except.ok.inj (hkeys.symm.trans hkeys')
    exact hkey

/-- A call that changes a key succeeds, and changes nothing if there is no such row. -/
theorem Quiet.runKeyCall (h : b.Quiet t) (hmode : b.dnssec = true) (call : KeyCall) (name : String)
    (id : Int) :
    ((call.run name id).run b).1 = .ok () ∧
      (t.keys.countP (Tables.isKey (t.domainId? (some name)) (some id)) = 0 →
        ((call.run name id).run b).2.store.database.tables = some t) := by
  -- Each of these calls is one mutation, which is not refused.
  have hcall {m : Mutation} {change : Change} (hm : m.apply t = .ok change)
      (hsame : t.keys.countP (Tables.isKey (t.domainId? (some name)) (some id)) = 0 →
        change.tables = t) :
      ((updateKey m).run b).1 = .ok () ∧
        (t.keys.countP (Tables.isKey (t.domainId? (some name)) (some id)) = 0 →
          ((updateKey m).run b).2.store.database.tables = some t) := by
    obtain ⟨hok, hafter⟩ := run_perform_of_apply_ok h.calm h.free h.tables h.unlocked hm
    rw [updateKey, run_guarded_of_true hmode]
    refine ⟨hok, fun hnone => ?_⟩
    rw [hafter, hsame hnone]
  cases call with
  | remove =>
    refine hcall (m := .removeKey (some name) (some id)) rfl fun hnone => ?_
    simp only [Tables.deleteKeys, Change.deletion, without_eq_self hnone]
  | mark mark value =>
    cases mark with
    | active =>
      refine hcall (m := .setKeyActive (some name) (some id) value) rfl fun hnone => ?_
      simp only [Tables.updateKeys, revise_eq_self_of_countP hnone]
    | published =>
      refine hcall (m := .setKeyPublished (some name) (some id) value) rfl fun hnone => ?_
      simp only [Tables.updateKeys, revise_eq_self_of_countP hnone]

/-- Histories of signing keys, after every run of operations in the signing mode that starts no
transaction, with at least one connection. For each name exactly those keys are listed that were
added to its domain and since then neither removed under its name nor deleted with it, with the
flags and the material that they were added with, and with the marks that were last set on them by
the domain and the id, if any. A key is added to every existing domain under an id that no stored
key has, and to no other; and a call that gives an id under which the domain has no key changes
nothing. -/
theorem key_histories (connections : Nat) (hconnections : 0 < connections)
    (hasher : Option Hasher) (ops : List AnyOperation) (hops : ∀ op ∈ ops, op.2.starts = false) :
    ∃ t, (operated connections true hasher ops).store.database.tables = some t ∧
      (operated connections true hasher ops).KeyHistories t
        (KeyEvent.ofRun connections hasher ops) := by
  have hmode := dnssec_operated connections true hasher ops
  obtain ⟨t, hquiet⟩ := exists_quiet_operated hconnections true hasher hops
  have hfollows := followsKeys_operated connections hasher ops hquiet.tables
  obtain ⟨u, hu, hall⟩ := allWritten_operated connections true hasher ops
  obtain rfl := Option.some.inj (hu.symm.trans hquiet.tables)
  refine ⟨u, hu, ?_⟩
  constructor
  case listed =>
    intro name
    obtain ⟨keys, hkeys, hids, hmem⟩ :=
      exists_keys_of_storesKey hquiet.calm hquiet.free hu hall hfollows.unique hmode name
    exact ⟨keys, hkeys, hids, fun key => (hmem key).trans (hfollows.stored name key)⟩
  case apart => exact fun _ _ _ _ => hfollows.eq_of_id
  case added =>
    rintro name given ⟨d, hd, hname⟩
    have hid := hfollows.unique.domainId?_eq_some_iff.2 ⟨d, hd, hname, rfl⟩
    refine ⟨nextId KeyRow.id u.keys, ?_, fun k hk => Int.ne_of_lt (lt_nextId KeyRow.id hk)⟩
    rw [hquiet.addDomainKey hmode, hid]
    rfl
  case unknown =>
    intro name given hnone
    have herror : ((addDomainKey name given).run (operated connections true hasher ops)).1 =
        .error (.domainNotFound name) := by
      rw [hquiet.addDomainKey hmode, Tables.domainId?_eq_none_iff.2 hnone]
      rfl
    exact ⟨herror, ((allOrNothing_addDomainKey hquiet.calm name given).failed _ herror).trans hu⟩
  case succeeds => exact fun call name id => (hquiet.runKeyCall hmode call name id).1
  case foreign =>
    intro call name id hnone
    refine (hquiet.runKeyCall hmode call name id).2 (hfollows.countP_isKey (fun k hk => ?_) hnone)
    obtain ⟨key, -, hflags, -⟩ := hall.keys k hk
    rw [SigningKey.ofRow, hflags, readWord_toNat]
    exact ⟨_, rfl⟩

/-- The key of one domain is removed, and its id goes to a key of another domain. -/
def rolledOver : List AnyOperation :=
  [⟨Unit, .createDomain "example.org" .native [] ""⟩,
   ⟨Unit, .createDomain "example.net" .native [] ""⟩,
   ⟨Int, .addDomainKey "example.org" ⟨0, 257, true, true, "old"⟩⟩,
   ⟨Unit, .removeDomainKey "EXAMPLE.org" 1⟩,
   ⟨Int, .addDomainKey "example.net" ⟨0, 256, false, true, "new"⟩⟩,
   ⟨Unit, .setDomainKeyActive "example.org" 1 true⟩,
   ⟨Unit, .setDomainKeyPublished "Example.NET" 1 false⟩]

/-- The mark that was set under the name of the first domain does not reach the new key. -/
theorem key_histories_rolledOver :
    (∀ op ∈ rolledOver, op.2.starts = false) ∧
      ((domainKeys "example.net").run (operated 8 true none rolledOver)).1 =
        .ok [⟨1, 256, false, false, "new"⟩] ∧
      KeyStored (KeyEvent.ofRun 8 none rolledOver) "example.net" ⟨1, 256, false, false, "new"⟩ ∧
      ((removeDomainKey "example.org" 1).run
          (operated 8 true none rolledOver)).2.store.database.tables =
        (operated 8 true none rolledOver).store.database.tables := by
  have hops : ∀ op ∈ rolledOver, op.2.starts = false := by decide
  obtain ⟨t, ht, h⟩ := key_histories 8 (by decide) none rolledOver hops
  have hlist : ((domainKeys "example.net").run (operated 8 true none rolledOver)).1 =
      .ok [⟨1, 256, false, false, "new"⟩] := rfl
  obtain ⟨keys, hkeys, -, hmem⟩ := h.listed "example.net"
  obtain rfl := Except.ok.inj (hlist.symm.trans hkeys)
  have hstored := (hmem _).1 (List.mem_singleton_self _)
  refine ⟨hops, hlist, hstored, ?_⟩
  rw [ht]
  refine h.foreign .remove "example.org" 1 fun key hkey hid => ?_
  -- The id is that of the key of the other domain.
  have halike := (h.apart _ _ _ _ hkey hstored hid).1
  revert halike
  decide

end Backend

end ZoneStore
