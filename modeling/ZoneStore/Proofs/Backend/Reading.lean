import ZoneStore.Backend.Operation
import ZoneStore.Proofs.Store.Effects

/-!
# Reading the committed tables

A reading operation is a function of the committed tables: every backend with a free connection
answers it as one that knows the same statements and holds the same tables and nothing else,
whatever transactions are open. Where every connection is in use, reading may fail for the lack of
one, and in no other way. It leaves the tables and the transactions as they are (`OnlyReads`).
`Operation.onlyReads` is this for every operation that reads.
-/

set_option autoImplicit false

namespace ZoneStore

namespace Backend

/-- The backend that has the given committed tables, and no transaction. -/
def holding (tables : Tables) (dnssec : Bool) (hasher : Option Hasher) : Backend :=
  on (.on ⟨some tables, 0, false⟩) dnssec hasher

/-- The backend that knows the given statements and has the given committed tables, if any, and no
transaction. -/
def holdingWith (r : Repertoire) (tables : Option Tables) (dnssec : Bool)
    (hasher : Option Hasher) : Backend :=
  on { Store.on ⟨tables, 0, false⟩ with repertoire := r } dnssec hasher

/-- The number of connections of the pool: those that are free, and those of open transactions. -/
def connections (b : Backend) : Nat := b.store.pool.free + b.registry.opened + b.held.size

/-- Backends with one mode of operation and one number of connections. -/
structure SameMode (b b' : Backend) : Prop where
  dnssec : b'.dnssec = b.dnssec
  hasher : b'.hasher = b.hasher
  connections : b'.connections = b.connections

theorem SameMode.refl (b : Backend) : b.SameMode b := ⟨rfl, rfl, rfl⟩

theorem SameMode.trans {a b c : Backend} (h : a.SameMode b) (h' : b.SameMode c) : a.SameMode c :=
  ⟨h'.dnssec.trans h.dnssec, h'.hasher.trans h.hasher, h'.connections.trans h.connections⟩

/-- What is done on the store alone keeps the mode if it gives back the connections it takes. -/
theorem sameMode_of_free {b : Backend} {s : Store} (h : s.pool.free = b.store.pool.free) :
    b.SameMode { b with store := s } :=
  ⟨rfl, rfl, congrArg (· + b.registry.opened + b.held.size) h⟩

/-- Backends that differ at most in what reading leaves behind: in the connections that are idle and
in their counts. -/
structure Same (b b' : Backend) : Prop extends SameMode b b' where
  registry : b'.registry = b.registry
  held : b'.held = b.held
  database : b'.store.database = b.store.database
  free : b'.store.pool.free = b.store.pool.free

theorem Same.refl (b : Backend) : b.Same b := ⟨.refl b, rfl, rfl, rfl, rfl⟩

theorem Same.trans {a b c : Backend} (h : a.Same b) (h' : b.Same c) : a.Same c :=
  ⟨h.toSameMode.trans h'.toSameMode, h'.registry.trans h.registry, h'.held.trans h.held,
    h'.database.trans h.database, h'.free.trans h.free⟩

theorem Same.hasFree_iff {b b' : Backend} (h : b.Same b') : b'.HasFree ↔ b.HasFree := by
  rw [HasFree, HasFree, Store.HasFree, Store.HasFree, h.free]

variable {α β : Type}

/-- The action answers from the committed tables alone, or fails because no connection is free, and
it changes neither the tables nor a transaction. -/
def OnlyReads (x : BackendM α) : Prop :=
  ∀ ⦃r : Repertoire⦄ (b : Backend) (tables : Option Tables), b.store.CalmWith r →
    b.store.database.tables = tables →
    ((x.run b).1 = (x.run (holdingWith r tables b.dnssec b.hasher)).1 ∨
      ¬ b.HasFree ∧ (x.run b).1 = .error (.database .noConnection)) ∧
      (x.run b).2.store.CalmWith r ∧ b.Same (x.run b).2

/-- With a free connection the action answers from the committed tables. -/
theorem OnlyReads.answer {x : BackendM α} (hx : OnlyReads x) {r : Repertoire} {b : Backend}
    {tables : Option Tables} (hb : b.store.CalmWith r) (htables : b.store.database.tables = tables)
    (hfree : b.HasFree) :
    (x.run b).1 = (x.run (holdingWith r tables b.dnssec b.hasher)).1 :=
  (hx b tables hb htables).1.resolve_right fun h => h.1 hfree

theorem calmWith_holdingWith {r : Repertoire} (h : r.Orderly) (tables : Option Tables)
    (dnssec : Bool) (hasher : Option Hasher) :
    (holdingWith r tables dnssec hasher).store.CalmWith r :=
  ⟨rfl, h, fun _ hc => absurd hc List.not_mem_nil⟩

theorem hasFree_holdingWith (r : Repertoire) (tables : Option Tables) (dnssec : Bool)
    (hasher : Option Hasher) : (holdingWith r tables dnssec hasher).HasFree := by
  show 0 < Settings.default.poolSize.toNat
  decide

theorem hasFree_holding (tables : Tables) (dnssec : Bool) (hasher : Option Hasher) :
    (holding tables dnssec hasher).HasFree :=
  hasFree_holdingWith .full (some tables) dnssec hasher

theorem onlyReads_ofExcept (outcome : Except Fault α) : OnlyReads (Action.ofExcept outcome) := by
  intro r b tables hb _
  rw [Action.run_ofExcept, Action.run_ofExcept]
  exact ⟨Or.inl rfl, hb, .refl b⟩

theorem onlyReads_pure (a : α) : OnlyReads (pure a) := onlyReads_ofExcept (.ok a)

theorem onlyReads_throw (fault : Fault) : OnlyReads (throw fault : BackendM α) :=
  onlyReads_ofExcept (.error fault)

theorem onlyReads_ofDatabase (outcome : Except DatabaseFault α) :
    OnlyReads (Action.ofDatabase outcome) :=
  onlyReads_ofExcept _

theorem OnlyReads.bind {x : BackendM α} {f : α → BackendM β} (hx : OnlyReads x)
    (hf : ∀ a, OnlyReads (f a)) : OnlyReads (x >>= f) := by
  intro r b tables hb htables
  obtain ⟨hanswer, hcalm, hsame⟩ := hx b tables hb htables
  -- The other backend is read in the same way, so both go on with the same value.
  obtain ⟨-, hcalm', hsame'⟩ := hx (holdingWith r tables b.dnssec b.hasher) tables
    (calmWith_holdingWith hb.orderly _ _ _) rfl
  rw [Action.run_bind, Action.run_bind]
  rcases hrun : x.run b with ⟨outcome, b'⟩
  rcases hrun' : x.run (holdingWith r tables b.dnssec b.hasher) with ⟨outcome', h'⟩
  rw [hrun] at hanswer hcalm hsame
  rw [hrun'] at hanswer hcalm' hsame'
  rcases hanswer with heq | ⟨hnone, heq⟩
  · obtain rfl : outcome = outcome' := heq
    cases outcome with
    | error fault => exact ⟨Or.inl rfl, hcalm, hsame⟩
    | ok a =>
      have hdb := congrArg Database.tables hsame.database
      obtain ⟨hanswer, hcalm, hlast⟩ := hf a b' tables hcalm (hdb.trans htables)
      have hanswer' := (hf a).answer hcalm' (congrArg Database.tables hsame'.database)
        (hsame'.hasFree_iff.2 (hasFree_holdingWith r tables b.dnssec b.hasher))
      rw [hsame'.dnssec, hsame'.hasher] at hanswer'
      rw [hsame.dnssec, hsame.hasher, hsame.hasFree_iff] at hanswer
      refine ⟨?_, hcalm, hsame.trans hlast⟩
      rcases hanswer with hanswer | hnone
      · exact Or.inl (hanswer.trans hanswer'.symm)
      · exact Or.inr hnone
  · obtain rfl : outcome = .error (.database .noConnection) := heq
    exact ⟨Or.inr ⟨hnone, rfl⟩, hcalm, hsame⟩

/-- Without a free connection no query is answered. -/
theorem run_fetch_of_none {ρ : Type} {b : Backend} (h : ¬ b.HasFree) (q : Query ρ) :
    (fetch q).run b = (.error (.database .noConnection), b) := by
  rw [fetch, run_onStore, Store.fetch, Store.run_direct_of_none h]

/-- What is answered after a query has found a free connection. -/
theorem hasFree_of_fetch_bind {ρ : Type} {b : Backend} {q : Query ρ} {f : List ρ → BackendM α}
    {a : α} (h : ((fetch q >>= f).run b).1 = .ok a) : b.HasFree := by
  by_contra hnone
  rw [Action.run_bind, run_fetch_of_none hnone] at h
  cases h

theorem onlyReads_fetch {ρ : Type} (q : Query ρ) : OnlyReads (fetch q) := by
  intro r b tables hb htables
  subst htables
  by_cases hfree : b.HasFree
  · obtain ⟨s, hrun, hs, hdb, hsame⟩ := hb.fetch hfree q
    obtain ⟨s', hrun', -⟩ :=
      (calmWith_holdingWith hb.orderly b.store.database.tables b.dnssec b.hasher).fetch
        (hasFree_holdingWith r _ b.dnssec b.hasher) q
    have hanswer : ((fetch q).run
        (holdingWith r b.store.database.tables b.dnssec b.hasher)).1 =
          q.answer r b.store.database.tables := by
      simp only [fetch, run_onStore]
      exact congrArg Prod.fst hrun'
    rw [hanswer]
    simp only [fetch, run_onStore, hrun]
    exact ⟨Or.inl trivial, hs, sameMode_of_free hsame, rfl, rfl, hdb, hsame⟩
  · rw [run_fetch_of_none hfree]
    exact ⟨Or.inr ⟨hfree, rfl⟩, hb, .refl b⟩

theorem onlyReads_requireDnssec : OnlyReads requireDnssec := by
  intro r b tables hb _
  cases hdnssec : b.dnssec <;> simp only [requireDnssec, Action.run_bind, Action.run_get, hdnssec]
  · exact ⟨Or.inl rfl, hb, .refl b⟩
  · exact ⟨Or.inl rfl, hb, .refl b⟩

/-- With the signing mode on, what needs it is done. -/
theorem run_guarded_of_true {x : BackendM α} {b : Backend} (h : b.dnssec = true) :
    (do requireDnssec; x).run b = x.run b := by
  simp [requireDnssec, h]

/-- With the signing mode off, what needs it is refused before anything is done. -/
theorem run_guarded_of_false {x : BackendM α} {b : Backend} (h : b.dnssec = false) :
    (do requireDnssec; x).run b = (.error .dnssecRequired, b) := by
  simp [requireDnssec, h]

theorem onlyReads_readRows {ρ σ : Type} (read : ρ → Except DatabaseFault σ) (rows : List ρ) :
    OnlyReads (readRows read rows) :=
  onlyReads_ofDatabase _

/-! ## Records and comments -/

theorem onlyReads_domainId? (name : String) : OnlyReads (domainId? name) :=
  (onlyReads_fetch _).bind fun _ => onlyReads_pure _

/-- The id of a domain is that of the first committed row with its name. -/
theorem run_domainId?_fst {r : Repertoire} {b : Backend} {tables : Tables}
    (hb : b.store.CalmWith r) (hfree : b.HasFree) (htables : b.store.database.tables = some tables)
    (name : String) :
    ((domainId? name).run b).1 = match r.role? .domainId with
      | none => .error (.unknownStatement Statement.domainId.name)
      | some (.fails cause) => .error (.database cause)
      | some _ => .ok (tables.domainId? (some name)) := by
  obtain ⟨s, hrun, -⟩ := hb.fetch hfree (.domainId (some name))
  rw [htables] at hrun
  simp only [domainId?, fetch, Action.run_bind, run_onStore, hrun]
  have hstatement : (Query.domainId (some name)).statement = .domainId := rfl
  simp only [Query.answer, hstatement]
  have hrows : ((Query.domainId (some name)).rows tables).mapError .database =
      (.ok ((tables.domains.filter (·.isNamed (some name))).map DomainRow.id) :
        Except Fault (List Int)) := rfl
  cases r.role? .domainId with
  | none => rfl
  | some role =>
    cases role with
    | fails cause => rfl
    | own | ends => simp [hrows, Tables.domainId?]

/-- Without a free connection no id is looked up. -/
theorem run_domainId?_of_none {b : Backend} (h : ¬ b.HasFree) (name : String) :
    (domainId? name).run b = (.error (.database .noConnection), b) := by
  rw [domainId?, Action.run_bind, run_fetch_of_none h]

/-- An id that is looked up is that of the first committed row with the name. -/
theorem domainId?_of_ok {r : Repertoire} {b : Backend} {tables : Tables}
    (hb : b.store.CalmWith r) (htables : b.store.database.tables = some tables) {name : String}
    {found : Option Int} (h : ((domainId? name).run b).1 = .ok found) :
    tables.domainId? (some name) = found := by
  by_cases hfree : b.HasFree
  · rw [run_domainId?_fst hb hfree htables] at h
    cases hrole : r.role? .domainId with
    | none =>
      rw [hrole] at h
      cases h
    | some role =>
      rw [hrole] at h
      cases role with
      | fails cause => cases h
      | own | ends => exact Except.ok.inj h
  · rw [run_domainId?_of_none hfree] at h
    cases h

theorem onlyReads_lookup (qtype qname : String) (zone : Option Int) :
    OnlyReads (lookup qtype qname zone) :=
  (onlyReads_fetch _).bind fun _ => (onlyReads_readRows _ _).bind fun _ => onlyReads_pure _

theorem onlyReads_list (name : String) (zone : Option Int) (includeDisabled : Bool) :
    OnlyReads (list name zone includeDisabled) := by
  have rest (z : Int) : OnlyReads (do
      let rows ← fetch (.zoneListing (some z) (some (storedBool includeDisabled)))
      return ResourceRecord.sortSets (← readRows ResourceRecord.ofListingRow rows)) :=
    (onlyReads_fetch _).bind fun _ => (onlyReads_readRows _ _).bind fun _ => onlyReads_pure _
  cases zone with
  | some z => exact rest z
  | none =>
    refine (onlyReads_domainId? name).bind fun found => ?_
    cases found with
    | some z => exact rest z
    | none => exact onlyReads_throw _

theorem onlyReads_listSubzone (name : String) (zone : Int) : OnlyReads (listSubzone name zone) :=
  (onlyReads_fetch _).bind fun _ => (onlyReads_readRows _ _).bind fun _ => onlyReads_pure _

theorem onlyReads_searchRecords (pattern : String) (limit : UInt32) :
    OnlyReads (searchRecords pattern limit) :=
  (onlyReads_fetch _).bind fun _ => onlyReads_readRows _ _

theorem onlyReads_listComments (zone : Int) : OnlyReads (listComments zone) :=
  (onlyReads_fetch _).bind fun _ => onlyReads_pure _

theorem onlyReads_searchComments (pattern : String) (limit : UInt32) :
    OnlyReads (searchComments pattern limit) :=
  (onlyReads_fetch _).bind fun _ => onlyReads_pure _

theorem onlyReads_orderEntry (q : Query (String × Option String)) : OnlyReads (orderEntry q) :=
  (onlyReads_fetch _).bind fun _ => (onlyReads_ofDatabase _).bind fun _ => onlyReads_pure _

/-! ## Domains, autoprimaries, metadata and keys -/

theorem onlyReads_domainInfo? (name : String) : OnlyReads (domainInfo? name) :=
  (onlyReads_fetch _).bind fun _ => onlyReads_pure _

theorem onlyReads_allDomains (includeDisabled : Bool) : OnlyReads (allDomains includeDisabled) :=
  (onlyReads_fetch _).bind fun _ => (onlyReads_ofExcept _).bind fun _ => onlyReads_pure _

theorem onlyReads_updatedMasters : OnlyReads updatedMasters :=
  (onlyReads_fetch _).bind fun _ => (onlyReads_ofExcept _).bind fun _ => onlyReads_pure _

theorem onlyReads_firstAutoprimary (ip : String) (nameservers : List String) :
    OnlyReads (firstAutoprimary ip nameservers) := by
  induction nameservers with
  | nil => exact onlyReads_pure _
  | cons nameserver rest ih =>
    rw [firstAutoprimary]
    refine (onlyReads_fetch _).bind fun rows => ?_
    cases rows.head? with
    | some row => exact onlyReads_pure _
    | none => exact ih

theorem onlyReads_autoprimaryAddresses (nameserver account : String) :
    OnlyReads (autoprimaryAddresses nameserver account) :=
  (onlyReads_fetch _).bind fun _ => onlyReads_pure _

theorem onlyReads_domainKeys (name : String) : OnlyReads (domainKeys name) :=
  onlyReads_requireDnssec.bind fun _ => (onlyReads_fetch _).bind fun _ => onlyReads_readRows _ _

theorem onlyReads_allDomainMetadata (name : String) : OnlyReads (allDomainMetadata name) :=
  (onlyReads_fetch _).bind fun _ => (onlyReads_readRows _ _).bind fun _ => onlyReads_pure _

end Backend

/-! ## Every reading operation -/

/-- Whether the operation reads: it looks up, lists or searches, and changes nothing. -/
def Operation.isRead : {α : Type} → Operation α → Bool
  | _, lookup _ _ _ | _, list _ _ _ | _, listSubzone _ _ | _, searchRecords _ _
  | _, listComments _ | _, searchComments _ _ | _, orderFirst _ | _, orderLast _
  | _, orderBefore _ _ | _, orderAfter _ _ | _, domainId? _ | _, domainInfo? _ | _, allDomains _
  | _, updatedMasters | _, authorize _ _ _ | _, listAutoprimaries | _, autoprimaryAddresses _ _
  | _, tsigKey? _ | _, tsigKeys | _, domainKeys _ | _, allDomainMetadata _
  | _, domainMetadata _ _ => true
  | _, _ => false

open Backend in
/-- A reading operation answers from the committed tables alone. -/
theorem Operation.onlyReads {α : Type} (op : Operation α) (h : op.isRead = true) :
    OnlyReads op.run := by
  cases op with
  | lookup qtype qname zone => exact onlyReads_lookup qtype qname zone
  | list name zone includeDisabled => exact onlyReads_list name zone includeDisabled
  | listSubzone name zone => exact onlyReads_listSubzone name zone
  | searchRecords pattern limit => exact onlyReads_searchRecords pattern limit
  | listComments zone => exact onlyReads_listComments zone
  | searchComments pattern limit => exact onlyReads_searchComments pattern limit
  | orderFirst | orderLast | orderBefore | orderAfter => exact onlyReads_orderEntry _
  | domainId? name => exact onlyReads_domainId? name
  | domainInfo? name => exact onlyReads_domainInfo? name
  | allDomains includeDisabled => exact onlyReads_allDomains includeDisabled
  | updatedMasters => exact onlyReads_updatedMasters
  | authorize ip domain nameservers => exact onlyReads_firstAutoprimary ip _
  | listAutoprimaries => exact (onlyReads_fetch _).bind fun _ => onlyReads_pure _
  | autoprimaryAddresses nameserver account =>
    exact onlyReads_autoprimaryAddresses nameserver account
  | tsigKey? name => exact (onlyReads_fetch _).bind fun _ => onlyReads_pure _
  | tsigKeys => exact (onlyReads_fetch _).bind fun _ => onlyReads_pure _
  | domainKeys name => exact onlyReads_domainKeys name
  | allDomainMetadata name => exact onlyReads_allDomainMetadata name
  | domainMetadata name kind => exact (onlyReads_fetch _).bind fun _ => onlyReads_pure _
  | _ => cases h

end ZoneStore
