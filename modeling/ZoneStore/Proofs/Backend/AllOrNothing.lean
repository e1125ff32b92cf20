import ZoneStore.Proofs.Backend.Serial
import ZoneStore.Proofs.Backend.Upkeep
import ZoneStore.Proofs.Table.Alterations

/-!
# All or nothing

Deleting a domain, replacing metadata and adding a signing key run several statements in a
transaction of their own. Whichever of them is missing or refused, and even if the transaction
cannot be committed, a failure leaves every committed table as it was, and a success has carried out
all of the statements (`AllOrNothing`). In either case no transaction and no lock remains: the
transaction is given back with its connection, which rolls it back unless it was committed. Nor does
a run of calls leave one if none of them starts a transaction (`Backend.exists_quiet_operated`).
-/

set_option autoImplicit false

namespace ZoneStore

/-! ## Results of a transaction -/

/-- If two actions in sequence succeed, the first one does, and then the second one. -/
theorem Action.exists_of_run_bind {σ α β : Type} {x : Action σ α} {f : α → Action σ β} {s : σ}
    {b : β} (h : ((x >>= f).run s).1 = .ok b) :
    ∃ a t, x.run s = (.ok a, t) ∧ ((f a).run t).1 = .ok b := by
  rw [Action.run_bind] at h
  rcases hrun : x.run s with ⟨outcome, t⟩
  rw [hrun] at h
  cases outcome with
  | error fault => cases h
  | ok a => exact ⟨a, t, rfl, h⟩

namespace Connection

@[simp] theorem lastInsertedId_place (c : Connection) (db : Database) (tables : Tables)
    (alters : Bool) : (c.place db tables alters).1.lastInsertedId = c.lastInsertedId := by
  unfold place
  cases c.mode <;> rfl

/-- A mutation that succeeds has changed the tables that the connection sees, and the connection
remembers the id of the new row, if there is one. -/
theorem exists_change_of_mutate {c : Connection} {db : Database} {m : Mutation} {rows : Nat}
    (hrows : (c.mutate db m).1 = .ok rows) :
    ∃ t change, c.view? db = some t ∧ m.apply t = .ok change ∧ change.rows = rows ∧
      (c.mutate db m).2.1.lastInsertedId = change.newId.getD c.lastInsertedId := by
  unfold mutate at hrows ⊢
  cases hview : c.view? db with
  | none =>
    rw [hview] at hrows
    cases hrows
  | some t =>
    cases hmay : c.mayWrite db with
    | false =>
      rw [hview, hmay] at hrows
      cases hrows
    | true =>
      rw [hview, hmay] at hrows
      cases happly : m.apply t with
      | error fault =>
        simp only [happly] at hrows
        cases hrows
      | ok change =>
        simp only [happly] at hrows
        refine ⟨t, change, rfl, happly, Except.ok.inj hrows, ?_⟩
        simp [after, happly]

end Connection

namespace Work

variable {w : Work}

theorem exists_change_of_perform {m : Mutation} {rows : Nat} (hw : w.store.repertoire.Orderly)
    (hrows : ((perform m).run w).1 = .ok rows) :
    ∃ t change, w.connection.view? w.store.database = some t ∧ m.apply t = .ok change ∧
      change.rows = rows ∧ ((perform m).run w).2.connection.lastInsertedId =
        change.newId.getD w.connection.lastInsertedId := by
  cases hrole : w.store.repertoire.role? m.statement with
  | none =>
    rw [perform, Action.run_bind, run_roleOf_of_none hrole] at hrows
    cases hrows
  | some role =>
    cases role with
    | ends ending => exact absurd hrole (hw _ ending)
    | fails cause =>
      rw [run_perform_of_fails hrole] at hrows
      cases hrows
    | own =>
      rw [run_perform_of_own hrole, run_mutate] at hrows ⊢
      -- Counting the statement changes neither the connection nor the database.
      cases hmutate : (w.connection.mutate w.store.database m).1 with
      | error fault =>
        simp only [count, hmutate] at hrows
        cases hrows
      | ok changed =>
        simp only [count, hmutate] at hrows
        obtain rfl : changed = rows := Except.ok.inj hrows
        exact Connection.exists_change_of_mutate hmutate

/-- Mutations, if there is one, can only be carried out on tables. -/
theorem exists_view_of_performAll {m : Mutation} {rest : List Mutation}
    (hw : w.store.repertoire.Orderly) (h : ((performAll (m :: rest)).run w).1 = .ok ()) :
    ∃ t, w.connection.view? w.store.database = some t := by
  obtain ⟨rows, v, hrun, -⟩ := Action.exists_of_run_bind h
  obtain ⟨t, -, hview, -⟩ := exists_change_of_perform hw (congrArg Prod.fst hrun)
  exact ⟨t, hview⟩

/-- The id that is asked for is the one that the connection remembers. -/
theorem eq_of_fetchLastInsertedId {ids : List Int} (hw : w.store.repertoire.Orderly)
    (h : (fetchLastInsertedId.run w).1 = .ok ids) : ids = [w.connection.lastInsertedId] := by
  cases hrole : w.store.repertoire.role? .lastInsertedId with
  | none =>
    rw [fetchLastInsertedId, Action.run_bind, run_roleOf_of_none hrole] at h
    cases h
  | some role =>
    rw [fetchLastInsertedId, Action.run_bind, run_roleOf_of_some hrole] at h
    cases role with
    | ends ending => exact absurd hrole (hw _ ending)
    | fails cause => cases h
    | own => exact (Except.ok.inj h).symm

/-- Where every statement is known the id that the connection remembers is given. -/
theorem run_fetchLastInsertedId_fst (hw : w.store.repertoire = .full) :
    (fetchLastInsertedId.run w).1 = .ok [w.connection.lastInsertedId] := by
  have hrole : w.store.repertoire.role? .lastInsertedId = some .own := by
    rw [hw]
    rfl
  rw [fetchLastInsertedId, Action.run_bind, run_roleOf_of_some hrole]
  rfl

end Work

namespace Store

variable {r : Repertoire} {α : Type}

/-- Without a free connection no transaction of its own begins. -/
theorem hasFree_of_atomically {s : Store} {x : ConnectionM α} {a : α}
    (h : ((atomically x).run s).1 = .ok a) : s.HasFree := by
  by_contra hnone
  rw [atomically, Action.run_bind, run_begin_of_none hnone] at h
  cases h

/-- A transaction of its own begins on a connection that sees the committed tables. -/
theorem exists_run_of_atomically {s : Store} (hs : s.CalmWith r) {x : ConnectionM α} {a : α}
    (h : ((atomically x).run s).1 = .ok a) :
    ∃ w : Work, w.store.CalmWith r ∧ w.connection.view? w.store.database = s.database.tables ∧
      (x.run w).1 = .ok a := by
  obtain ⟨c, t, hbegin, hmode, ht, hdb, -⟩ := hs.begin (hasFree_of_atomically h)
  refine ⟨⟨c, t⟩, ht, by simp only [Connection.view?, hmode, hdb], ?_⟩
  rw [atomically, Action.run_bind, hbegin] at h
  obtain ⟨p, u, hwithin, h⟩ := Action.exists_of_run_bind h
  obtain ⟨-, v, -, h⟩ := Action.exists_of_run_bind h
  obtain rfl : p.1 = a := Except.ok.inj h
  -- What succeeds in the transaction is the action itself.
  cases hx : (x.run ⟨c, t⟩).1 with
  | error fault =>
    simp only [within, Action.run_bind, run_runOn, hx] at hwithin
    cases hwithin
  | ok b =>
    rw [run_within_of_ok hx] at hwithin
    obtain rfl := Except.ok.inj (Prod.mk.inj hwithin).1
    rfl

end Store

/-! ## Actions that are all or nothing -/

namespace Backend

variable {r : Repertoire} {α β : Type}

/-- After a failure the committed tables are as before, and after a success the effect relates them
and the result. Every transaction, the lock and the number of free connections are as before, a
success has found a connection free, and no idle connection is in a transaction. -/
structure AllOrNothing (b : Backend) (after : Except Fault α × Backend)
    (effect : Tables → α → Tables → Prop) : Prop where
  failed : ∀ fault, after.1 = .error fault →
    after.2.store.database.tables = b.store.database.tables
  done : ∀ a, after.1 = .ok a → ∃ t t', b.store.database.tables = some t ∧
    after.2.store.database.tables = some t' ∧ effect t a t'
  registry : after.2.registry = b.registry
  held : after.2.held = b.held
  locked : after.2.store.database.locked = b.store.database.locked
  free : after.2.store.pool.free = b.store.pool.free
  connected : ∀ a, after.1 = .ok a → b.HasFree
  idle : ∀ c ∈ after.2.store.pool.idle, c.mode = .autocommit

variable {b b' : Backend} {effect : Tables → α → Tables → Prop}

theorem AllOrNothing.of_error (hsame : b.Same b')
    (hidle : ∀ c ∈ b'.store.pool.idle, c.mode = .autocommit) (fault : Fault) :
    b.AllOrNothing (.error fault, b') effect where
  failed _ _ := congrArg Database.tables hsame.database
  done a ha := by cases ha
  registry := hsame.registry
  held := hsame.held
  locked := congrArg Database.locked hsame.database
  free := hsame.free
  connected a ha := by cases ha
  idle := hidle

/-- What is read first does not count. -/
theorem AllOrNothing.of_same {after : Except Fault α × Backend} (hsame : b.Same b')
    (h : b'.AllOrNothing after effect) : b.AllOrNothing after effect where
  failed fault hfault := (h.failed fault hfault).trans (congrArg Database.tables hsame.database)
  done a ha := by
    obtain ⟨t, t', ht, ht', heffect⟩ := h.done a ha
    exact ⟨t, t', (congrArg Database.tables hsame.database) ▸ ht, ht', heffect⟩
  registry := h.registry.trans hsame.registry
  held := h.held.trans hsame.held
  locked := h.locked.trans (congrArg Database.locked hsame.database)
  free := h.free.trans hsame.free
  connected a ha := hsame.hasFree_iff.1 (h.connected a ha)
  idle := h.idle

/-- If reading fails, nothing more is done. -/
theorem OnlyReads.bind_allOrNothing {x : BackendM β} {f : β → BackendM α} (hx : OnlyReads x)
    (hb : b.store.CalmWith r)
    (hf : ∀ (a : β) (b' : Backend), (x.run b).1 = .ok a → b.Same b' → b'.store.CalmWith r →
      b'.AllOrNothing ((f a).run b') effect) :
    b.AllOrNothing ((x >>= f).run b) effect := by
  obtain ⟨-, hcalm, hsame⟩ := hx b b.store.database.tables hb rfl
  rw [Action.run_bind]
  rcases hrun : x.run b with ⟨outcome, b'⟩
  rw [hrun] at hsame hcalm
  cases outcome with
  | error fault => exact .of_error hsame hcalm.idle fault
  | ok a => exact .of_same hsame (hf a b' (by rw [hrun]) hsame hcalm)

/-- A transaction of its own is all or nothing: its log takes effect as a whole or not at all. -/
theorem allOrNothing_atomically {x : ConnectionM α} {ms : List Mutation} (hx : Work.Logs x ms)
    (hb : b.store.CalmWith r)
    (heffect : ∀ (w : Work) (a : α), w.store.CalmWith r →
      w.connection.view? w.store.database = b.store.database.tables → (x.run w).1 = .ok a →
      ∃ t, b.store.database.tables = some t ∧ ∀ t', t.runAll ms = .ok t' → effect t a t') :
    b.AllOrNothing ((onStore (Store.atomically x)).run b) effect := by
  obtain ⟨hcalm, hfree, hmoves⟩ := Store.atomically_carries hx hb
  rw [run_onStore]
  refine ⟨?_, ?_, rfl, rfl, hmoves.locked, hfree, fun a ha => ?_, hcalm.idle⟩
  · intro fault hfault
    simp only at hfault
    rw [hfault, carriedOut_error] at hmoves
    show ((Store.atomically x).run b.store).2.database.tables = b.store.database.tables
    cases ht : b.store.database.tables with
    | none => exact hmoves.bare ht
    | some t =>
      obtain ⟨t', ht', hrun⟩ := hmoves.tables t ht
      obtain rfl : t = t' := Except.ok.inj hrun
      exact ht'
  · intro a ha
    simp only at ha
    rw [ha, carriedOut_ok] at hmoves
    obtain ⟨w, hw, hview, hok⟩ := Store.exists_run_of_atomically hb ha
    obtain ⟨t, ht, hdone⟩ := heffect w a hw hview hok
    obtain ⟨t', ht', hrun⟩ := hmoves.tables t ht
    exact ⟨t, t', ht, ht', hdone t' hrun⟩
  · exact Store.hasFree_of_atomically ha

/-! ## Deleting a domain, replacing metadata, adding a key -/

theorem allOrNothing_deleteDomain (hb : b.store.CalmWith r) (name : String) :
    b.AllOrNothing ((deleteDomain name).run b) fun t _ t' =>
      ∃ id, t.domainId? (some name) = some id ∧ t.runAll (domainRemoval id name) = .ok t' := by
  refine (onlyReads_domainId? name).bind_allOrNothing hb fun found b' hfound hsame hb' => ?_
  cases found with
  | none => exact .of_error (.refl b') hb'.idle _
  | some id =>
    refine allOrNothing_atomically (Work.logs_performAll _) hb' fun w _ hw hview hok => ?_
    obtain ⟨t, ht⟩ := Work.exists_view_of_performAll hw.inOrder hok
    rw [hview] at ht
    have hbefore : b.store.database.tables = some t :=
      (congrArg Database.tables hsame.database).symm.trans ht
    exact ⟨t, ht, fun t' hrun => ⟨id, domainId?_of_ok hb hbefore hfound, hrun⟩⟩

theorem allOrNothing_setDomainMetadata (hb : b.store.CalmWith r) (name kind : String)
    (values : List String) :
    b.AllOrNothing ((setDomainMetadata name kind values).run b) fun t _ t' =>
      t.runAll (metadataReplacement name kind values) = .ok t' := by
  refine onlyReads_requireDnssec.bind_allOrNothing hb fun _ b' _ _ hb' => ?_
  refine allOrNothing_atomically (Work.logs_performAll _) hb' fun w _ hw hview hok => ?_
  obtain ⟨t, ht⟩ := Work.exists_view_of_performAll hw.inOrder hok
  exact ⟨t, hview.symm.trans ht, fun t' hrun => hrun⟩

/-- The id that adding a key gives is that of the new row. -/
theorem exists_domain_of_keyAddition {w : Work} (hw : w.store.CalmWith r) {name : String}
    {key : SigningKey} {id : Int} (h : ((keyAddition name key).run w).1 = .ok id) :
    ∃ t domain, w.connection.view? w.store.database = some t ∧
      t.domainId? (some name) = some domain ∧
      t.runAll [key.addition name] = .ok { t with keys := t.keys ++
        [⟨id, domain, key.flags.toNat, some (storedBool key.active),
          some (storedBool key.published), some key.content⟩] } := by
  obtain ⟨added, v, hperform, h⟩ := Action.exists_of_run_bind h
  obtain ⟨t, change, hview, hchange, hrows, hlast⟩ :=
    Work.exists_change_of_perform hw.inOrder (congrArg Prod.fst hperform)
  have heffect := Work.does_perform (key.addition name) w hw.inOrder
  rw [hperform] at hlast heffect
  by_cases hnone : added = 0
  · simp [hnone] at h
  · simp only [hnone, if_false] at h
    rcases Mutation.addKey_eq_ok hchange with rfl | ⟨domain, word, hdomain, hword, rfl⟩
    · -- A key that has no domain adds no row.
      exact absurd hrows.symm hnone
    · obtain rfl := Option.some.inj hword
      obtain ⟨ids, u, hids, h⟩ := Action.exists_of_run_bind h
      obtain rfl := Work.eq_of_fetchLastInsertedId (heffect.repertoire ▸ hw.inOrder)
        (congrArg Prod.fst hids)
      obtain rfl : nextId KeyRow.id t.keys = id := hlast.symm.trans (Except.ok.inj h)
      refine ⟨t, domain, hview, hdomain, ?_⟩
      rw [Tables.runAll_singleton, hchange]
      rfl

theorem allOrNothing_addDomainKey (hb : b.store.CalmWith r) (name : String) (key : SigningKey) :
    b.AllOrNothing ((addDomainKey name key).run b) fun t id t' =>
      ∃ domain, t.domainId? (some name) = some domain ∧ t' = { t with keys := t.keys ++
        [⟨id, domain, key.flags.toNat, some (storedBool key.active),
          some (storedBool key.published), some key.content⟩] } := by
  refine onlyReads_requireDnssec.bind_allOrNothing hb fun _ b' _ _ hb' => ?_
  refine allOrNothing_atomically (logs_keyAddition name key) hb' fun w id hw hview hok => ?_
  obtain ⟨t, domain, ht, hdomain, hadded⟩ := exists_domain_of_keyAddition hw hok
  refine ⟨t, hview.symm.trans ht, fun t' hrun => ⟨domain, hdomain, ?_⟩⟩
  rw [hadded] at hrun
  exact (Except.ok.inj hrun).symm

end Backend

/-! ## Without a transaction -/

/-- Whether the operation starts a transaction, if it succeeds. -/
def Operation.starts : {α : Type} → Operation α → Bool
  | _, startTransaction _ _ | _, contend _ _ => true
  | _, _ => false

theorem Operation.deed_ne_start {α : Type} (op : Operation α) (h : op.starts = false) (b : Backend)
    (handle : Handle) (ms : List Mutation) : op.deed b ≠ .start handle ms := by
  intro hdeed
  cases op with
  | startTransaction | contend => cases h
  | deleteDomain name =>
    simp only [Operation.deed] at hdeed
    cases hfound : ((Backend.domainId? name).run b).1 with
    | error fault =>
      rw [hfound] at hdeed
      cases hdeed
    | ok found =>
      rw [hfound] at hdeed
      cases found <;> cases hdeed
  | _ => cases hdeed

/-- Where no transaction is open only a start would open one. -/
theorem Journal.pending_note_of_none {j : Journal} (hj : ∀ h, j.pending h = none) {deed : Deed}
    (hdeed : ∀ h ms, deed ≠ .start h ms) : (j.note deed).pending = j.pending := by
  cases deed with
  | start h ms => exact absurd rfl (hdeed h ms)
  | reading | atOnce => rfl
  | work h ms | finish h ending => simp only [note, hj h]

namespace Backend

variable {b b' : Backend} {r : Repertoire} {α : Type}

/-! ## Without a writer -/

/-- No transaction is the writer and a connection is free, on the given committed tables. -/
structure Quiet (b : Backend) (tables : Tables) : Prop where
  calm : b.store.Calm
  free : b.HasFree
  tables : b.store.database.tables = some tables
  unlocked : b.store.database.locked = false

theorem Reachable.quiet (h : b.Reachable) (hfree : b.HasFree)
    (hquiet : ∀ h c, b.transaction? h = some c → c.isWriter = false) : ∃ t, b.Quiet t := by
  obtain ⟨j, hj⟩ := h.matches
  obtain ⟨t, ht, -⟩ := hj.committed
  exact ⟨t, hj.calm, hfree, ht, h.unlocked hquiet⟩

/-- Where no transaction is open and none is started, none is open afterwards. -/
theorem pending_journalFrom {j : Journal} (hj : ∀ h, j.pending h = none) (b : Backend)
    {ops : List AnyOperation} (hops : ∀ op ∈ ops, op.2.starts = false) :
    ∀ h, (b.journalFrom j (ops.map AnyOperation.step)).pending h = none := by
  induction ops generalizing j b with
  | nil => exact hj
  | cons op rest ih =>
    refine ih (fun h => ?_) _ fun op hop => hops op (List.mem_cons_of_mem _ hop)
    show (j.record (op.2.deed b) _).pending h = none
    unfold Journal.record
    split
    · rw [Journal.pending_note_of_none hj
        (op.2.deed_ne_start (hops op List.mem_cons_self) b)]
      exact hj h
    · exact hj h

/-- After a run that starts no transaction everything is quiet. -/
theorem exists_quiet_operated {connections : Nat} (hconnections : 0 < connections) (dnssec : Bool)
    (hasher : Option Hasher) {ops : List AnyOperation} (hops : ∀ op ∈ ops, op.2.starts = false) :
    ∃ t, (operated connections dnssec hasher ops).Quiet t := by
  have hmatches := ((Journal.Matches.on_empty connections dnssec hasher).after
    (ops.map AnyOperation.step)).1
  have hnone (h : Handle) : (operated connections dnssec hasher ops).transaction? h = none := by
    cases hc : (operated connections dnssec hasher ops).transaction? h with
    | none => rfl
    | some c =>
      obtain ⟨log, hlog, -⟩ := hmatches.isolated.follows h c hc
      have hpending := pending_journalFrom (j := .empty) (fun _ => rfl)
        (on (.on .empty connections) dnssec hasher) hops h
      cases hlog.symm.trans hpending
  have hfree : (operated connections dnssec hasher ops).HasFree := by
    refine (hasFree_after_iff connections dnssec hasher _).2 ?_
    have hopened := hmatches.filled.opened.symm.trans
      (Registry.opened_eq_zero fun id => hnone (.numbered id))
    have hheld := Registry.size_eq_zero fun name => hnone (.named name)
    unfold operated at hheld
    omega
  exact (reachable_operated connections dnssec hasher ops).quiet hfree fun h c hc => by
    rw [hnone h] at hc
    cases hc

/-- Reading leaves everything quiet. -/
theorem OnlyReads.quiet {t : Tables} {x : BackendM α} (hx : OnlyReads x) (h : b.Quiet t) :
    (x.run b).2.Quiet t := by
  obtain ⟨-, hcalm, hsame⟩ := hx b t h.calm h.tables
  exact ⟨hcalm, hsame.hasFree_iff.2 h.free,
    (congrArg Database.tables hsame.database).trans h.tables,
    (congrArg Database.locked hsame.database).trans h.unlocked⟩

/-- Mutations that are never refused are carried out in a transaction of their own. -/
theorem Quiet.atomically {t : Tables} {ms : List Mutation} (h : b.Quiet t)
    (hms : ∀ m ∈ ms, m.NeverRefused) :
    ((onStore (Store.atomically (Work.performAll ms))).run b).1 = .ok () ∧
      ∃ t', ((onStore (Store.atomically (Work.performAll ms))).run b).2.Quiet t' ∧
        t.runAll ms = .ok t' := by
  have hok := Store.run_atomically_performAll h.calm h.free h.tables h.unlocked hms
  obtain ⟨hcalm, hfree, hmoves⟩ := Store.atomically_carries (Work.logs_performAll ms) h.calm
  rw [hok, carriedOut_ok] at hmoves
  obtain ⟨t', ht', hrun⟩ := hmoves.tables t h.tables
  rw [run_onStore]
  exact ⟨hok, t', ⟨hcalm, Nat.lt_of_lt_of_eq h.free hfree.symm, ht',
    hmoves.locked.trans h.unlocked⟩, hrun⟩

/-- No tables refuse to add a key, though without a domain they do nothing. -/
theorem neverRefused_addition (key : SigningKey) (name : String) :
    (key.addition name).NeverRefused := by
  intro t
  simp only [SigningKey.addition, Mutation.apply, Tables.addKey]
  cases t.domainId? (some name) with
  | none => exact ⟨_, rfl⟩
  | some domain => exact ⟨_, rfl⟩

/-- In a transaction that can write, a key is added under the next id if its domain is found. -/
theorem run_keyAddition_fst {w : Work} {t : Tables} (hw : w.store.Calm)
    (hcan : w.connection.CanWrite w.store.database)
    (hview : w.connection.view? w.store.database = some t) (name : String) (key : SigningKey) :
    ((keyAddition name key).run w).1 =
      if (t.domainId? (some name)).isSome then .ok (nextId KeyRow.id t.keys)
      else .error (.domainNotFound name) := by
  obtain ⟨rows, hrows⟩ := Connection.exists_mutate_ok hcan (neverRefused_addition key name)
  have hok : ((Work.perform (key.addition name)).run w).1 = .ok rows := by
    rw [Work.run_perform_fst hw.repertoire, hrows]
    rfl
  obtain ⟨t', change, hview', hchange, hchanged, hlast⟩ :=
    Work.exists_change_of_perform hw.inOrder hok
  obtain rfl := Option.some.inj (hview.symm.trans hview')
  have heffect := Work.does_perform (key.addition name) w hw.inOrder
  rw [keyAddition, Action.run_bind]
  rcases hrun : (Work.perform (key.addition name)).run w with ⟨outcome, v⟩
  rw [hrun] at hok hlast heffect
  obtain rfl : outcome = .ok rows := hok
  rw [SigningKey.addition, Mutation.apply, Tables.addKey] at hchange
  -- Whether there is such a domain is told by the number of rows that were added.
  cases hdomain : t.domainId? (some name) with
  | none =>
    rw [hdomain] at hchange
    obtain rfl := Except.ok.inj hchange
    obtain rfl : 0 = rows := hchanged
    rfl
  | some domain =>
    rw [hdomain] at hchange
    obtain rfl := Except.ok.inj hchange
    obtain rfl : 1 = rows := hchanged
    have hnew : v.connection.lastInsertedId = nextId KeyRow.id t.keys := hlast
    have hids := Work.run_fetchLastInsertedId_fst (heffect.repertoire.trans hw.repertoire)
    rw [hnew] at hids
    rcases hfetch : Work.fetchLastInsertedId.run v with ⟨ids, u⟩
    rw [hfetch] at hids
    obtain rfl : ids = .ok [nextId KeyRow.id t.keys] := hids
    simp only [Nat.one_ne_zero, if_false, Action.run_bind, hfetch]
    rfl

/-- In the signing mode a key is added under the next id, unless its domain is not found. -/
theorem Quiet.addDomainKey {t : Tables} (h : b.Quiet t) (hmode : b.dnssec = true) (name : String)
    (key : SigningKey) :
    ((addDomainKey name key).run b).1 =
      if (t.domainId? (some name)).isSome then .ok (nextId KeyRow.id t.keys)
      else .error (.domainNotFound name) := by
  rw [Backend.addDomainKey, run_guarded_of_true hmode, run_onStore]
  refine Store.run_atomically_fst (logs_keyAddition name key) h.calm h.free fun w hw hdb hbegun => ?_
  have hcan : w.connection.CanWrite w.store.database :=
    Connection.canWrite_of_begun hbegun (hdb ▸ h.tables) (hdb ▸ h.unlocked)
  refine run_keyAddition_fst hw hcan ?_ name key
  simp only [Connection.view?, hbegun, hdb, h.tables]

/-! ## Statements and commits that fail -/

/-- The backend on a database with another repertoire. -/
def withRepertoire (b : Backend) (r : Repertoire) : Backend := { b with store.repertoire := r }

/-- The backend is reached from one without tables by the steps of a run, while at any time the
tables may be created, and statements and commits may begin to fail, in whatever way, or cease to.
-/
inductive ReachableWithFaults : Backend → Prop where
  /-- There are no tables at first. -/
  | bare (connections : Nat) (dnssec : Bool) (hasher : Option Hasher) :
      ReachableWithFaults (on (.on .bare connections) dnssec hasher)
  /-- The tables are created. -/
  | provision {b : Backend} (h : ReachableWithFaults b) :
      ReachableWithFaults (Backend.provision.run b).2
  /-- Some statements are left out, some are refused and commits may be, from now on. -/
  | disturb {b : Backend} (h : ReachableWithFaults b) {r : Repertoire} (hr : r.Orderly) :
      ReachableWithFaults (b.withRepertoire r)
  /-- One step of a run. -/
  | next {b : Backend} (h : ReachableWithFaults b) (step : Step) : ReachableWithFaults (b.next step)

theorem ReachableWithFaults.calm (h : b.ReachableWithFaults) : ∃ r, b.store.CalmWith r := by
  induction h with
  | bare connections => exact ⟨.full, Store.calm_on .bare connections⟩
  | provision _ ih =>
    obtain ⟨r, hb⟩ := ih
    exact ⟨r, hb.provision⟩
  | disturb _ hr ih =>
    obtain ⟨_, hb⟩ := ih
    exact ⟨_, rfl, hr, hb.idle⟩
  | next _ step ih =>
    obtain ⟨r, hb⟩ := ih
    exact ⟨r, hb.next step⟩

/-- Wherever a run leads to, and whatever statements are left out or refused, deleting a domain,
replacing metadata and adding a key are all or nothing. A failure, of whatever statement or of the
commit at the end, leaves every table as it was. After a success all of the statements have taken
effect: the domain and everything that belongs to it is deleted, the new metadata values are there
in place of the old ones, or the key is there under the id that is given back. In either case no
transaction and no lock remains. -/
theorem all_or_nothing {b : Backend} (h : b.ReachableWithFaults) :
    (∀ name, b.AllOrNothing ((deleteDomain name).run b) fun t _ t' =>
      ∃ id, t.domainId? (some name) = some id ∧ t.runAll (domainRemoval id name) = .ok t') ∧
    (∀ name kind values,
      b.AllOrNothing ((setDomainMetadata name kind values).run b) fun t _ t' =>
        t.runAll (metadataReplacement name kind values) = .ok t') ∧
    ∀ name key, b.AllOrNothing ((addDomainKey name key).run b) fun t id t' =>
      ∃ domain, t.domainId? (some name) = some domain ∧ t' = { t with keys := t.keys ++
        [⟨id, domain, key.flags.toNat, some (storedBool key.active),
          some (storedBool key.published), some key.content⟩] } := by
  obtain ⟨r, hb⟩ := h.calm
  exact ⟨allOrNothing_deleteDomain hb, allOrNothing_setDomainMetadata hb,
    allOrNothing_addDomainKey hb⟩

/-- A backend with a domain that has metadata. -/
def presigned : Backend :=
  ((Backend.provision.run (on (.on .bare 1) true none)).2.next
    (.operation (.createDomain "example.org" .native [] ""))).next
    (.operation (.setDomainMetadata "example.org" "PRESIGNED" ["1"]))

/-- It lacks the last statement of a deletion. -/
def undeletable : Backend := presigned.withRepertoire (Repertoire.full.forget .deleteDomain)

/-- It can delete, but not commit. -/
def uncommittable : Backend :=
  presigned.withRepertoire { Repertoire.full with commitFault? := some .fileFailed }

/-- The deletion fails with its last statement, or when it is committed, and then the metadata is
still there. -/
theorem all_or_nothing_undeletable :
    (((deleteDomain "example.org").run undeletable).1 =
        .error (.unknownStatement "delete-domain-query") ∧
      ((deleteDomain "example.org").run undeletable).2.store.database.tables =
        undeletable.store.database.tables) ∧
    ((deleteDomain "example.org").run uncommittable).1 = .error (.database .fileFailed) ∧
      ((deleteDomain "example.org").run uncommittable).2.store.database.tables =
        uncommittable.store.database.tables := by
  have hpresigned : presigned.ReachableWithFaults :=
    (((ReachableWithFaults.bare 1 true none).provision).next _).next _
  have hundeletable : undeletable.ReachableWithFaults :=
    hpresigned.disturb (Repertoire.orderly_full.update .deleteDomain nofun)
  have huncommittable : uncommittable.ReachableWithFaults :=
    hpresigned.disturb Repertoire.orderly_full
  have hunknown : ((deleteDomain "example.org").run undeletable).1 =
      .error (.unknownStatement "delete-domain-query") := rfl
  have hfails : ((deleteDomain "example.org").run uncommittable).1 =
      .error (.database .fileFailed) := rfl
  exact ⟨⟨hunknown, ((all_or_nothing hundeletable).1 "example.org").failed _ hunknown⟩,
    hfails, ((all_or_nothing huncommittable).1 "example.org").failed _ hfails⟩

end Backend

end ZoneStore
