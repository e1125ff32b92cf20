import ZoneStore.Proofs.Backend.Operations

/-!
# What every step keeps

A property of tables that the mutations of a step uphold is kept by the step, whatever it does and
however it fails. It holds of the committed tables, and of the view that an open transaction has
fixed or written, even where others have committed since (`Backend.Obeys`). The store knows the same
statements afterwards, and its idle connections are in no transaction. All of this holds even where
statements are missing, so that an update may stop midway and leave a part of itself in its
transaction.

`Action.Keeps` and `Action.Yields` are closed under sequencing, and every operation is a sequence of
actions of these kinds (`Operation.obeys`, `StatementOperation.obeys`).
-/

set_option autoImplicit false

namespace ZoneStore

/-! ## Actions that keep a property of states -/

namespace Action

variable {σ α β : Type} {P : σ → Prop} {Q : α → Prop} {R : β → Prop}

/-- The action keeps a property of states, whether it succeeds or fails. -/
def Keeps (P : σ → Prop) (x : Action σ α) : Prop := ∀ s, P s → P (x.run s).2

/-- The action keeps a property of states, and where it succeeds its results have another one. -/
def Yields (P : σ → Prop) (Q : α → Prop) (x : Action σ α) : Prop :=
  ∀ s, P s → P (x.run s).2 ∧ ∀ a, (x.run s).1 = .ok a → Q a

theorem keeps_ofExcept (outcome : Except Fault α) : Keeps P (ofExcept outcome) := by
  intro s hs
  rwa [run_ofExcept]

theorem keeps_pure (a : α) : Keeps P (pure a : Action σ α) := fun _ hs => hs

theorem keeps_throw (fault : Fault) : Keeps P (throw fault : Action σ α) := fun _ hs => hs

theorem keeps_get : Keeps P (get : Action σ σ) := fun _ hs => hs

theorem keeps_modify {f : σ → σ} (hf : ∀ s, P s → P (f s)) :
    Keeps P (modify f : Action σ Unit) := hf

theorem yields_pure {a : α} (ha : Q a) : Yields P Q (pure a : Action σ α) := by
  intro s hs
  refine ⟨hs, ?_⟩
  rintro b hb
  cases hb
  exact ha

theorem yields_throw (fault : Fault) : Yields P Q (throw fault : Action σ α) := by
  intro s hs
  refine ⟨hs, ?_⟩
  rintro b hb
  cases hb

theorem yields_ofExcept {outcome : Except Fault α} (h : ∀ a, outcome = .ok a → Q a) :
    Yields P Q (ofExcept outcome : Action σ α) := by
  intro s hs
  rw [run_ofExcept]
  exact ⟨hs, h⟩

theorem Yields.keeps {x : Action σ α} (hx : Yields P Q x) : Keeps P x := fun s hs => (hx s hs).1

theorem Keeps.yields {x : Action σ α} (hx : Keeps P x) : Yields P (fun _ => True) x :=
  fun s hs => ⟨hx s hs, fun _ _ => trivial⟩

theorem Yields.bind {x : Action σ α} {f : α → Action σ β} (hx : Yields P Q x)
    (hf : ∀ a, Q a → Yields P R (f a)) : Yields P R (x >>= f) := by
  intro s hs
  obtain ⟨hfirst, hresult⟩ := hx s hs
  rw [run_bind]
  rcases hrun : x.run s with ⟨outcome, t⟩
  rw [hrun] at hfirst hresult
  cases outcome with
  | error fault =>
    refine ⟨hfirst, ?_⟩
    rintro b hb
    cases hb
  | ok a => exact hf a (hresult a rfl) t hfirst

theorem Yields.bind_keeps {x : Action σ α} {f : α → Action σ β} (hx : Yields P Q x)
    (hf : ∀ a, Q a → Keeps P (f a)) : Keeps P (x >>= f) :=
  (hx.bind fun a ha => (hf a ha).yields).keeps

theorem Keeps.bind {x : Action σ α} {f : α → Action σ β} (hx : Keeps P x)
    (hf : ∀ a, Keeps P (f a)) : Keeps P (x >>= f) :=
  hx.yields.bind_keeps fun a _ => hf a

theorem Keeps.attempt {x : Action σ α} (hx : Keeps P x) : Keeps P (attempt x) := hx

end Action

/-! ## Properties of tables -/

/-- The mutation keeps a property of tables wherever it is not refused. -/
def Mutation.Upholds (P : Tables → Prop) (m : Mutation) : Prop :=
  ∀ t change, P t → m.apply t = .ok change → P change.tables

/-- A property that no alteration takes away is upheld. -/
theorem Mutation.upholds_of_alters {P : Tables → Prop} {m : Mutation}
    (h : ∀ t t', P t → m.Alters t t' → P t') : m.Upholds P :=
  fun t change ht hchange => h t change.tables ht (alters hchange)

/-- The committed tables have the property, if there are any. -/
def Database.Obeys (P : Tables → Prop) (db : Database) : Prop := ∀ t, db.tables = some t → P t

/-- The view that the transaction of the connection has fixed or written has the property, if there
is one. -/
def Connection.Obeys (P : Tables → Prop) (c : Connection) : Prop :=
  match c.mode with
  | .autocommit | .begun => True
  | .reading view _ | .writing view _ => P view

/-- A calm store whose committed tables have the property. -/
structure Store.Obeys (r : Repertoire) (P : Tables → Prop) (s : Store) : Prop where
  calm : s.CalmWith r
  database : s.database.Obeys P

/-- Work on a calm store with committed tables and a view that have the property. -/
structure Work.Obeys (r : Repertoire) (P : Tables → Prop) (w : Work) : Prop where
  store : w.store.Obeys r P
  connection : w.connection.Obeys P

/-- A backend on a calm store whose committed tables have the property, as have the views of all
open transactions. -/
structure Backend.Obeys (r : Repertoire) (P : Tables → Prop) (b : Backend) : Prop where
  store : b.store.Obeys r P
  transactions : ∀ h c, b.transaction? h = some c → c.Obeys P

open ZoneStore.Action

variable {P : Tables → Prop} {r : Repertoire}

/-! ## Connections -/

theorem Database.obeys_install {tables : Tables} (h : P tables) (db : Database) (altered : Bool) :
    (db.install tables altered).Obeys P := by
  intro t ht
  obtain rfl : tables = t := Option.some.inj ht
  exact h

/-- Creating the tables where they are missing adds empty ones at most. -/
theorem Database.Obeys.provision {db : Database} (hdb : db.Obeys P) (hempty : P .empty) :
    db.provision.Obeys P := by
  intro t ht
  obtain rfl : db.tables.getD .empty = t := Option.some.inj ht
  cases htables : db.tables with
  | none => exact hempty
  | some t => exact hdb t htables

namespace Connection

variable {c c' : Connection} {db : Database}

/-- Only the mode of a connection counts for the view that it has. -/
theorem obeys_congr (h : c'.mode = c.mode) : c'.Obeys P ↔ c.Obeys P := by
  simp only [Obeys, h]

theorem obeys_of_autocommit (h : c.mode = .autocommit) : c.Obeys P := by
  simp only [Obeys, h]

theorem obeys_begin (c : Connection) : c.begin.Obeys P := trivial

namespace Obeys

/-- What a connection sees has the property. -/
theorem view? (hc : c.Obeys P) (hdb : db.Obeys P) {view : Tables}
    (hview : c.view? db = some view) : P view := by
  unfold Obeys at hc
  unfold Connection.view? at hview
  cases hmode : c.mode with
  | autocommit | begun =>
    rw [hmode] at hview
    exact hdb view hview
  | reading | writing =>
    rw [hmode] at hview hc
    exact Option.some.inj hview ▸ hc

theorem place (hc : c.Obeys P) (hdb : db.Obeys P) {tables : Tables} (h : P tables)
    (alters : Bool) :
    (c.place db tables alters).1.Obeys P ∧ (c.place db tables alters).2.Obeys P := by
  unfold Connection.place
  cases c.mode with
  | autocommit => exact ⟨hc, db.obeys_install h alters⟩
  | begun | reading | writing => exact ⟨h, hdb⟩

theorem mutate (hc : c.Obeys P) (hdb : db.Obeys P) {m : Mutation} (hm : m.Upholds P) :
    (c.mutate db m).2.1.Obeys P ∧ (c.mutate db m).2.2.Obeys P := by
  rcases c.mutate_cases db m with
    ⟨fault, c', heq, hc'⟩ | ⟨view, tables, alters, outcome, c', hview, -, heq, hc', hrun, -⟩
  · rw [heq]
    exact ⟨(obeys_congr hc').2 hc, hdb⟩
  · have hbefore : P view := hc.view? hdb hview
    have hafter : P tables := by
      cases outcome with
      | error fault =>
        obtain rfl : view = tables := Except.ok.inj hrun
        exact hbefore
      | ok rows =>
        rw [carriedOut_ok, Tables.runAll_singleton] at hrun
        obtain ⟨change, hchange, rfl⟩ := map_eq_ok_iff.1 hrun
        exact hm view change hbefore hchange
    rw [heq]
    exact ((obeys_congr hc').2 hc).place hdb hafter alters

theorem select {ρ : Type} (hc : c.Obeys P) (hdb : db.Obeys P) (q : Query ρ) :
    (c.select db q).2.Obeys P := by
  unfold Connection.select
  cases hview : c.view? db with
  | none => exact hc
  | some view =>
    cases c.mode with
    | begun => exact hc.view? hdb hview
    | autocommit | reading | writing => exact hc

theorem finish (hc : c.Obeys P) (hdb : db.Obeys P) (ending : Ending) :
    (c.finish db ending).2.1.Obeys P ∧ (c.finish db ending).2.2.Obeys P := by
  refine ⟨obeys_of_autocommit (c.mode_finish db ending), ?_⟩
  unfold Obeys at hc
  unfold Connection.finish
  cases hmode : c.mode with
  | autocommit | begun | reading => exact hdb
  | writing view altered =>
    rw [hmode] at hc
    cases ending with
    | commit => exact Database.obeys_install hc _ altered
    | rollback => exact hdb

end Obeys

end Connection

/-! ## Work on a connection -/

namespace Work

/-- Work keeps the property if the connection and the database that it leaves have it. -/
theorem Obeys.keep {w : Work} (hw : w.Obeys r P) {c : Connection} {db : Database} (hc : c.Obeys P)
    (hdb : db.Obeys P) : (w.keep c db).Obeys r P :=
  ⟨⟨⟨hw.store.calm.repertoire, hw.store.calm.orderly, hw.store.calm.idle⟩, hdb⟩, hc⟩

theorem keeps_roleOf (statement : Statement) : Keeps (Obeys r P) (roleOf statement) := by
  refine keeps_get.bind fun w => ?_
  cases w.store.repertoire.role? statement with
  | none => exact keeps_throw _
  | some role =>
    have hcount : Keeps (Obeys r P) (modify count) := by
      refine keeps_modify fun w hw => ⟨⟨?_, hw.store.database⟩, hw.connection⟩
      exact ⟨hw.store.calm.repertoire, hw.store.calm.orderly, hw.store.calm.idle⟩
    exact hcount.bind fun _ => keeps_pure role

theorem keeps_mutate {m : Mutation} (hm : m.Upholds P) : Keeps (Obeys r P) (mutate m) := by
  intro w hw
  rw [run_mutate]
  obtain ⟨hc, hdb⟩ := hw.connection.mutate hw.store.database hm
  exact hw.keep hc hdb

theorem keeps_select {ρ : Type} (q : Query ρ) : Keeps (Obeys r P) (select q) := by
  intro w hw
  rw [run_select]
  exact hw.keep (hw.connection.select hw.store.database q) hw.store.database

theorem keeps_finish (ending : Ending) : Keeps (Obeys r P) (finish ending) := by
  intro w hw
  cases hending : w.store.repertoire.endingFault? ending with
  | none =>
    rw [run_finish hending]
    obtain ⟨hc, hdb⟩ := hw.connection.finish hw.store.database ending
    exact hw.keep hc hdb
  | some cause =>
    rw [run_finish_of_fault hending]
    exact hw

theorem keeps_perform {m : Mutation} (hm : m.Upholds P) : Keeps (Obeys r P) (perform m) := by
  refine (keeps_roleOf _).bind fun role => ?_
  cases role with
  | own => exact keeps_mutate hm
  | ends ending =>
    exact (keeps_finish ending).bind fun _ => keeps_get.bind fun _ => keeps_pure _
  | fails cause => exact keeps_throw _

theorem keeps_performAll {ms : List Mutation} (hms : ∀ m ∈ ms, m.Upholds P) :
    Keeps (Obeys r P) (performAll ms) := by
  induction ms with
  | nil => exact keeps_pure ()
  | cons m rest ih =>
    have hfirst : Keeps (Obeys r P) (perform m) := keeps_perform (hms m List.mem_cons_self)
    exact hfirst.bind fun _ => ih fun m hm => hms m (List.mem_cons_of_mem _ hm)

theorem keeps_fetch {ρ : Type} (q : Query ρ) : Keeps (Obeys r P) (fetch q) := by
  refine (keeps_roleOf _).bind fun role => ?_
  cases role with
  | own => exact keeps_select q
  | ends ending => exact (keeps_finish ending).bind fun _ => keeps_pure _
  | fails cause => exact keeps_throw _

theorem keeps_fetchLastInsertedId : Keeps (Obeys r P) fetchLastInsertedId := by
  refine (keeps_roleOf _).bind fun role => ?_
  cases role with
  | own => exact keeps_get.bind fun _ => keeps_pure _
  | ends ending => exact (keeps_finish ending).bind fun _ => keeps_pure _
  | fails cause => exact keeps_throw _

theorem keeps_fetchRequest {request : Request} (h : ∀ m ∈ request.mutations, m.Upholds P) :
    Keeps (Obeys r P) (fetchRequest request) := by
  cases request with
  | change m =>
    exact (keeps_perform (h m (List.mem_singleton_self m))).bind fun _ => keeps_pure _
  | read q => exact keeps_fetch q
  | lastInsertedId => exact keeps_fetchLastInsertedId.bind fun _ => keeps_pure _

theorem keeps_performRequest {request : Request} (h : ∀ m ∈ request.mutations, m.Upholds P) :
    Keeps (Obeys r P) (performRequest request) := by
  have reads : Keeps (Obeys r P) (do
      let rows ← fetchRequest request
      if rows.isEmpty then return (← get).connection.changes
      else throw (.database .unexpectedRows)) := by
    refine (keeps_fetchRequest h).bind fun rows => ?_
    split
    · exact keeps_get.bind fun _ => keeps_pure _
    · exact keeps_throw _
  cases request with
  | change m => exact keeps_perform (h m (List.mem_singleton_self m))
  | read q => exact reads
  | lastInsertedId => exact reads

/-- What a statement does in the catalog keeps the property if its mutations uphold it. -/
theorem keeps_ofName {α : Type} {name : String} {args : Arguments}
    (h : ∀ m ∈ mutationsOf name args, m.Upholds P) {f : Request → ConnectionM α}
    (hf : ∀ {request : Request}, (∀ m ∈ request.mutations, m.Upholds P) →
      Keeps (Obeys r P) (f request)) :
    Keeps (Obeys r P) (Action.ofExcept (Request.ofName name args) >>= f) := by
  have hrequest : ∀ request, Request.ofName name args = .ok request →
      ∀ m ∈ request.mutations, m.Upholds P := by
    intro request hrequest
    rw [mutationsOf, hrequest] at h
    exact h
  exact (yields_ofExcept hrequest).bind_keeps fun _ hms => hf hms

end Work

namespace Store

variable {α : Type} {x : ConnectionM α} {c : Connection}

theorem yields_takeConnection :
    Yields (Obeys r P) (Connection.Obeys P) takeConnection := by
  intro s hs
  by_cases hfree : s.HasFree
  · obtain ⟨c, t, hrun, hmode, ht, hdb, -⟩ := hs.calm.takeConnection hfree
    rw [hrun]
    refine ⟨⟨ht, hdb ▸ hs.database⟩, ?_⟩
    intro d hd
    obtain rfl : c = d := Except.ok.inj hd
    exact Connection.obeys_of_autocommit hmode
  · rw [run_takeConnection_of_none hfree]
    exact ⟨hs, fun _ hd => nomatch hd⟩

theorem keeps_giveBack (hc : c.Obeys P) : Keeps (Obeys r P) (giveBack c) :=
  keeps_modify fun _ hs => ⟨hs.calm.given c, (hc.finish hs.database .rollback).2⟩

theorem yields_runOn (hx : Keeps (Work.Obeys r P) x) (hc : c.Obeys P) :
    Yields (Obeys r P) (fun p => p.2.Obeys P) (runOn c x) := by
  intro s hs
  have hw := hx ⟨c, s⟩ ⟨hs, hc⟩
  refine ⟨hw.store, ?_⟩
  rintro p hp
  obtain rfl := Except.ok.inj hp
  exact hw.connection

theorem keeps_direct (hx : Keeps (Work.Obeys r P) x) : Keeps (Obeys r P) (direct x) :=
  yields_takeConnection.bind_keeps fun _ hc => (yields_runOn hx hc).bind_keeps fun p hp =>
    (keeps_giveBack hp).bind fun _ => keeps_ofExcept p.1

theorem yields_begin : Yields (Obeys r P) (Connection.Obeys P) begin :=
  yields_takeConnection.bind fun c _ => yields_pure c.obeys_begin

theorem yields_within (hx : Keeps (Work.Obeys r P) x) (hc : c.Obeys P) :
    Yields (Obeys r P) (fun p => p.2.Obeys P) (within c x) := by
  refine (yields_runOn hx hc).bind fun p hp => ?_
  obtain ⟨outcome, c'⟩ := p
  cases outcome with
  | ok a => exact yields_pure hp
  | error fault => exact (keeps_giveBack hp).yields.bind fun _ _ => yields_throw fault

theorem keeps_close (hc : c.Obeys P) (ending : Ending) : Keeps (Obeys r P) (close c ending) :=
  (yields_runOn (Work.keeps_finish ending) hc).bind_keeps fun p hp =>
    (keeps_giveBack hp).bind fun _ => keeps_ofExcept p.1

theorem keeps_atomically (hx : Keeps (Work.Obeys r P) x) : Keeps (Obeys r P) (atomically x) :=
  yields_begin.bind_keeps fun _ hc => (yields_within hx hc).bind_keeps fun p hp =>
    (keeps_close hp .commit).bind fun _ => keeps_pure p.1

end Store

/-! ## Backends -/

namespace Backend

variable {α : Type} {b b' : Backend}

/-- Transactions that stay as they are keep the property. -/
theorem Obeys.congr (hb : b.Obeys r P) (hstore : b'.store.Obeys r P)
    (htransactions : b'.transaction? = b.transaction?) : b'.Obeys r P := by
  refine ⟨hstore, ?_⟩
  rw [htransactions]
  exact hb.transactions

/-- One transaction is replaced or ended. -/
theorem Obeys.update (hb : b.Obeys r P) (hstore : b'.store.Obeys r P) {h : Handle}
    {v : Option Connection} (hv : ∀ c, v = some c → c.Obeys P)
    (htransactions : b'.transaction? = Function.update b.transaction? h v) : b'.Obeys r P := by
  refine ⟨hstore, ?_⟩
  intro h' c hc
  rw [htransactions] at hc
  rcases update_eq_some_iff.1 hc with ⟨-, hc⟩ | ⟨-, hc⟩
  · exact hv c hc
  · exact hb.transactions h' c hc

theorem Obeys.replace (hb : b.Obeys r P) (hstore : b'.store.Obeys r P) {h : Handle}
    {c : Connection} (hc : c.Obeys P)
    (htransactions : b'.transaction? = Function.update b.transaction? h (some c)) :
    b'.Obeys r P := by
  refine hb.update hstore ?_ htransactions
  rintro d hd
  exact Option.some.inj hd ▸ hc

theorem keeps_onStore {x : StoreM α} (hx : Keeps (Store.Obeys r P) x) :
    Keeps (Obeys r P) (onStore x) :=
  fun b hb => hb.congr (hx b.store hb.store) rfl

theorem OnlyReads.keeps {x : BackendM α} (hx : OnlyReads x) : Keeps (Obeys r P) x := by
  intro b hb
  obtain ⟨-, hcalm, hsame⟩ := hx b b.store.database.tables hb.store.calm rfl
  exact hb.congr ⟨hcalm, hsame.database ▸ hb.store.database⟩
    (transaction?_congr (fun _ => by rw [hsame.registry]) hsame.held)

theorem keeps_guarded {x : BackendM α} (hx : Keeps (Obeys r P) x) :
    Keeps (Obeys r P) (do requireDnssec; x) :=
  onlyReads_requireDnssec.keeps.bind fun _ => hx

theorem keeps_perform {m : Mutation} (hm : m.Upholds P) : Keeps (Obeys r P) (perform m) :=
  (keeps_onStore (Store.keeps_direct (Work.keeps_perform hm))).bind fun _ => keeps_pure _

/-! ## Numbered transactions -/

theorem yields_opener {zone : Int} (h : ∀ m ∈ openingLog zone, m.Upholds P) :
    Yields (Store.Obeys r P) (Connection.Obeys P) (opener zone) := by
  refine Store.yields_begin.bind fun c hc => ?_
  unfold openingLog at h
  split
  · rename_i hzone
    rw [if_pos hzone] at h
    have hdelete := h _ (List.mem_singleton_self _)
    exact (Store.yields_within (Work.keeps_perform hdelete) hc).bind fun _ hp => yields_pure hp
  · exact yields_pure hc

theorem keeps_startTransaction {zone : Int} (h : ∀ m ∈ openingLog zone, m.Upholds P) (id : Int) :
    Keeps (Obeys r P) (startTransaction id zone) := by
  intro b hb
  cases hid : b.registry.contains id with
  | true =>
    rw [startTransaction, run_startWith_of_contains hid]
    exact hb.congr hb.store rfl
  | false =>
    obtain ⟨hstore, hopened⟩ := yields_opener h b.store hb.store
    rw [startTransaction, run_startWith_of_free hid]
    rcases hrun : (opener zone).run b.store with ⟨outcome, s⟩
    rw [hrun] at hstore hopened
    cases outcome with
    | error fault => exact hb.congr hstore rfl
    | ok c => exact hb.replace hstore (hopened c rfl) (transaction?_registered _ id c)

theorem keeps_contend (id : Int) (contenders : Nat) :
    Keeps (Obeys r P) (contend id contenders) := by
  induction contenders with
  | zero => exact keeps_pure []
  | succ n ih =>
    have hopening : ∀ m ∈ openingLog 0, m.Upholds P := fun m hm => absurd hm List.not_mem_nil
    exact (keeps_startTransaction hopening id).attempt.bind fun _ => ih.bind fun _ => keeps_pure _

theorem keeps_inTransaction {x : ConnectionM α} (hx : Keeps (Work.Obeys r P) x) (id : Int) :
    Keeps (Obeys r P) (inTransaction id x) := by
  intro b hb
  cases hid : b.registry.connection? id with
  | none =>
    rw [run_inTransaction_of_none hid]
    exact hb
  | some c =>
    have hw := hx ⟨c, b.store⟩ ⟨hb.store, hb.transactions (.numbered id) c hid⟩
    rw [run_inTransaction_of_some hid]
    exact hb.replace hw.store hw.connection
      (transaction?_numbered (fun l => Registry.connection?_put hid _ l) rfl)

theorem keeps_update {ms : List Mutation} (hms : ∀ m ∈ ms, m.Upholds P) (id : Int) :
    Keeps (Obeys r P) (update id ms) :=
  keeps_inTransaction (Work.keeps_performAll hms) id

theorem keeps_endTransaction (id : Int) (ending : Ending) :
    Keeps (Obeys r P) (endTransaction id ending) := by
  intro b hb
  cases hid : b.registry.connection? id with
  | none =>
    obtain ⟨tally, hrun⟩ : ∃ tally, (endTransaction id ending).run b =
        (.error (.noSuchTransaction id),
          { b with registry := b.registry.erase id, tally := tally }) := run_endWith_of_none hid
    rw [hrun]
    exact hb.congr hb.store
      (transaction?_congr (Registry.connection?_erase_of_none hid) rfl)
  | some c =>
    rw [endTransaction, run_endWith_of_some hid]
    refine hb.update (v := none) ?_ ?_
      (transaction?_numbered (fun l => Registry.connection?_erase _ id l) rfl)
    · exact Store.keeps_close (hb.transactions (.numbered id) c hid) ending b.store hb.store
    · rintro left hleft
      cases hleft

theorem Obeys.feedHashedEmptyNonTerminals (hb : b.Obeys r P) (id : Int) {zone : Int}
    {zoneName : String} {names : TextMap Bool} {narrow : Bool}
    (hms : ∀ m ∈ Update.hashedEmptyNonTerminals b.hasher zone zoneName names narrow,
      m.Upholds P) :
    ((feedHashedEmptyNonTerminals id zone zoneName names narrow).run b).2.Obeys r P := by
  unfold Backend.feedHashedEmptyNonTerminals
  cases hdnssec : b.dnssec with
  | false =>
    rw [run_guarded_of_false hdnssec]
    exact hb
  | true =>
    rw [run_guarded_of_true hdnssec, Action.run_bind, Action.run_get]
    refine keeps_inTransaction ?_ id b hb
    split
    · exact keeps_throw _
    · exact Work.keeps_performAll hms

/-! ## Transactions of their own -/

theorem Obeys.deleteDomain (hb : b.Obeys r P) {name : String}
    (hms : ∀ m ∈ (deedAfter (removalDeed name) ((domainId? name).run b).1).mutations,
      m.Upholds P) : ((deleteDomain name).run b).2.Obeys r P := by
  have hfound := (onlyReads_domainId? name).keeps b hb
  rw [Backend.deleteDomain, Action.run_bind]
  rcases hrun : (domainId? name).run b with ⟨outcome, b'⟩
  rw [hrun] at hms hfound
  cases outcome with
  | error fault => exact hfound
  | ok found =>
    cases found with
    | none => exact hfound
    | some id =>
      exact keeps_onStore (Store.keeps_atomically (Work.keeps_performAll hms)) b' hfound

theorem keeps_addDomainKey {name : String} {key : SigningKey}
    (h : (key.addition name).Upholds P) : Keeps (Obeys r P) (addDomainKey name key) := by
  refine keeps_guarded (keeps_onStore (Store.keeps_atomically ?_))
  refine (Work.keeps_perform h).bind fun added => ?_
  split
  · exact keeps_throw _
  · exact Work.keeps_fetchLastInsertedId.bind fun _ => keeps_pure _

/-! ## Held transactions -/

theorem keeps_inHeld {x : ConnectionM α} (hx : Keeps (Work.Obeys r P) x) (name : String) :
    Keeps (Obeys r P) (inHeld name x) := by
  intro b hb
  cases hfind : b.held.find? name with
  | none =>
    have hrun : (inHeld name x).run b = (.ok none, b) := by simp [inHeld, hfind]
    rw [hrun]
    exact hb
  | some c =>
    have hw := hx ⟨c, b.store⟩ ⟨hb.store, hb.transactions (.named name) c hfind⟩
    have hrun : ((inHeld name x).run b).2 =
        { b with
          store := (x.run ⟨c, b.store⟩).2.store
          held := b.held.insert name (x.run ⟨c, b.store⟩).2.connection } := by
      simp only [inHeld, Action.run_bind, Action.run_get, hfind, run_onStore, Store.run_runOn,
        Action.run_modify, Action.run_ofExcept]
      cases (x.run ⟨c, b.store⟩).1 <;> rfl
    rw [hrun]
    exact hb.replace hw.store hw.connection
      (transaction?_named (fun _ => rfl) fun l => Registry.find?_insert _ name l _)

/-- A held transaction that is taken out of its place is ended. -/
theorem keeps_takeHeld {ending : Connection → StoreM α}
    (hending : ∀ c : Connection, c.Obeys P → Keeps (Store.Obeys r P) (ending c)) (name : String) :
    Keeps (Obeys r P) (do
      match (← get).held.find? name with
      | none => return none
      | some c =>
        modify fun b => { b with held := b.held.erase name }
        return some (← onStore (ending c))) := by
  intro b hb
  rw [Action.run_bind, Action.run_get]
  dsimp only
  cases hfind : b.held.find? name with
  | none => exact hb
  | some c =>
    have hc := hb.transactions (.named name) c hfind
    have herased : Obeys r P { b with held := b.held.erase name } := by
      refine hb.update (h := .named name) (v := none) hb.store nofun ?_
      exact transaction?_named (fun _ => rfl) fun l => Registry.find?_erase _ name l
    have hrest : Keeps (Obeys r P) (do return some (← onStore (ending c))) :=
      (keeps_onStore (hending c hc)).bind fun _ => keeps_pure _
    exact hrest _ herased

theorem keeps_holdTransaction (name : String) : Keeps (Obeys r P) (holdTransaction name) := by
  intro b hb
  obtain ⟨hstore, hbegun⟩ := Store.yields_begin b.store hb.store
  rcases hbegin : Store.begin.run b.store with ⟨outcome, s⟩
  rw [hbegin] at hstore hbegun
  cases outcome with
  | error fault =>
    have hrun : (holdTransaction name).run b = (.error fault, { b with store := s }) := by
      simp [holdTransaction, hbegin]
    rw [hrun]
    exact hb.congr hstore rfl
  | ok c =>
    have hc : c.Obeys P := hbegun c rfl
    have held (t : Store) : transaction? { b with store := t, held := b.held.insert name c } =
        Function.update b.transaction? (.named name) (some c) :=
      transaction?_named (fun _ => rfl) fun l => Registry.find?_insert _ name l _
    cases hfind : b.held.find? name with
    | none =>
      have hrun : (holdTransaction name).run b =
          (.ok (), { b with store := s, held := b.held.insert name c }) := by
        simp [holdTransaction, hbegin, hfind]
      rw [hrun]
      exact hb.replace hstore hc (held s)
    | some old =>
      have hrun : (holdTransaction name).run b =
          (.ok (), { b with store := s.release old, held := b.held.insert name c }) := by
        simp [holdTransaction, hbegin, hfind]
      have hold := hb.transactions (.named name) old hfind
      rw [hrun]
      exact hb.replace (Store.keeps_giveBack hold s hstore) hc (held _)

end Backend

/-! ## Steps -/

open Backend

/-- An operation keeps what the mutations of its deed uphold. -/
theorem Operation.obeys {α : Type} (op : Operation α) {b : Backend} (hb : b.Obeys r P)
    (hms : ∀ m ∈ (op.deed b).mutations, m.Upholds P) : (op.run.run b).2.Obeys r P := by
  cases op with
  | startTransaction id zone => exact keeps_startTransaction hms id b hb
  | contend id contenders => exact keeps_contend id contenders b hb
  | commitTransaction id | abortTransaction id => exact keeps_endTransaction id _ b hb
  | feedRecord id | replaceRecordSet id | feedEmptyNonTerminals id =>
    exact keeps_update hms id b hb
  | feedHashedEmptyNonTerminals id => exact hb.feedHashedEmptyNonTerminals id hms
  | updateEmptyNonTerminals id | feedComment id | replaceComments id =>
    exact keeps_update hms id b hb
  | orderRecords id => exact keeps_guarded (keeps_update hms id) b hb
  | setNotified | setFresh | createDomain | createSlaveDomain | setMasters | setKind | setAccount
  | addAutoprimary | removeAutoprimary | setTsigKey | deleteTsigKey =>
    exact keeps_perform (hms _ (List.mem_singleton_self _)) b hb
  | deleteDomain name => exact hb.deleteDomain hms
  | addDomainKey name key => exact keeps_addDomainKey (hms _ (List.mem_singleton_self _)) b hb
  | removeDomainKey | setDomainKeyActive | setDomainKeyPublished =>
    exact keeps_guarded (keeps_perform (hms _ (List.mem_singleton_self _))) b hb
  | setDomainMetadata =>
    exact keeps_guarded
      (keeps_onStore (Store.keeps_atomically (Work.keeps_performAll hms))) b hb
  | _ => exact (Operation.onlyReads _ rfl).keeps b hb

/-- A single statement keeps what its mutation upholds. -/
theorem StatementOperation.obeys {α : Type} (op : StatementOperation α) {b : Backend}
    (hb : b.Obeys r P) (hms : ∀ m ∈ op.deed.mutations, m.Upholds P) :
    (op.run.run b).2.Obeys r P := by
  -- Outside a transaction the deed of a statement has the mutations that its name makes, too.
  have direct (statement : String) (args : Arguments)
      (h : ∀ m ∈ (perform statement args).deed.mutations, m.Upholds P) :
      ∀ m ∈ Work.mutationsOf statement args, m.Upholds P := by
    simp only [deed] at h
    unfold Work.mutationsOf
    rcases hname : Request.ofName statement args with fault | request
    · exact fun m hm => absurd hm List.not_mem_nil
    · rw [hname] at h
      cases request with
      | change m => exact h
      | read | lastInsertedId => exact fun m hm => absurd hm List.not_mem_nil
  cases op with
  | perform statement args =>
    exact keeps_onStore (Store.keeps_direct
      (Work.keeps_ofName (direct statement args hms) Work.keeps_performRequest)) b hb
  | fetch statement args =>
    exact keeps_onStore (Store.keeps_direct
      (Work.keeps_ofName (direct statement args hms) Work.keeps_fetchRequest)) b hb
  | hold name => exact keeps_holdTransaction name b hb
  | performHeld name statement args =>
    exact keeps_inHeld (Work.keeps_ofName hms Work.keeps_performRequest) name b hb
  | fetchHeld name statement args =>
    exact keeps_inHeld (Work.keeps_ofName hms Work.keeps_fetchRequest) name b hb
  | endHeld name ending => exact keeps_takeHeld (fun _ hc => Store.keeps_close hc ending) name b hb
  | dropHeld name => exact keeps_takeHeld (fun _ hc => Store.keeps_giveBack hc) name b hb

/-- The mutations that a step sets out to carry out. -/
def Step.mutations (b : Backend) : Step → List Mutation
  | .operation op => (op.deed b).mutations
  | .statement op => op.deed.mutations

/-- One step of a run keeps what its mutations uphold. -/
theorem Backend.Obeys.next {b : Backend} (hb : b.Obeys r P) (step : Step)
    (hms : ∀ m ∈ step.mutations b, m.Upholds P) : (b.next step).Obeys r P := by
  cases step with
  | operation op => exact op.obeys hb hms
  | statement op => exact op.obeys hb hms

/-- What holds of a backend on empty tables, and is kept by each operation of a run in the mode of
operation of the run, holds after the run. -/
theorem Backend.operated_induction {S : Backend → Prop} {connections : Nat} {dnssec : Bool}
    {hasher : Option Hasher}
    {ops : List AnyOperation} (hstart : S (on (.on .empty connections) dnssec hasher))
    (hstep : ∀ op ∈ ops, ∀ b : Backend, b.dnssec = dnssec → b.hasher = hasher → S b →
      S (b.next op.step)) : S (operated connections dnssec hasher ops) := by
  -- The journal of the run shows that no operation changes the mode of operation.
  have run {b : Backend} {j : Journal} (hj : j.Matches b) (hdnssec : b.dnssec = dnssec)
      (hhasher : b.hasher = hasher) (hb : S b) : S (b.after (ops.map AnyOperation.step)) := by
    induction ops generalizing b j with
    | nil => exact hb
    | cons op rest ih =>
      obtain ⟨hnext, hmode⟩ := hj.next op.step
      refine ih (fun op hop => hstep op (List.mem_cons_of_mem _ hop)) hnext
        (hmode.dnssec.trans hdnssec) (hmode.hasher.trans hhasher) ?_
      exact hstep op List.mem_cons_self b hdnssec hhasher hb
  exact run (Journal.Matches.on_empty connections dnssec hasher) rfl rfl hstart

/-- A backend on empty tables has the properties of these. -/
theorem Backend.obeys_on_empty (hempty : P .empty) (connections : Nat) (dnssec : Bool)
    (hasher : Option Hasher) :
    (on (.on .empty connections) dnssec hasher).Obeys .full P := by
  refine ⟨⟨Store.calm_on .empty connections, ?_⟩, ?_⟩
  · intro t ht
    exact Option.some.inj ht ▸ hempty
  · intro h c hc
    cases h <;> cases hc

/-- One step of a run leaves a calm store calm, since any mutation upholds what always holds. -/
theorem Store.CalmWith.next {b : Backend} (hb : b.store.CalmWith r) (step : Step) :
    (b.next step).store.CalmWith r := by
  have hobeys : b.Obeys r fun _ => True := by
    refine ⟨⟨hb, fun _ _ => trivial⟩, ?_⟩
    intro h c _
    unfold Connection.Obeys
    cases c.mode <;> trivial
  exact (hobeys.next step fun _ _ _ _ _ _ => trivial).store.calm

end ZoneStore
