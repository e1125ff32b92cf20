import ZoneStore.Proofs.Store.Isolation
import ZoneStore.Store.Execution

/-!
# Effects of actions

What actions on a connection and on a store amount to, as lists of mutations, in a store whose
statements do their own work; some of them may be unknown, and are refused. `Does x ms` says of an
action on one connection that its success carries out the mutations `ms`, on the committed tables
outside a transaction and on the log within one, and that its failure carries out nothing. An action
of several statements may fail midway; for those `Logs x ms` speaks of success only, and `LogsWhole
x ms` rules out that it fails midway in a store that knows every statement.

On the store the same is said of direct actions (`direct_carries`), of short transactions
(`atomically_carries`), and of the end of a transaction (`close_releases`): the first two take a
connection for themselves and keep none, so they fail where none is free, and the end of a
transaction sets one free.
-/

set_option autoImplicit false

namespace ZoneStore

namespace Repertoire

/-- No statement ends the transaction that it is run in. -/
def Orderly (r : Repertoire) : Prop :=
  ∀ statement ending, r.role? statement ≠ some (.ends ending)

theorem orderly_full : full.Orderly := nofun

/-- A statement may be left out, or do anything but end its transaction. -/
theorem Orderly.update {r : Repertoire} (h : r.Orderly) (statement : Statement) {role : Option Role}
    (hrole : ∀ ending, role ≠ some (.ends ending)) : (r.update statement role).Orderly := by
  intro other ending
  simp only [Repertoire.update]
  split
  · exact hrole ending
  · exact h other ending

end Repertoire

/-- What a query answers from committed tables, if its statement is known and not refused and there
are any. -/
def Query.answer {ρ : Type} (r : Repertoire) (tables : Option Tables) (q : Query ρ) :
    Except Fault (List ρ) :=
  match r.role? q.statement, tables with
  | none, _ => .error (.unknownStatement q.statement.name)
  | some (.fails cause), _ => .error (.database cause)
  | some _, none => .error (.database (.noSuchTable q.source))
  | some _, some t => (q.rows t).mapError .database

@[simp] theorem Query.answer_full {ρ : Type} (tables : Tables) (q : Query ρ) :
    q.answer .full (some tables) = (q.rows tables).mapError .database := rfl

namespace Work

variable {α β : Type}

theorem orderly_of_full {w : Work} (h : w.store.repertoire = .full) :
    w.store.repertoire.Orderly :=
  h ▸ Repertoire.orderly_full

/-! ## What work amounts to -/

/-- Work in a transaction that leads from one log to another. -/
structure Logged (before after : Work) (log log' : List Mutation) : Prop where
  repertoire : after.store.repertoire = before.store.repertoire
  pool : after.store.pool = before.store.pool
  follows : after.connection.Follows after.store.database log'
  grants : before.store.database.Grants after.store.database before.connection.isWriter
    after.connection.isWriter

theorem Logged.refl {w : Work} {log : List Mutation}
    (h : w.connection.Follows w.store.database log) : w.Logged w log log :=
  ⟨rfl, rfl, h, .refl h.locked⟩

theorem Logged.trans {u v w : Work} {log log' log'' : List Mutation} (h : u.Logged v log log')
    (h' : v.Logged w log' log'') : u.Logged w log log'' :=
  ⟨h'.repertoire.trans h.repertoire, h'.pool.trans h.pool, h'.follows, h.grants.trans h'.grants⟩

/-- Work that carries out the given mutations, in a transaction or outside. -/
structure Effect (before after : Work) (ms : List Mutation) : Prop where
  repertoire : after.store.repertoire = before.store.repertoire
  pool : after.store.pool = before.store.pool
  direct : before.connection.mode = .autocommit → after.connection.mode = .autocommit ∧
    before.store.database.Moves after.store.database ms
  logged : ∀ log, before.connection.Follows before.store.database log →
    before.Logged after log (log ++ ms)

theorem Effect.refl (w : Work) : w.Effect w [] where
  repertoire := rfl
  pool := rfl
  direct hmode := ⟨hmode, .refl _⟩
  logged log hlog := by
    rw [List.append_nil]
    exact .refl hlog

theorem Effect.trans {u v w : Work} {ms more : List Mutation} (h : u.Effect v ms)
    (h' : v.Effect w more) : u.Effect w (ms ++ more) where
  repertoire := h'.repertoire.trans h.repertoire
  pool := h'.pool.trans h.pool
  direct hmode := by
    obtain ⟨hv, hms⟩ := h.direct hmode
    obtain ⟨hw, hmore⟩ := h'.direct hv
    exact ⟨hw, hms.trans hmore⟩
  logged log hlog := by
    have hv := h.logged log hlog
    rw [← List.append_assoc]
    exact hv.trans (h'.logged _ hv.follows)

theorem effect_count (w : Work) : w.Effect w.count [] where
  repertoire := rfl
  pool := rfl
  direct hmode := ⟨hmode, .refl _⟩
  logged log hlog := by
    rw [List.append_nil]
    exact ⟨rfl, rfl, hlog, .refl hlog.locked⟩

/-! ## Single statements -/

/-- The action carries out the given mutations if it succeeds, and none if it fails. -/
def Does (x : ConnectionM α) (ms : List Mutation) : Prop :=
  ∀ w : Work, w.store.repertoire.Orderly → w.Effect (x.run w).2 (carriedOut (x.run w).1 ms)

theorem does_pure (a : α) : Does (pure a) [] := fun w _ => Effect.refl w

theorem does_throw (fault : Fault) (ms : List Mutation) : Does (throw fault : ConnectionM α) ms :=
  fun w _ => Effect.refl w

theorem does_get : Does (get : ConnectionM Work) [] := fun w _ => Effect.refl w

/-- What is read first does not count. -/
theorem Does.bind {x : ConnectionM α} {f : α → ConnectionM β} {ms : List Mutation}
    (hx : Does x []) (hf : ∀ a, Does (f a) ms) : Does (x >>= f) ms := by
  intro w hw
  have hfirst := hx w hw
  rw [Action.run_bind]
  rcases hrun : x.run w with ⟨outcome, v⟩
  rw [hrun, carriedOut_nil] at hfirst
  -- The first part carries out nothing in either outcome, so only the second one counts.
  cases outcome with
  | error fault => exact hfirst
  | ok a => exact hfirst.trans (hf a v (hfirst.repertoire ▸ hw))

/-- What is computed from the result does not count. -/
theorem Does.andReturn {x : ConnectionM α} {ms : List Mutation} (hx : Does x ms) (f : α → β) :
    Does (x >>= fun a => pure (f a)) ms := by
  intro w hw
  have hfirst := hx w hw
  rw [Action.run_bind]
  rcases hrun : x.run w with ⟨outcome, v⟩
  rw [hrun] at hfirst
  cases outcome <;> exact hfirst

theorem run_mutate (m : Mutation) (w : Work) :
    (mutate m).run w = ((w.connection.mutate w.store.database m).1.mapError .database,
      w.keep (w.connection.mutate w.store.database m).2.1
        (w.connection.mutate w.store.database m).2.2) := by
  simp [mutate]

theorem run_select {ρ : Type} (q : Query ρ) (w : Work) :
    (select q).run w = ((w.connection.select w.store.database q).1.mapError .database,
      w.keep (w.connection.select w.store.database q).2 w.store.database) := by
  simp [select]

theorem run_finish {ending : Ending} {w : Work}
    (h : w.store.repertoire.endingFault? ending = none) :
    (finish ending).run w = ((w.connection.finish w.store.database ending).1.mapError .database,
      w.keep (w.connection.finish w.store.database ending).2.1
        (w.connection.finish w.store.database ending).2.2) := by
  simp [finish, h]

/-- A transaction that cannot be committed stays open. -/
theorem run_finish_of_fault {ending : Ending} {w : Work} {cause : DatabaseFault}
    (h : w.store.repertoire.endingFault? ending = some cause) :
    (finish ending).run w = (.error (.database cause), w) := by
  simp [finish, h]

theorem does_mutate (m : Mutation) : Does (mutate m) [m] := by
  intro w _
  rw [run_mutate, carriedOut_mapError]
  refine ⟨rfl, rfl, ?_, ?_⟩
  · intro hmode
    exact Connection.mutate_moves hmode m
  · intro log hlog
    obtain ⟨hfollows, hgrants⟩ := hlog.mutate m
    exact ⟨rfl, rfl, hfollows, hgrants⟩

theorem does_select {ρ : Type} (q : Query ρ) : Does (select q) [] := by
  intro w _
  rw [run_select, carriedOut_nil]
  refine ⟨rfl, rfl, ?_, ?_⟩
  · intro hmode
    exact ⟨Connection.mode_select hmode _ q, .refl _⟩
  · intro log hlog
    obtain ⟨hfollows, hwriter⟩ := hlog.select q
    rw [List.append_nil]
    refine ⟨rfl, rfl, hfollows, ?_⟩
    show w.store.database.Grants w.store.database _
      (w.connection.select w.store.database q).2.isWriter
    rw [hwriter]
    exact .refl hlog.locked

/-- An unknown statement is refused, and a known one is counted and does its own work or fails. -/
theorem does_roleOf_bind {statement : Statement} {f : Role → ConnectionM α} {ms : List Mutation}
    (hown : Does (f .own) ms) (hfails : ∀ cause, Does (f (.fails cause)) ms) :
    Does (roleOf statement >>= f) ms := by
  intro w hw
  rw [Action.run_bind]
  cases hrole : w.store.repertoire.role? statement with
  | none =>
    rw [run_roleOf_of_none hrole]
    exact .refl w
  | some role =>
    rw [run_roleOf_of_some hrole]
    refine w.effect_count.trans ?_
    cases role with
    | own => exact hown w.count hw
    | ends ending => exact absurd hrole (hw statement ending)
    | fails cause => exact hfails cause w.count hw

theorem does_perform (m : Mutation) : Does (perform m) [m] :=
  does_roleOf_bind (does_mutate m) fun _ => does_throw _ _

theorem does_fetch {ρ : Type} (q : Query ρ) : Does (fetch q) [] :=
  does_roleOf_bind (does_select q) fun _ => does_throw _ _

theorem does_fetchLastInsertedId : Does fetchLastInsertedId [] :=
  does_roleOf_bind (does_get.andReturn fun w => [w.connection.lastInsertedId])
    fun _ => does_throw _ _

end Work

/-- The mutations that a request makes. -/
def Request.mutations : Request → List Mutation
  | .change m => [m]
  | .read _ => []
  | .lastInsertedId => []

namespace Work

theorem does_fetchRequest (r : Request) : Does (fetchRequest r) r.mutations := by
  cases r with
  | change m => exact (does_perform m).andReturn _
  | read q => exact does_fetch q
  | lastInsertedId => exact does_fetchLastInsertedId.andReturn _

/-- A statement that may not have rows then fails after it was run, but it reads. -/
theorem does_performRequest (r : Request) : Does (performRequest r) r.mutations := by
  have reads (r : Request) (hr : r.mutations = []) :
      Does (do
        let rows ← fetchRequest r
        if rows.isEmpty then return (← get).connection.changes
        else throw (.database .unexpectedRows)) [] := by
    have hfetch := does_fetchRequest r
    rw [hr] at hfetch
    refine hfetch.bind fun rows => ?_
    split
    · exact does_get.andReturn _
    · exact does_throw _ _
  cases r with
  | change m => exact does_perform m
  | read q => exact reads _ rfl
  | lastInsertedId => exact reads _ rfl

variable {α β : Type}

/-- The mutations that a statement makes with the given arguments, if it is in the catalog. -/
def mutationsOf (name : String) (args : Arguments) : List Mutation :=
  match Request.ofName name args with
  | .ok request => request.mutations
  | .error _ => []

/-- What a request is made from does not count. -/
theorem does_ofName {name : String} {args : Arguments} {f : Request → ConnectionM α}
    (hf : ∀ request, Does (f request) request.mutations) :
    Does (Action.ofExcept (Request.ofName name args) >>= f) (mutationsOf name args) := by
  intro w hw
  simp only [Action.run_bind, Action.run_ofExcept, mutationsOf]
  cases Request.ofName name args with
  | error fault => exact .refl w
  | ok request => exact hf request w hw

theorem does_performNamed (name : String) (args : Arguments) :
    Does (performNamed name args) (mutationsOf name args) :=
  does_ofName does_performRequest

theorem does_fetchNamed (name : String) (args : Arguments) :
    Does (fetchNamed name args) (mutationsOf name args) :=
  does_ofName does_fetchRequest

/-! ## Several statements in a transaction -/

/-- In a transaction the action adds the given mutations to the log if it succeeds. -/
def Logs (x : ConnectionM α) (ms : List Mutation) : Prop :=
  ∀ (w : Work) (log : List Mutation), w.store.repertoire.Orderly →
    w.connection.Follows w.store.database log →
    ∃ done, w.Logged (x.run w).2 log (log ++ done) ∧ ∀ a, (x.run w).1 = .ok a → done = ms

/-- In a transaction of a store that knows every statement the action adds the given mutations to
the log if it succeeds, and none if it fails. -/
def LogsWhole (x : ConnectionM α) (ms : List Mutation) : Prop :=
  ∀ (w : Work) (log : List Mutation), w.store.repertoire = .full →
    w.connection.Follows w.store.database log →
    w.Logged (x.run w).2 log (log ++ carriedOut (x.run w).1 ms)

theorem Does.logsWhole {x : ConnectionM α} {ms : List Mutation} (h : Does x ms) : LogsWhole x ms :=
  fun w log hw hlog => (h w (orderly_of_full hw)).logged log hlog

theorem Does.logs {x : ConnectionM α} {ms : List Mutation} (h : Does x ms) : Logs x ms := by
  intro w log hw hlog
  refine ⟨_, (h w hw).logged log hlog, fun a ha => ?_⟩
  rw [ha, carriedOut_ok]

theorem Logs.bind {x : ConnectionM α} {f : α → ConnectionM β} {ms more : List Mutation}
    (hx : Logs x ms) (hf : ∀ a, Logs (f a) more) : Logs (x >>= f) (ms ++ more) := by
  intro w log hw hlog
  obtain ⟨done, hfirst, hdone⟩ := hx w log hw hlog
  rw [Action.run_bind]
  rcases hrun : x.run w with ⟨outcome, v⟩
  rw [hrun] at hfirst hdone
  cases outcome with
  | error fault =>
    -- What was done before the failure stays in the log.
    refine ⟨done, hfirst, ?_⟩
    intro a ha
    cases ha
  | ok a =>
    obtain rfl := hdone a rfl
    obtain ⟨rest, hsecond, hrest⟩ := hf a v _ (hfirst.repertoire ▸ hw) hfirst.follows
    refine ⟨done ++ rest, ?_, ?_⟩
    · rw [← List.append_assoc]
      exact hfirst.trans hsecond
    · intro b hb
      rw [hrest b hb]

theorem run_perform_fst {w : Work} (hw : w.store.repertoire = .full) (m : Mutation) :
    ((perform m).run w).1 = (w.connection.mutate w.store.database m).1.mapError .database := by
  rw [run_perform_of_own (by rw [hw]; rfl), run_mutate]
  rfl

theorem connection_run_perform {w : Work} (hw : w.store.repertoire = .full) (m : Mutation) :
    ((perform m).run w).2.connection = (w.connection.mutate w.store.database m).2.1 := by
  rw [run_perform_of_own (by rw [hw]; rfl), run_mutate]
  rfl

/-- A transaction that can write carries out all mutations that are never refused. -/
theorem run_performAll_fst {w : Work} {log ms : List Mutation} (hw : w.store.repertoire = .full)
    (hlog : w.connection.Follows w.store.database log)
    (hcan : w.connection.CanWrite w.store.database) (hms : ∀ m ∈ ms, m.NeverRefused) :
    ((performAll ms).run w).1 = .ok () := by
  induction ms generalizing w log with
  | nil => rfl
  | cons m rest ih =>
    obtain ⟨rows, hrows⟩ := Connection.exists_mutate_ok hcan (hms m List.mem_cons_self)
    have hok := run_perform_fst hw m
    rw [hrows] at hok
    have hlogged := (does_perform m).logsWhole w log hw hlog
    -- Having run one mutation the transaction is the writer, so it can run the others.
    have hwriter : ((perform m).run w).2.connection.isWriter = true := by
      rw [connection_run_perform hw]
      exact hlog.isWriter_of_mutate hrows
    rw [performAll, Action.run_bind]
    rcases hrun : (perform m).run w with ⟨outcome, v⟩
    rw [hrun] at hok hlogged hwriter
    cases hok
    exact ih (hlogged.repertoire.trans hw) hlogged.follows
      (Connection.canWrite_of_isWriter hwriter _)
      fun m hm => hms m (List.mem_cons_of_mem _ hm)

theorem logs_performAll (ms : List Mutation) : Logs (performAll ms) ms := by
  induction ms with
  | nil => exact (does_pure ()).logs
  | cons m rest ih => exact (does_perform m).logs.bind fun _ => ih

/-- Mutations that are never refused are carried out together or not at all: once the first of them
has made the transaction the writer, none is refused. -/
theorem logsWhole_performAll {ms : List Mutation} (hms : ∀ m ∈ ms, m.NeverRefused) :
    LogsWhole (performAll ms) ms := by
  cases ms with
  | nil => exact (does_pure ()).logsWhole
  | cons m rest =>
    intro w log hw hlog
    have hrest : ∀ m ∈ rest, m.NeverRefused := fun m hm => hms m (List.mem_cons_of_mem _ hm)
    have hfirst := (does_perform m).logsWhole w log hw hlog
    have hwriter {rows : Nat} (hrows : ((perform m).run w).1 = .ok rows) :
        ((perform m).run w).2.connection.isWriter = true := by
      rw [run_perform_fst hw] at hrows
      rw [connection_run_perform hw]
      cases hm : (w.connection.mutate w.store.database m).1 with
      | ok rows => exact hlog.isWriter_of_mutate hm
      | error fault =>
        rw [hm] at hrows
        cases hrows
    rw [performAll, Action.run_bind]
    rcases hrun : (perform m).run w with ⟨outcome, v⟩
    rw [hrun] at hfirst hwriter
    cases outcome with
    | error fault => exact hfirst
    | ok rows =>
      -- The rest succeeds, and then it is in the log as a whole.
      have hv := hfirst.repertoire.trans hw
      have hok := run_performAll_fst hv hfirst.follows
        (Connection.canWrite_of_isWriter (hwriter rfl) _) hrest
      obtain ⟨done, hsecond, hdone⟩ := logs_performAll rest v _ (orderly_of_full hv) hfirst.follows
      obtain rfl := hdone () hok
      rw [hok, carriedOut_ok, ← List.singleton_append, ← List.append_assoc]
      exact hfirst.trans hsecond

end Work

/-! ## Actions on the store -/

namespace Store

/-- The store has the given repertoire, in which no statement ends a transaction, and no idle
connection is in one. -/
structure CalmWith (r : Repertoire) (s : Store) : Prop where
  repertoire : s.repertoire = r
  orderly : r.Orderly
  idle : ∀ c ∈ s.pool.idle, c.mode = .autocommit

/-- The store knows every statement, and no idle connection is in a transaction. -/
abbrev Calm (s : Store) : Prop := s.CalmWith .full

variable {α : Type} {r : Repertoire} {s t : Store} {c : Connection} {log : List Mutation}

theorem calm_on (db : Database) (connections : Nat) : (on db connections).Calm := by
  refine ⟨rfl, Repertoire.orderly_full, fun c hc => ?_⟩
  cases hc

theorem CalmWith.inOrder (h : s.CalmWith r) : s.repertoire.Orderly := h.repertoire ▸ h.orderly

/-- Without a free connection, whatever needs one fails and leaves the store as it is. -/
theorem run_takeConnection_of_none (h : ¬ s.HasFree) :
    takeConnection.run s = (.error (.database .noConnection), s) := by
  obtain ⟨repertoire, db, ⟨free, idle⟩, statements⟩ := s
  obtain rfl : free = 0 := Nat.eq_zero_of_not_pos h
  rfl

/-- A free connection can be taken, and is in no transaction. -/
theorem CalmWith.takeConnection (h : s.CalmWith r) (hfree : s.HasFree) :
    ∃ c t, takeConnection.run s = (.ok c, t) ∧ c.mode = .autocommit ∧ t.CalmWith r ∧
      t.database = s.database ∧ t.pool.free + 1 = s.pool.free := by
  obtain ⟨repertoire, db, ⟨free, idle⟩, statements⟩ := s
  obtain ⟨free, rfl⟩ : ∃ n, free = n + 1 := Nat.exists_eq_add_one.2 hfree
  cases idle with
  | nil =>
    -- Without an idle connection a new one is made.
    exact ⟨.fresh, _, rfl, rfl, ⟨h.repertoire, h.orderly, h.idle⟩, rfl, rfl⟩
  | cons c rest =>
    refine ⟨c, _, rfl, h.idle c List.mem_cons_self, ⟨h.repertoire, h.orderly, fun d hd => ?_⟩, rfl, rfl⟩
    exact h.idle d (List.mem_cons_of_mem _ hd)

/-- Work on a connection leaves the store calm. -/
theorem CalmWith.of_work {w w' : Work} (h : w.store.CalmWith r)
    (hrepertoire : w'.store.repertoire = w.store.repertoire)
    (hpool : w'.store.pool = w.store.pool) : w'.store.CalmWith r :=
  ⟨hrepertoire.trans h.repertoire, h.orderly, hpool ▸ h.idle⟩

/-- A connection that is given back is in no transaction any more. -/
theorem CalmWith.given (h : s.CalmWith r) (c : Connection) : (s.release c).CalmWith r := by
  refine ⟨h.repertoire, h.orderly, fun d hd => ?_⟩
  rcases List.mem_cons.1 hd with rfl | hd
  · exact c.mode_finish s.database .rollback
  · exact h.idle d hd

/-- A connection that is given back can be taken again. -/
@[simp] theorem free_release (s : Store) (c : Connection) :
    (s.release c).pool.free = s.pool.free + 1 := rfl

/-- Giving back a connection outside any transaction leaves the database alone. -/
theorem CalmWith.release (h : s.CalmWith r) (hmode : c.mode = .autocommit) :
    (s.release c).CalmWith r ∧ (s.release c).database = s.database := by
  refine ⟨h.given c, ?_⟩
  simp only [Store.release, Connection.finish, hmode]

/-- Giving back a connection in a transaction rolls the transaction back. -/
theorem CalmWith.release_follows (h : s.CalmWith r) (hlog : c.Follows s.database log) :
    (s.release c).CalmWith r ∧ s.database.Releases (s.release c).database c.isWriter [] := by
  obtain ⟨closed, db, hfinish, -, hreleases⟩ := hlog.finish .rollback
  refine ⟨h.given c, ?_⟩
  rw [Store.release, hfinish]
  exact hreleases

@[simp] theorem run_giveBack (c : Connection) (s : Store) :
    (giveBack c).run s = (.ok (), s.release c) := rfl

@[simp] theorem run_runOn (c : Connection) (x : ConnectionM α) (s : Store) :
    (runOn c x).run s = (.ok ((x.run ⟨c, s⟩).1, (x.run ⟨c, s⟩).2.connection),
      (x.run ⟨c, s⟩).2.store) := rfl

/-- Creating the tables leaves the store calm. -/
theorem CalmWith.provision (h : s.CalmWith r) : (Store.provision.run s).2.CalmWith r := by
  by_cases hfree : s.HasFree
  · obtain ⟨c, t, htake, -, ht, -⟩ := h.takeConnection hfree
    simp only [Store.provision, Action.run_bind, htake, Action.run_modify, run_giveBack]
    have hcreated : ({ t with database := t.database.provision } : Store).CalmWith r :=
      ⟨ht.repertoire, ht.orderly, ht.idle⟩
    exact hcreated.given c
  · simp only [Store.provision, Action.run_bind, run_takeConnection_of_none hfree]
    exact h

/-- The tables are created where they are missing, unless no connection is free. -/
theorem CalmWith.database_provision (h : s.CalmWith r) :
    (Store.provision.run s).2.database = s.database.provision ∨
      (Store.provision.run s).2.database = s.database := by
  by_cases hfree : s.HasFree
  · obtain ⟨c, t, htake, hmode, -, hdb, -⟩ := h.takeConnection hfree
    simp only [Store.provision, Action.run_bind, htake, Action.run_modify, run_giveBack,
      Store.release, Connection.finish, hmode, hdb, true_or]
  · simp only [Store.provision, Action.run_bind, run_takeConnection_of_none hfree, or_true]

/-- The store after an action that carries out the given mutations and keeps no connection. -/
structure Carries (r : Repertoire) (s t : Store) (ms : List Mutation) : Prop where
  calm : t.CalmWith r
  free : t.pool.free = s.pool.free
  moves : s.database.Moves t.database ms

/-- An action that fails at once carries out nothing. -/
theorem CalmWith.carries_nil (h : s.CalmWith r) : s.Carries r s [] := ⟨h, rfl, .refl _⟩

/-- Without a free connection nothing is done directly. -/
theorem run_direct_of_none {x : ConnectionM α} (h : ¬ s.HasFree) :
    (direct x).run s = (.error (.database .noConnection), s) := by
  simp only [direct, Action.run_bind, run_takeConnection_of_none h]

/-- A direct action carries out its mutations on the committed tables if it succeeds. -/
theorem direct_carries {x : ConnectionM α} {ms : List Mutation} (hx : Work.Does x ms)
    (hs : s.CalmWith r) :
    s.Carries r ((direct x).run s).2 (carriedOut ((direct x).run s).1 ms) := by
  by_cases hfree : s.HasFree
  · obtain ⟨c, t, htake, hmode, ht, hdb, hless⟩ := hs.takeConnection hfree
    have heffect := hx ⟨c, t⟩ ht.inOrder
    obtain ⟨hmode', hmoves⟩ := heffect.direct hmode
    have hcalm := CalmWith.of_work ht heffect.repertoire heffect.pool
    obtain ⟨hrelease, hkept⟩ := hcalm.release hmode'
    simp only [direct, Action.run_bind, htake, run_runOn, run_giveBack, Action.run_ofExcept]
    -- Taking and giving back the connection leave the database as the action left it.
    refine ⟨hrelease, ?_, ?_⟩
    · rw [free_release, heffect.pool, hless]
    · rw [hkept, ← hdb]
      exact hmoves
  · rw [run_direct_of_none hfree]
    exact hs.carries_nil

/-- A query outside any transaction answers from the committed tables, if a connection is free, and
the database is as before. -/
theorem CalmWith.fetch {ρ : Type} (hs : s.CalmWith r) (hfree : s.HasFree) (q : Query ρ) :
    ∃ t, (Store.fetch q).run s = (q.answer r s.database.tables, t) ∧ t.CalmWith r ∧
      t.database = s.database ∧ t.pool.free = s.pool.free := by
  obtain ⟨c, t, htake, hmode, ht, hdb, hless⟩ := hs.takeConnection hfree
  -- Whatever the answer is, the connection is given back outside a transaction.
  have given {w : Work} (hrun : (Work.fetch q).run ⟨c, t⟩ = (q.answer r s.database.tables, w))
      (hconnection : w.connection = c) (hw : w.store.CalmWith r) (hpool : w.store.pool = t.pool)
      (hdatabase : w.store.database = t.database) :
      ∃ t, (Store.fetch q).run s = (q.answer r s.database.tables, t) ∧ t.CalmWith r ∧
        t.database = s.database ∧ t.pool.free = s.pool.free := by
    obtain ⟨hrelease, hkept⟩ := hw.release hmode
    refine ⟨w.store.release c, ?_, hrelease, hkept.trans (hdatabase.trans hdb), ?_⟩
    · simp only [Store.fetch, direct, Action.run_bind, htake, run_runOn, hrun, run_giveBack,
        Action.run_ofExcept, hconnection]
    · rw [free_release, hpool, hless]
  cases hrole : r.role? q.statement with
  | none =>
    refine given (w := ⟨c, t⟩) ?_ rfl ht rfl rfl
    have hunknown : t.repertoire.role? q.statement = none := by rw [ht.repertoire, hrole]
    have hanswer : q.answer r s.database.tables = .error (.unknownStatement q.statement.name) := by
      simp only [Query.answer, hrole]
    rw [Work.fetch, Action.run_bind, Work.run_roleOf_of_none hunknown, hanswer]
  | some role =>
    refine given (w := (Work.mk c t).count) ?_ rfl ⟨ht.repertoire, ht.orderly, ht.idle⟩ rfl rfl
    have hknown : t.repertoire.role? q.statement = some role := by rw [ht.repertoire, hrole]
    cases role with
    | ends ending => exact absurd hrole (ht.orderly _ ending)
    | fails cause =>
      rw [Work.run_fetch_of_fails hknown]
      simp only [Query.answer, hrole]
    | own =>
      have hselect : ((c.select t.database q).1.mapError .database, (c.select t.database q).2) =
          (q.answer r s.database.tables, c) := by
        simp only [Connection.select, Connection.view?, hmode, hdb, Query.answer, hrole]
        cases s.database.tables <;> rfl
      obtain ⟨hanswer, hconnection⟩ := Prod.mk.inj hselect
      rw [Work.run_fetch_of_own hknown, Work.run_select]
      simp only [Work.count, Work.keep, hanswer, hconnection]

/-- Without a free connection no transaction begins. -/
theorem run_begin_of_none (h : ¬ s.HasFree) : begin.run s = (.error (.database .noConnection), s) := by
  simp only [Store.begin, Action.run_bind, run_takeConnection_of_none h]

/-- A transaction can begin on a free connection, and this leaves the database alone. -/
theorem CalmWith.begin (h : s.CalmWith r) (hfree : s.HasFree) :
    ∃ c t, begin.run s = (.ok c, t) ∧ c.mode = .begun ∧ t.CalmWith r ∧ t.database = s.database ∧
      t.pool.free + 1 = s.pool.free := by
  obtain ⟨c, t, htake, -, ht, hdb, hless⟩ := h.takeConnection hfree
  refine ⟨c.begin, t, ?_, rfl, ht, hdb, hless⟩
  simp only [Store.begin, Action.run_bind, htake, Action.run_pure]

/-- A transaction in which an action succeeds stays open. -/
theorem run_within_of_ok {x : ConnectionM α} {a : α} (h : (x.run ⟨c, s⟩).1 = .ok a) :
    (within c x).run s =
      (.ok (a, (x.run ⟨c, s⟩).2.connection), (x.run ⟨c, s⟩).2.store) := by
  simp only [within, Action.run_bind, run_runOn, h]
  rfl

/-- The store after a transaction with the given log was opened or went on: it keeps one connection
of those that were free in the store before. -/
structure Opens (r : Repertoire) (s t : Store) (c : Connection) (log : List Mutation) : Prop where
  calm : t.CalmWith r
  free : t.pool.free + 1 = s.pool.free
  follows : c.Follows t.database log
  grants : s.database.Grants t.database false c.isWriter

/-- What an action in a transaction that was not the writer may leave: a transaction with a longer
log, or nothing at all, and then its connection is free again. -/
theorem within_logged {x : ConnectionM α} {ms : List Mutation} (hx : Work.Logs x ms)
    (ht : t.CalmWith r) (hdb : t.database = s.database) (hfree : t.pool.free + 1 = s.pool.free)
    (hlog : c.Follows t.database log) (hwriter : c.isWriter = false) :
    match (within c x).run t with
    | (.ok (_, c'), u) => s.Opens r u c' (log ++ ms)
    | (.error _, u) => s.Carries r u [] := by
  obtain ⟨done, hlogged, hdone⟩ := hx ⟨c, t⟩ log ht.inOrder hlog
  have hcalm := CalmWith.of_work ht hlogged.repertoire hlogged.pool
  have hgrants := hlogged.grants
  simp only [hwriter, hdb] at hgrants
  simp only [within, Action.run_bind, run_runOn]
  cases houtcome : (x.run ⟨c, t⟩).1 with
  | ok a =>
    obtain rfl := hdone a houtcome
    exact ⟨hcalm, by rw [hlogged.pool, hfree], hlogged.follows, hgrants⟩
  | error fault =>
    -- The transaction is given back open, which rolls back whatever was done.
    obtain ⟨hrelease, hreleases⟩ := hcalm.release_follows hlogged.follows
    exact ⟨hrelease, by rw [free_release, hlogged.pool, hfree], hgrants.moves hreleases⟩

/-- A transaction that can be ended in the given way is ended, and its connection is free again. -/
theorem close_releases (hs : s.CalmWith r) (hlog : c.Follows s.database log) {ending : Ending}
    (hending : r.endingFault? ending = none) :
    ∃ t, (close c ending).run s = (.ok (), t) ∧ t.CalmWith r ∧
      t.pool.free = s.pool.free + 1 ∧
      s.database.Releases t.database c.isWriter (ending.keeps log) := by
  have hfinishes := Work.run_finish (w := ⟨c, s⟩) (hs.repertoire ▸ hending)
  obtain ⟨closed, db, hfinish, hmode, hreleases⟩ := hlog.finish ending
  have hcalm : ({ s with database := db } : Store).CalmWith r := ⟨hs.repertoire, hs.orderly, hs.idle⟩
  obtain ⟨hrelease, hkept⟩ := hcalm.release hmode
  refine ⟨({ s with database := db } : Store).release closed, ?_, hrelease, rfl, ?_⟩
  · simp only [close, Action.run_bind, run_runOn, hfinishes, hfinish, run_giveBack,
      Action.run_ofExcept]
    rfl
  · rw [hkept]
    exact hreleases

/-- A transaction that cannot be committed is rolled back, and its connection is free again. -/
theorem close_rolls_back (hs : s.CalmWith r) (hlog : c.Follows s.database log) {ending : Ending}
    {cause : DatabaseFault} (hending : r.endingFault? ending = some cause) :
    (close c ending).run s = (.error (.database cause), s.release c) ∧
      (s.release c).CalmWith r ∧
      s.database.Releases (s.release c).database c.isWriter [] := by
  have hfails := Work.run_finish_of_fault (w := ⟨c, s⟩) (hs.repertoire ▸ hending)
  obtain ⟨hrelease, hreleases⟩ := hs.release_follows hlog
  refine ⟨?_, hrelease, hreleases⟩
  simp only [close, Action.run_bind, run_runOn, hfails, run_giveBack, Action.run_ofExcept]

/-- A short transaction carries out its mutations on the committed tables if it succeeds, and none
if it fails, be it in the end because it cannot be committed. -/
theorem atomically_carries {x : ConnectionM α} {ms : List Mutation} (hx : Work.Logs x ms)
    (hs : s.CalmWith r) :
    s.Carries r ((atomically x).run s).2 (carriedOut ((atomically x).run s).1 ms) := by
  by_cases hfree : s.HasFree
  · obtain ⟨c, t, hbegin, hmode, ht, hdb, hless⟩ := hs.begin hfree
    have hwithin := within_logged hx ht hdb hless (Connection.follows_of_begun hmode t.database)
      (Connection.isWriter_of_begun hmode)
    simp only [atomically, Action.run_bind, hbegin]
    rcases hrun : (within c x).run t with ⟨outcome, u⟩
    rw [hrun] at hwithin
    cases outcome with
    | error fault => exact hwithin
    | ok result =>
      obtain ⟨a, c'⟩ := result
      cases hcommit : r.endingFault? .commit with
      | none =>
        obtain ⟨v, hclose, hv, hmore, hreleases⟩ :=
          close_releases hwithin.calm hwithin.follows hcommit
        simp only [hclose, Action.run_pure, carriedOut_ok]
        exact ⟨hv, hmore.trans hwithin.free, hwithin.grants.moves hreleases⟩
      | some cause =>
        -- The action has succeeded, but its log is discarded with the transaction.
        obtain ⟨hclose, hv, hreleases⟩ := close_rolls_back hwithin.calm hwithin.follows hcommit
        simp only [hclose, carriedOut_error]
        exact ⟨hv, (free_release _ _).trans hwithin.free, hwithin.grants.moves hreleases⟩
  · have hrun : (atomically x).run s = (.error (.database .noConnection), s) := by
      simp only [atomically, Action.run_bind, run_begin_of_none hfree]
    rw [hrun]
    exact hs.carries_nil

/-- A short transaction has the outcome of its action in a transaction that has just begun, if a
connection is free. -/
theorem run_atomically_fst {x : ConnectionM α} {ms : List Mutation} (hx : Work.Logs x ms)
    (hs : s.Calm) (hfree : s.HasFree) {outcome : Except Fault α}
    (houtcome : ∀ w : Work, w.store.Calm → w.store.database = s.database →
      w.connection.mode = .begun → (x.run w).1 = outcome) :
    ((atomically x).run s).1 = outcome := by
  obtain ⟨c, t, hbegin, hmode, ht, hdb, hless⟩ := hs.begin hfree
  have hrun := houtcome ⟨c, t⟩ ht hdb hmode
  have hwithin := within_logged hx ht hdb hless (Connection.follows_of_begun hmode t.database)
    (Connection.isWriter_of_begun hmode)
  cases outcome with
  | error fault =>
    simp only [atomically, within, Action.run_bind, hbegin, run_runOn, hrun, run_giveBack,
      Action.run_throw]
  | ok a =>
    rw [run_within_of_ok hrun] at hwithin
    obtain ⟨u, hclose, -⟩ :=
      close_releases hwithin.calm hwithin.follows (Repertoire.endingFault?_full .commit)
    simp only [atomically, Action.run_bind, hbegin, run_within_of_ok hrun, hclose, Action.run_pure]

/-- Where no transaction is the writer and a connection is free, mutations that are never refused
are carried out in a transaction of their own. -/
theorem run_atomically_performAll {tables : Tables} {ms : List Mutation} (hs : s.Calm)
    (hfree : s.HasFree) (htables : s.database.tables = some tables)
    (hlocked : s.database.locked = false) (hms : ∀ m ∈ ms, m.NeverRefused) :
    ((atomically (Work.performAll ms)).run s).1 = .ok () := by
  refine run_atomically_fst (Work.logs_performAll ms) hs hfree fun w hw hdb hmode => ?_
  have hcan : w.connection.CanWrite w.store.database :=
    Connection.canWrite_of_begun hmode (hdb ▸ htables) (hdb ▸ hlocked)
  exact Work.run_performAll_fst hw.repertoire
    (Connection.follows_of_begun hmode w.store.database) hcan hms

end Store

end ZoneStore
