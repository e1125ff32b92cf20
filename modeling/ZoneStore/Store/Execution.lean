import ZoneStore.Settings
import ZoneStore.Store.Action
import ZoneStore.Store.Database

/-!
# Running statements of the catalog

A `Store` is a database with a pool of connections and the statements that it knows. Work on one
connection is a `ConnectionM`; work on the store is a `StoreM`, which takes a connection from the
pool for as long as it needs one and fails if there is none. A statement is counted once it is
known, even if it then fails. A statement or a commit may also be refused for a reason outside the
tables and their locks; which ones are is part of the `Repertoire`.

The state that a failing action has reached is kept: what a transaction did before a fault stays
done until the transaction ends.
-/

set_option autoImplicit false

namespace ZoneStore

/-- What running a statement of the catalog does. -/
inductive Role where
  /-- The work of the statement. -/
  | own
  /-- The end of the transaction that it is run in. -/
  | ends (ending : Ending)
  /-- Nothing: whatever its arguments are, the database refuses it. -/
  | fails (cause : DatabaseFault)
deriving DecidableEq, Repr

/-- The statements that a store knows, what each of them does, and whether a transaction can be
committed. -/
structure Repertoire where
  /-- What a statement does, if it is known. -/
  role? : Statement → Option Role
  /-- Why no transaction can be committed, if that is so. -/
  commitFault? : Option DatabaseFault

namespace Repertoire

/-- Every statement, doing its own work. -/
def full : Repertoire := ⟨fun _ => some .own, none⟩

/-- The repertoire in which one statement does something else. -/
def update (r : Repertoire) (statement : Statement) (role : Option Role) : Repertoire :=
  { r with role? := fun s => if s = statement then role else r.role? s }

/-- The repertoire without one statement. -/
def forget (r : Repertoire) (statement : Statement) : Repertoire := r.update statement none

/-- The repertoire in which one statement ends the transaction that it is run in. -/
def override (r : Repertoire) (statement : Statement) (ending : Ending) : Repertoire :=
  r.update statement (some (.ends ending))

/-- Why a transaction cannot be ended in the given way, if that is so. -/
def endingFault? (r : Repertoire) : Ending → Option DatabaseFault
  | .commit => r.commitFault?
  | .rollback => none

@[simp] theorem endingFault?_full (ending : Ending) : full.endingFault? ending = none := by
  cases ending <;> rfl

end Repertoire

/-- The connections of a store that are not in use. -/
structure Pool where
  /-- The number of connections that can be taken. -/
  free : Nat
  /-- Those of them that have been in use, the one used last first. -/
  idle : List Connection
deriving DecidableEq, Repr

namespace Pool

/-- A pool of the given number of connections. -/
def ofSize (connections : Nat) : Pool := ⟨connections, []⟩

/-- Takes the connection used last, or a new one, if any can be taken. -/
def take? : Pool → Option (Connection × Pool)
  | ⟨0, _⟩ => none
  | ⟨free + 1, c :: rest⟩ => some (c, ⟨free, rest⟩)
  | ⟨free + 1, []⟩ => some (.fresh, ⟨free, []⟩)

/-- Puts a connection back. -/
def put (p : Pool) (c : Connection) : Pool := ⟨p.free + 1, c :: p.idle⟩

end Pool

/-- A database with a pool of connections and the statements that it knows. -/
structure Store where
  /-- The statements that the store knows. -/
  repertoire : Repertoire
  /-- The committed tables. -/
  database : Database
  /-- The connections that are not in use. -/
  pool : Pool
  /-- The number of statements that were run. -/
  statements : Nat

/-- An action on a store. -/
abbrev StoreM := Action Store

/-- A connection at work on its store. -/
structure Work where
  /-- The connection. -/
  connection : Connection
  /-- The store. -/
  store : Store

/-- An action on one connection of a store. -/
abbrev ConnectionM := Action Work

/-! ## Statements on a connection -/

namespace Work

/-- The work after one more statement was counted. -/
def count (w : Work) : Work := { w with store.statements := w.store.statements + 1 }

/-- The work with the connection and the database that a statement left. -/
def keep (w : Work) (connection : Connection) (database : Database) : Work :=
  { w with connection := connection, store.database := database }

/-- What a statement does; a statement that is not known is refused, and a known one is counted. -/
def roleOf (statement : Statement) : ConnectionM Role := do
  match (← get).store.repertoire.role? statement with
  | none => throw (.unknownStatement statement.name)
  | some role =>
    -- Counted before anything is done, so that a statement that fails is counted too.
    modify count
    return role

/-- Ends the transaction of the connection. If it cannot be committed it stays open. -/
def finish (ending : Ending) : ConnectionM Unit := do
  let w ← get
  match w.store.repertoire.endingFault? ending with
  | some cause => throw (.database cause)
  | none =>
    let (outcome, connection, database) := w.connection.finish w.store.database ending
    set (w.keep connection database)
    Action.ofDatabase outcome

/-- Runs a mutation that is known to do its own work. -/
def mutate (mutation : Mutation) : ConnectionM Nat := do
  let w ← get
  let (outcome, connection, database) := w.connection.mutate w.store.database mutation
  set (w.keep connection database)
  Action.ofDatabase outcome

/-- Runs a query that is known to do its own work. -/
def select {ρ : Type} (query : Query ρ) : ConnectionM (List ρ) := do
  let w ← get
  let (outcome, connection) := w.connection.select w.store.database query
  set (w.keep connection w.store.database)
  Action.ofDatabase outcome

/-- Runs a mutation and gives the number of rows that it changed. -/
def perform (mutation : Mutation) : ConnectionM Nat := do
  match ← roleOf mutation.statement with
  | .own => mutate mutation
  | .ends ending =>
    finish ending
    return (← get).connection.changes
  | .fails cause => throw (.database cause)

/-- Runs mutations one after another and stops at the first one that is refused. -/
def performAll : List Mutation → ConnectionM Unit
  | [] => return ()
  | mutation :: rest => do
    let _ ← perform mutation
    performAll rest

/-- Runs a query and gives its rows. -/
def fetch {ρ : Type} (query : Query ρ) : ConnectionM (List ρ) := do
  match ← roleOf query.statement with
  | .own => select query
  | .ends ending =>
    finish ending
    return []
  | .fails cause => throw (.database cause)

/-- The id of the row that the connection inserted last. -/
def fetchLastInsertedId : ConnectionM (List Int) := do
  match ← roleOf .lastInsertedId with
  | .own => return [(← get).connection.lastInsertedId]
  | .ends ending =>
    finish ending
    return []
  | .fails cause => throw (.database cause)

/-- Runs a request and gives its rows; a writing statement has none. -/
def fetchRequest : Request → ConnectionM (List (List Value))
  | .change mutation => do
    let _ ← perform mutation
    return []
  | .read query => fetch query
  | .lastInsertedId => do
    return (← fetchLastInsertedId).map fun id => [.integer id]

/-- Runs a request for its effect and gives the number of rows that it changed; a reading statement
may not have rows then. -/
def performRequest : Request → ConnectionM Nat
  | .change mutation => perform mutation
  | request => do
    let rows ← fetchRequest request
    if rows.isEmpty then return (← get).connection.changes
    else throw (.database .unexpectedRows)

/-- An unknown statement is refused, and nothing is counted. -/
theorem run_roleOf_of_none {statement : Statement} {w : Work}
    (h : w.store.repertoire.role? statement = none) :
    (roleOf statement).run w = (.error (.unknownStatement statement.name), w) := by
  simp [roleOf, h]

/-- A known statement is counted. -/
theorem run_roleOf_of_some {statement : Statement} {w : Work} {role : Role}
    (h : w.store.repertoire.role? statement = some role) :
    (roleOf statement).run w = (.ok role, w.count) := by
  simp [roleOf, h]

/-- A known statement that does its own work counts and then runs its mutation. -/
theorem run_perform_of_own {mutation : Mutation} {w : Work}
    (h : w.store.repertoire.role? mutation.statement = some .own) :
    (perform mutation).run w = (mutate mutation).run w.count := by
  simp [perform, run_roleOf_of_some h]

/-- A known statement that is refused counts, and nothing else happens. -/
theorem run_perform_of_fails {mutation : Mutation} {w : Work} {cause : DatabaseFault}
    (h : w.store.repertoire.role? mutation.statement = some (.fails cause)) :
    (perform mutation).run w = (.error (.database cause), w.count) := by
  simp [perform, run_roleOf_of_some h]

/-- A known statement that does its own work counts and then runs its query. -/
theorem run_fetch_of_own {ρ : Type} {query : Query ρ} {w : Work}
    (h : w.store.repertoire.role? query.statement = some .own) :
    (fetch query).run w = (select query).run w.count := by
  simp [fetch, run_roleOf_of_some h]

/-- A known query that is refused counts, and nothing else happens. -/
theorem run_fetch_of_fails {ρ : Type} {query : Query ρ} {w : Work} {cause : DatabaseFault}
    (h : w.store.repertoire.role? query.statement = some (.fails cause)) :
    (fetch query).run w = (.error (.database cause), w.count) := by
  simp [fetch, run_roleOf_of_some h]

end Work

/-- The request that a statement of the given name makes with the given arguments. -/
def Request.ofName (name : String) (args : Arguments) : Except Fault Request :=
  match Statement.ofName? name with
  | some statement =>
    if statement.accepts args then .ok (statement.request args)
    else .error (.database .datatypeMismatch)
  | none => .error (.unknownStatement name)

namespace Work

/-- Runs a statement by name for its effect, and gives the number of rows that it changed. -/
def performNamed (name : String) (args : Arguments) : ConnectionM Nat := do
  performRequest (← Action.ofExcept (Request.ofName name args))

/-- Runs a statement by name, and gives the raw columns of its rows. -/
def fetchNamed (name : String) (args : Arguments) : ConnectionM (List (List Value)) := do
  fetchRequest (← Action.ofExcept (Request.ofName name args))

end Work

/-! ## Connections of a store -/

namespace Store

/-- A store on a database with a pool of the given number of connections, with every statement known
and no statement run. -/
def on (database : Database) (connections : Nat := Settings.default.poolSize.toNat) : Store :=
  ⟨.full, database, .ofSize connections, 0⟩

/-- A connection can be taken. -/
def HasFree (s : Store) : Prop := 0 < s.pool.free

instance (s : Store) : Decidable s.HasFree := inferInstanceAs (Decidable (_ < _))

/-- Takes a connection from the pool, which waits in vain if all of them are in use. -/
def takeConnection : StoreM Connection := do
  let s ← get
  match s.pool.take? with
  | none => throw (.database .noConnection)
  | some (c, pool) =>
    set { s with pool := pool }
    return c

/-- The store after a connection was given back; a transaction that is still open on it is rolled
back. -/
def release (s : Store) (c : Connection) : Store :=
  let (_, closed, database) := c.finish s.database .rollback
  { s with pool := s.pool.put closed, database := database }

/-- Gives a connection back. -/
def giveBack (c : Connection) : StoreM Unit := modify (·.release c)

/-- Runs an action on a connection, and gives its outcome and the connection afterwards. -/
def runOn {α : Type} (c : Connection) (action : ConnectionM α) :
    StoreM (Except Fault α × Connection) :=
  ⟨fun s =>
    let (outcome, w) := action.run ⟨c, s⟩
    (.ok (outcome, w.connection), w.store)⟩

/-- Creates the tables where they are missing. -/
def provision : StoreM Unit := do
  let c ← takeConnection
  modify fun s => { s with database := s.database.provision }
  giveBack c

/-- Runs an action on a connection of its own, outside any transaction. -/
def direct {α : Type} (action : ConnectionM α) : StoreM α := do
  let (outcome, c) ← runOn (← takeConnection) action
  giveBack c
  Action.ofExcept outcome

/-- Runs a mutation outside any transaction. -/
def perform (mutation : Mutation) : StoreM Nat := direct (Work.perform mutation)

/-- Runs a query outside any transaction. -/
def fetch {ρ : Type} (query : Query ρ) : StoreM (List ρ) := direct (Work.fetch query)

/-- Begins a transaction on a connection of its own. -/
def begin : StoreM Connection := do
  return (← takeConnection).begin

/-- Runs an action in an open transaction and keeps the transaction open; if the action fails the
transaction is rolled back. -/
def within {α : Type} (c : Connection) (action : ConnectionM α) : StoreM (α × Connection) := do
  match ← runOn c action with
  | (.ok a, c) => return (a, c)
  | (.error fault, c) =>
    giveBack c
    throw fault

/-- Ends a transaction and gives its connection back, even if the transaction had ended before. -/
def close (c : Connection) (ending : Ending) : StoreM Unit := do
  let (outcome, c) ← runOn c (Work.finish ending)
  -- A transaction that could not be committed is still open, and rolled back here.
  giveBack c
  Action.ofExcept outcome

/-- Runs an action as one transaction, which is committed if the action succeeds and leaves nothing
behind if it fails. -/
def atomically {α : Type} (action : ConnectionM α) : StoreM α := do
  let (a, c) ← within (← begin) action
  close c .commit
  return a

end Store

end ZoneStore
