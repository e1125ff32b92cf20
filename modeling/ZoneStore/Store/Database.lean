import ZoneStore.Table.Request

/-!
# The committed tables and the connections to them

A `Database` holds the committed tables, a version that grows whenever stored data is altered,
and whether some transaction is the writer. A `Connection` runs statements on it. Outside a
transaction each statement takes effect at once. Within one, the first statement fixes the view;
the first writing statement makes the transaction the writer, which it stays until it ends, and
from then on its changes go to a view of its own. A writing statement is refused while another
transaction is the writer, and also where others have committed since the view was fixed.
-/

set_option autoImplicit false

namespace ZoneStore

/-- The committed tables and the state shared by all connections. -/
@[ext] structure Database where
  /-- The committed tables, once they have been created. -/
  tables : Option Tables
  /-- The number of commits that altered stored data. -/
  version : Nat
  /-- Whether some transaction is the writer. -/
  locked : Bool
deriving DecidableEq, Repr

namespace Database

/-- A database without tables. -/
def bare : Database := ⟨none, 0, false⟩

/-- A database with empty tables. -/
def empty : Database := ⟨some .empty, 0, false⟩

/-- Creates the tables where they are missing. -/
def provision (db : Database) : Database := { db with tables := some (db.tables.getD .empty) }

/-- Makes the given tables the committed ones; `altered` tells whether stored data was altered. -/
def install (db : Database) (tables : Tables) (altered : Bool) : Database :=
  { db with tables := some tables, version := if altered then db.version + 1 else db.version }

end Database

/-- How far the transaction of a connection has come. -/
inductive Mode where
  /-- There is no transaction: each statement takes effect at once. -/
  | autocommit
  /-- A transaction has begun and run no statement yet. -/
  | begun
  /-- The view was fixed at the given version by a reading statement. -/
  | reading (view : Tables) (version : Nat)
  /-- The transaction is the writer; `altered` tells whether it altered stored data. -/
  | writing (view : Tables) (altered : Bool)
deriving DecidableEq, Repr

/-- A connection to the database. -/
structure Connection where
  /-- How far its transaction has come. -/
  mode : Mode
  /-- The id of the row that it inserted last. -/
  lastInsertedId : Int
  /-- The number of rows that its last writing statement changed. -/
  changes : Nat
deriving DecidableEq, Repr

namespace Connection

/-- A connection that has run no statement. -/
def fresh : Connection := ⟨.autocommit, 0, 0⟩

/-- The tables that the next statement of the connection sees, if they have been created. -/
def view? (c : Connection) (db : Database) : Option Tables :=
  match c.mode with
  | .autocommit | .begun => db.tables
  | .reading view _ | .writing view _ => some view

/-- Whether the connection may run a writing statement. -/
def mayWrite (c : Connection) (db : Database) : Bool :=
  match c.mode with
  | .autocommit | .begun => !db.locked
  | .reading _ version => !db.locked && version == db.version
  | .writing _ _ => true

/-- The counts of the connection after a writing statement. -/
def after (c : Connection) : Except DatabaseFault Change → Connection
  | .ok change =>
    { c with lastInsertedId := change.newId.getD c.lastInsertedId, changes := change.rows }
  | .error _ => { c with changes := 0 }

/-- Puts the tables that a writing statement left where they belong: among the committed ones, or
into the view of the transaction, which is now the writer. -/
def place (c : Connection) (db : Database) (tables : Tables) (alters : Bool) :
    Connection × Database :=
  match c.mode with
  | .autocommit => (c, db.install tables alters)
  | .begun | .reading _ _ =>
    ({ c with mode := .writing tables alters }, { db with locked := true })
  | .writing _ altered => ({ c with mode := .writing tables (altered || alters) }, db)

/-- Runs a mutation: the number of rows changed, or why it is refused, with what it leaves. -/
def mutate (c : Connection) (db : Database) (mutation : Mutation) :
    Except DatabaseFault Nat × Connection × Database :=
  match c.view? db with
  | none => (.error (.noSuchTable mutation.target), c, db)
  | some view =>
    if c.mayWrite db then
      match mutation.apply view with
      | .ok change =>
        (.ok change.rows, (c.after (.ok change)).place db change.tables change.alters)
      -- A refused statement changes no row; within a transaction it counts as a write all the same.
      | .error fault => (.error fault, (c.after (.error fault)).place db view false)
    else (.error .locked, c.after (.error .locked), db)

/-- Runs a query: the rows, or why it fails, with the connection afterwards. The first statement
of a transaction fixes its view, even if it fails. -/
def select {ρ : Type} (c : Connection) (db : Database) (query : Query ρ) :
    Except DatabaseFault (List ρ) × Connection :=
  match c.view? db with
  | none => (.error (.noSuchTable query.source), c)
  | some view =>
    match c.mode with
    | .begun => (query.rows view, { c with mode := .reading view db.version })
    | _ => (query.rows view, c)

/-- Begins a transaction. -/
def begin (c : Connection) : Connection := { c with mode := .begun }

/-- Ends the transaction of the connection. -/
def finish (c : Connection) (db : Database) (ending : Ending) :
    Except DatabaseFault Unit × Connection × Database :=
  match c.mode with
  | .autocommit => (.error (.noTransaction ending), c, db)
  -- Nothing was written, so there is nothing to install or to discard.
  | .begun | .reading _ _ => (.ok (), { c with mode := .autocommit }, db)
  | .writing view altered =>
    let unlocked := { db with locked := false }
    (.ok (), { c with mode := .autocommit },
      match ending with
      | .commit => unlocked.install view altered
      | .rollback => unlocked)

end Connection

end ZoneStore
