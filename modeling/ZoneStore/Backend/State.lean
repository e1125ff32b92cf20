import ZoneStore.Backend.Tally
import ZoneStore.Store.Execution
import ZoneStore.Store.Slots

/-!
# The backend

A `Backend` is a store with its mode of operation, the open transactions by number, and the
transactions that callers hold by name outside that numbering. Its operations are actions of
`BackendM`: an action that fails keeps the state that it has reached.

An operation runs to its end before the next one begins; operations that overlap in time are not
modelled, and neither is waiting, be it for a connection or for a lock. What can fail is what the
statements, the tables, their locks and the number of connections make fail, and any statement or
commit that the repertoire of the store refuses (`Role.fails`, `Repertoire.commitFault?`). There are
no other faults of the disk or of the operating system: a connection can always be opened, a
transaction begun and rolled back.
-/

set_option autoImplicit false

namespace ZoneStore

/-- A hasher: from a zone and an owner name to an ordering key. -/
abbrev Hasher := String → String → String

/-- A store with its mode of operation and its open transactions. -/
structure Backend where
  /-- Whether the signing mode is on. -/
  dnssec : Bool
  /-- The hasher for ordering keys, if there is one. -/
  hasher : Option Hasher
  /-- The store. -/
  store : Store
  /-- The slots of the numbered transactions. -/
  registry : Registry Int Slot
  /-- The transactions that callers hold by name. -/
  held : Registry String Connection
  /-- The counts of transactions. -/
  tally : Tally

/-- An action on a backend. -/
abbrev BackendM := Action Backend

namespace Backend

/-- A backend on a store, with no transaction open. -/
def on (store : Store) (dnssec : Bool) (hasher : Option Hasher) : Backend :=
  ⟨dnssec, hasher, store, .empty, .empty, .zero⟩

/-- A connection can be taken. -/
def HasFree (b : Backend) : Prop := b.store.HasFree

instance (b : Backend) : Decidable b.HasFree := inferInstanceAs (Decidable b.store.HasFree)

/-- Runs an action on the store of the backend. -/
def onStore {α : Type} (action : StoreM α) : BackendM α :=
  ⟨fun b =>
    let (outcome, store) := action.run b.store
    (outcome, { b with store := store })⟩

@[simp] theorem run_onStore {α : Type} (action : StoreM α) (b : Backend) :
    (onStore action).run b =
      ((action.run b.store).1, { b with store := (action.run b.store).2 }) := rfl

/-- Runs a query on the committed tables. -/
def fetch {ρ : Type} (query : Query ρ) : BackendM (List ρ) := onStore (Store.fetch query)

/-- Runs a mutation that takes effect at once. -/
def perform (mutation : Mutation) : BackendM Unit := do
  let _ ← onStore (Store.perform mutation)
  return ()

/-- Refuses to go on unless the signing mode is on. -/
def requireDnssec : BackendM Unit := do
  unless (← get).dnssec do throw .dnssecRequired

/-- Creates the tables where they are missing. -/
def provision : BackendM Unit := onStore Store.provision

/-- One line that describes the backend. -/
def describe (b : Backend) : String :=
  "Backend \x7b dnssec: " ++ toString b.dnssec ++ ", open_transactions: " ++
    toString b.registry.size ++ ", hasher: " ++ toString b.hasher.isSome ++ " \x7d"

/-- The counters that were touched and the number of open transactions once it has changed, by
name. -/
def metrics (b : Backend) : List (String × Nat) :=
  let counters :=
    [("pdns_backend_statements_total", b.store.statements),
     ("pdns_backend_transactions_started_total", b.tally.started),
     ("pdns_backend_transaction_conflicts_total", b.tally.conflicts),
     ("pdns_backend_transactions_committed_total", b.tally.committed),
     ("pdns_backend_transaction_commit_failures_total", b.tally.commitFailures),
     ("pdns_backend_transactions_aborted_total", b.tally.aborted),
     ("pdns_backend_transaction_abort_failures_total", b.tally.abortFailures)]
  counters.filter (·.2 ≠ 0) ++
    (b.tally.opened.map fun n => ("pdns_backend_transactions_open", n)).toList

/-! ## Raw statements -/

/-- Runs a statement by name for its effect, and gives the number of rows that it changed. -/
def performNamed (name : String) (args : Arguments) : BackendM Nat :=
  onStore (Store.direct (Work.performNamed name args))

/-- Runs a statement by name, and gives the raw columns of its rows. -/
def fetchNamed (name : String) (args : Arguments) : BackendM (List (List Value)) :=
  onStore (Store.direct (Work.fetchNamed name args))

end Backend

end ZoneStore
