import ZoneStore.Backend.State

/-!
# Positions on the ordering chain

The names of a zone in the order of their ordering keys, as authenticated denial of existence needs
them: the first and the last position, and those next to a given key.
-/

set_option autoImplicit false

namespace ZoneStore

/-- A position on the ordering chain of a zone. -/
structure OrderEntry where
  /-- The ordering key. -/
  ordername : String
  /-- The owner name that carries it. -/
  name : String
deriving DecidableEq, Repr

/-- Reads a position, which has to have a name. -/
def OrderEntry.ofColumns (p : String × Option String) : Except DatabaseFault OrderEntry :=
  match p.2 with
  | some name => .ok ⟨p.1, name⟩
  | none => .error (.nullColumn 1 "name")

namespace Backend

/-- The position that an ordering query gives. -/
def orderEntry (query : Query (String × Option String)) : BackendM (Option OrderEntry) := do
  let rows ← fetch query
  let entries ← Action.ofDatabase (rows.mapM OrderEntry.ofColumns)
  return entries.head?

/-- The least ordering key of a zone. -/
def orderFirst (zone : Int) : BackendM (Option OrderEntry) := orderEntry (.orderFirst (some zone))

/-- The greatest ordering key of a zone that does not exceed the given one. -/
def orderBefore (zone : Int) (key : String) : BackendM (Option OrderEntry) :=
  orderEntry (.orderBefore (some zone) (some key))

/-- The least ordering key of a zone that exceeds the given one. -/
def orderAfter (zone : Int) (key : String) : BackendM (Option OrderEntry) :=
  orderEntry (.orderAfter (some zone) (some key))

/-- The greatest ordering key of a zone that is not empty. -/
def orderLast (zone : Int) : BackendM (Option OrderEntry) := orderEntry (.orderLast (some zone))

end Backend

end ZoneStore
