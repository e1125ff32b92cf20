import ZoneStore.Table.Request

/-!
# Replication roles

A zone is a master, a slave or native; any other kind is kept as it is given. The three known kinds
are recognised in any ASCII case.
-/

set_option autoImplicit false

namespace ZoneStore

/-- The replication role of a zone. -/
inductive DomainKind where
  /-- Changes here are notified to others. -/
  | master
  /-- The zone is transferred from its masters. -/
  | slave
  /-- The zone is replicated by other means. -/
  | native
  /-- A kind that is not managed here. -/
  | other (kind : String)
deriving DecidableEq, Repr

namespace DomainKind

/-- The stored form of a kind. -/
def text : DomainKind → String
  | .master => masterKind
  | .slave => "SLAVE"
  | .native => "NATIVE"
  | .other kind => kind

/-- The kind that a text names. -/
def ofText (s : String) : DomainKind :=
  if Text.agree s DomainKind.master.text then .master
  else if Text.agree s DomainKind.slave.text then .slave
  else if Text.agree s DomainKind.native.text then .native
  else .other s

end DomainKind

end ZoneStore
