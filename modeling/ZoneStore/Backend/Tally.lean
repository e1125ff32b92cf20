/-!
# Counting transactions

How many transactions were started, refused and ended, and in which way they ended; and how many
were open when that number last changed.
-/

set_option autoImplicit false

namespace ZoneStore

/-- The counts of transactions. -/
structure Tally where
  /-- The transactions that were started. -/
  started : Nat
  /-- The starts that were refused because the number was in use. -/
  conflicts : Nat
  /-- The commits. -/
  committed : Nat
  /-- The commits that failed. -/
  commitFailures : Nat
  /-- The aborts. -/
  aborted : Nat
  /-- The aborts that failed. -/
  abortFailures : Nat
  /-- The number of open transactions, once it has changed. -/
  opened : Option Nat
deriving DecidableEq, Repr

/-- Nothing has been counted. -/
def Tally.zero : Tally := ⟨0, 0, 0, 0, 0, 0, none⟩

end ZoneStore
