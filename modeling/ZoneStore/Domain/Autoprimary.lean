import ZoneStore.Zone.Record
import ZoneStore.Backend.State

/-!
# Autoprimaries

An autoprimary is a nameserver at an address that may provision zones here, on behalf of an account.
-/

set_option autoImplicit false

namespace ZoneStore

/-- A nameserver that may provision zones. -/
structure Autoprimary where
  /-- The address. -/
  ip : String
  /-- The nameserver. -/
  nameserver : String
  /-- The account that its zones belong to. -/
  account : String
deriving DecidableEq, Repr

namespace Autoprimary

/-- Reads a row. -/
def ofRow (row : AutoprimaryRow) : Autoprimary := ⟨row.ip, row.nameserver, row.account⟩

/-- The order of autoprimaries: by address, nameserver and account. -/
def order (a b : Autoprimary) : Ordering :=
  (compare a.ip b.ip).then <|
  (compare a.nameserver b.nameserver).then <|
  compare a.account b.account

/-- The autoprimaries in increasing order. -/
def sort (primaries : List Autoprimary) : List Autoprimary :=
  primaries.mergeSort fun a b => (order a b).isLE

end Autoprimary

namespace Backend

/-- The first of the nameservers that is an autoprimary at the address, with its account. -/
def firstAutoprimary (ip : String) : List String → BackendM (Option (String × String))
  | [] => return none
  | nameserver :: rest => do
    match (← fetch (.autoprimaryAccount (some ip) (some nameserver))).head? with
    | some row => return some (nameserver, row.account)
    | none => firstAutoprimary ip rest

/-- The autoprimary that may provision a domain from an address: the first of the given nameserver
records that is one, with its account. -/
def authorize (ip _domain : String) (nameservers : List ResourceRecord) :
    BackendM (Option (String × String)) :=
  firstAutoprimary ip (nameservers.map ResourceRecord.content)

/-- Adds an autoprimary. -/
def addAutoprimary (p : Autoprimary) : BackendM Unit :=
  perform (.addAutoprimary (some p.ip) (some p.nameserver) (some p.account))

/-- Removes an autoprimary. -/
def removeAutoprimary (ip nameserver : String) : BackendM Unit :=
  perform (.removeAutoprimary (some ip) (some nameserver))

/-- Every autoprimary. -/
def listAutoprimaries : BackendM (List Autoprimary) := do
  return Autoprimary.sort ((← fetch .autoprimaries).map Autoprimary.ofRow)

/-- The addresses of a nameserver under an account. -/
def autoprimaryAddresses (nameserver account : String) : BackendM (List String) := do
  let rows ← fetch (.autoprimaryAddresses (some nameserver) (some account))
  return (rows.map AutoprimaryRow.ip).mergeSort fun a b => (compare a b).isLE

end Backend

end ZoneStore
