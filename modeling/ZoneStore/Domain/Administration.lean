import ZoneStore.Backend.State
import ZoneStore.Domain.Kind
import ZoneStore.Domain.Soa

/-!
# Domains

Creating, describing, changing and deleting domains. A domain is found by any name like its own;
deleting it takes its records, comments, metadata and keys along, all of them or none.
-/

set_option autoImplicit false

namespace ZoneStore

/-- What is known about a zone. -/
structure DomainInfo where
  /-- The id. -/
  id : Int
  /-- The zone name. -/
  zone : String
  /-- The addresses that the zone is transferred from. -/
  masters : List String
  /-- The time of the last check, or zero. -/
  lastCheck : Int
  /-- The serial of the SOA record, or zero where it is not known. -/
  serial : Int
  /-- The serial that was last notified, or zero. -/
  notifiedSerial : Int
  /-- The replication role. -/
  kind : DomainKind
  /-- The owner. -/
  account : String
deriving DecidableEq, Repr

namespace DomainInfo

/-- Describes a domain whose serial is known. -/
def ofRow (row : DomainRow) (serial : Int) : DomainInfo where
  id := row.id
  zone := row.name
  masters := splitMasters (row.master.getD "")
  lastCheck := row.lastCheck.getD 0
  serial := serial
  notifiedSerial := row.notifiedSerial.getD 0
  kind := .ofText row.kind
  account := row.account.getD ""

/-- Describes a master by what its SOA record says: only its serials are given. -/
def ofMaster (row : DomainRow) (serial : Int) : DomainInfo where
  id := row.id
  zone := row.name
  masters := []
  lastCheck := 0
  serial := serial
  notifiedSerial := row.notifiedSerial.getD 0
  kind := .master
  account := ""

/-- The order of domain lists: by id and then by serial. -/
def order (a b : DomainInfo) : Ordering := (compare a.id b.id).then (compare a.serial b.serial)

/-- The descriptions in increasing order; those that agree in id and serial keep their order. -/
def sort (infos : List DomainInfo) : List DomainInfo :=
  infos.mergeSort fun a b => (order a b).isLE

end DomainInfo

namespace Backend

/-- The id of the domain of a name. -/
def domainId? (name : String) : BackendM (Option Int) := do
  return (← fetch (.domainId (some name))).head?

/-- Describes the domain of a name. Its serial is not looked up. -/
def domainInfo? (name : String) : BackendM (Option DomainInfo) := do
  return (← fetch (.domainInfo (some name))).head?.map fun row => .ofRow row 0

/-- The serial of a domain's SOA record, or zero where it has none. -/
def serialOf (soa : Option RecordRow) : Except Fault Int :=
  match soa.bind RecordRow.content with
  | none => .ok 0
  | some content => soaSerial content

/-- Describes the domains with an enabled SOA record, or all of them. -/
def allDomains (includeDisabled : Bool) : BackendM (List DomainInfo) := do
  let rows ← fetch (.allDomains (some (storedBool includeDisabled)))
  let infos ← Action.ofExcept <| rows.mapM fun p =>
    (serialOf p.2).map fun serial => DomainInfo.ofRow p.1 serial
  return DomainInfo.sort infos

/-- Describes the masters whose SOA serial differs from the serial that was last notified. -/
def updatedMasters : BackendM (List DomainInfo) := do
  let rows ← fetch (.masterSerials masterKind)
  let infos ← Action.ofExcept <| rows.mapM fun p =>
    (soaSerial (p.2.content.getD "")).map fun serial => DomainInfo.ofMaster p.1 serial
  return DomainInfo.sort (infos.filter fun i => i.serial ≠ i.notifiedSerial)

/-- Notes that a serial of a domain was notified. -/
def setNotified (domain serial : Int) : BackendM Unit :=
  perform (.setNotifiedSerial (some domain) (some serial))

/-- Notes that a domain was checked at the given time. -/
def setFresh (domain now : Int) : BackendM Unit := perform (.setLastCheck (some domain) (some now))

/-- Creates a domain. -/
def createDomain (name : String) (kind : DomainKind) (masters : List String) (account : String) :
    BackendM Unit :=
  perform (.insertDomain (some kind.text) (some name) (some (joinMasters masters)) (some account))

/-- The number of the service that zones are transferred from. -/
def transferService : String := "53"

/-- Creates a slave that is transferred from the given address. -/
def createSlaveDomain (ip name : String) : BackendM Unit :=
  createDomain name .slave [ip ++ ":" ++ transferService] ""

/-- Deletes the domain of a name and id with its records, comments, metadata and keys. -/
def domainRemoval (id : Int) (name : String) : List Mutation :=
  [.deleteZone (some id), .deleteComments (some id), .clearMetadata (some name),
   .clearKeys (some name), .deleteDomain (some name)]

/-- Deletes a domain with its records, comments, metadata and keys. -/
def deleteDomain (name : String) : BackendM Unit := do
  match ← domainId? name with
  | none => throw (.domainNotFound name)
  | some id => onStore (Store.atomically (Work.performAll (domainRemoval id name)))

/-- Sets the masters of a domain. -/
def setMasters (name : String) (masters : List String) : BackendM Unit :=
  perform (.setMasters (some name) (some (joinMasters masters)))

/-- Sets the kind of a domain. -/
def setKind (name : String) (kind : DomainKind) : BackendM Unit :=
  perform (.setKind (some name) (some kind.text))

/-- Sets the account of a domain. -/
def setAccount (name account : String) : BackendM Unit :=
  perform (.setAccount (some name) (some account))

end Backend

end ZoneStore
