import ZoneStore.Zone.Listing

/-!
# Signing keys

The signing keys of a domain. Every operation on them needs the signing mode, and checks it before
anything else.
-/

set_option autoImplicit false

namespace ZoneStore

/-- A signing key. -/
structure SigningKey where
  /-- The id. -/
  id : Int
  /-- The flags. -/
  flags : UInt32
  /-- Whether the key signs. -/
  active : Bool
  /-- Whether the key is published. -/
  published : Bool
  /-- The key material. -/
  content : String
deriving DecidableEq, Repr

/-- Reads a row: a key is inactive, published and empty where the row does not say otherwise. -/
def SigningKey.ofRow (row : KeyRow) : Except DatabaseFault SigningKey := do
  let flags ← readWord 1 row.flags
  .ok ⟨row.id, flags, isTrue row.active, isTrue (row.published.or (some 1)), row.content.getD ""⟩

/-- Adds a signing key to the domain of a name. -/
def SigningKey.addition (key : SigningKey) (name : String) : Mutation :=
  .addKey (some name) (some key.flags.toNat) (some (storedBool key.active))
    (some (storedBool key.published)) (some key.content)

namespace Backend

/-- Adds a signing key to a domain and gives its id; the id of the given key is not used. -/
def addDomainKey (name : String) (key : SigningKey) : BackendM Int := do
  requireDnssec
  onStore <| Store.atomically do
    let added ← Work.perform (key.addition name)
    -- A domain that is not there is noticed by the row that was not added.
    if added = 0 then throw (.domainNotFound name)
    return (← Work.fetchLastInsertedId).head?.getD 0

/-- The signing keys of a domain. -/
def domainKeys (name : String) : BackendM (List SigningKey) := do
  requireDnssec
  readRows SigningKey.ofRow (← fetch (.domainKeys (some name)))

/-- Runs a mutation of the signing keys. -/
def updateKey (mutation : Mutation) : BackendM Unit := do
  requireDnssec
  perform mutation

/-- Deletes a signing key of a domain. -/
def removeDomainKey (name : String) (key : Int) : BackendM Unit :=
  updateKey (.removeKey (some name) (some key))

/-- Marks a signing key of a domain as active or inactive. -/
def setDomainKeyActive (name : String) (key : Int) (active : Bool) : BackendM Unit :=
  updateKey (.setKeyActive (some name) (some key) active)

/-- Marks a signing key of a domain as published or not. -/
def setDomainKeyPublished (name : String) (key : Int) (published : Bool) : BackendM Unit :=
  updateKey (.setKeyPublished (some name) (some key) published)

end Backend

end ZoneStore
