import ZoneStore.Fault
import ZoneStore.Statement.Builtin
import ZoneStore.Table.Condition

/-!
# Mutations

A mutation is a writing statement with its parameters, an absent parameter being `NULL`.
`Mutation.apply` gives the tables after it, the number of rows that it changed, the id of the row
that it inserted, and whether it altered stored data; or it refuses, and then nothing changes.
-/

set_option autoImplicit false

namespace ZoneStore

/-- What a statement does to the ordering key of a record. -/
inductive KeyChange where
  /-- The key is removed. -/
  | clear
  /-- The key becomes the given one. -/
  | set (key : Option String)
deriving DecidableEq, Repr

/-- The ordering key after a change. -/
def KeyChange.key : KeyChange → Option String
  | .clear => none
  | .set key => key

/-- A writing statement with its parameters. -/
inductive Mutation where
  /-- Adds a record; the id of the given row is replaced by the next one. -/
  | insertRecord (row : RecordRow)
  /-- Adds an empty non-terminal. -/
  | insertEmptyNonTerminal (zone : Option Int) (name ordername : Option String) (auth : Option Int)
  /-- Deletes the empty non-terminals of a zone. -/
  | removeEmptyNonTerminals (zone : Option Int)
  /-- Deletes the empty non-terminals of a zone at one name. -/
  | removeEmptyNonTerminal (zone : Option Int) (name : Option String)
  /-- Deletes the records of a zone. -/
  | deleteZone (zone : Option Int)
  /-- Deletes the records of a name in a zone, of every type or of one. -/
  | deleteRecords (zone : Option Int) (name : Option String) (type : Scope String)
  /-- Changes ordering key and authority of the enabled records of a name in a zone, of every type
  or of one. -/
  | order (zone : Option Int) (name : Option String) (type : Scope String) (change : KeyChange)
      (auth : Option Int)
  /-- Adds a domain. -/
  | insertDomain (kind name masters account : Option String)
  /-- Sets the masters of a domain. -/
  | setMasters (name masters : Option String)
  /-- Sets the kind of a domain. -/
  | setKind (name kind : Option String)
  /-- Sets the account of a domain. -/
  | setAccount (name account : Option String)
  /-- Sets the notified serial of a domain. -/
  | setNotifiedSerial (domain serial : Option Int)
  /-- Sets the time of the last check of a domain. -/
  | setLastCheck (domain time : Option Int)
  /-- Deletes the row of a domain. -/
  | deleteDomain (name : Option String)
  /-- Adds an autoprimary. -/
  | addAutoprimary (ip nameserver account : Option String)
  /-- Removes an autoprimary. -/
  | removeAutoprimary (ip nameserver : Option String)
  /-- Adds a comment. -/
  | insertComment (zone : Option Int) (name type : Option String) (modifiedAt : Option Int)
      (account comment : Option String)
  /-- Deletes the comments of a name and type in a zone. -/
  | deleteRecordSetComments (zone : Option Int) (name type : Option String)
  /-- Deletes the comments of a zone. -/
  | deleteComments (zone : Option Int)
  /-- Adds one metadata value to a domain. -/
  | addMetadata (name kind content : Option String)
  /-- Deletes the metadata of one kind of a domain. -/
  | clearMetadataOfKind (name kind : Option String)
  /-- Deletes the metadata of a domain. -/
  | clearMetadata (name : Option String)
  /-- Adds a signing key to a domain. -/
  | addKey (name : Option String) (flags active published : Option Int) (content : Option String)
  /-- Marks a signing key of a domain as active or inactive. -/
  | setKeyActive (name : Option String) (key : Option Int) (active : Bool)
  /-- Marks a signing key of a domain as published or not. -/
  | setKeyPublished (name : Option String) (key : Option Int) (published : Bool)
  /-- Deletes a signing key of a domain. -/
  | removeKey (name : Option String) (key : Option Int)
  /-- Deletes the signing keys of a domain. -/
  | clearKeys (name : Option String)
  /-- Stores a TSIG key in place of the one of that name and algorithm. -/
  | setTsigKey (name algorithm secret : Option String)
  /-- Deletes the TSIG keys of a name. -/
  | deleteTsigKey (name : Option String)
deriving DecidableEq, Repr

namespace Mutation

/-- The statement that a mutation runs. -/
def statement : Mutation → Statement
  | insertRecord _ => .insertRecord
  | insertEmptyNonTerminal _ _ _ _ => .insertEmptyNonTerminal
  | removeEmptyNonTerminals _ => .removeEmptyNonTerminals
  | removeEmptyNonTerminal _ _ => .removeEmptyNonTerminal
  | deleteZone _ => .deleteZone
  | deleteRecords _ _ .any => .deleteName
  | deleteRecords _ _ (.only _) => .deleteRecordSet
  | order _ _ .any (.set _) _ => .setOrder
  | order _ _ (.only _) (.set _) _ => .setOrderOfType
  | order _ _ .any .clear _ => .clearOrder
  | order _ _ (.only _) .clear _ => .clearOrderOfType
  | insertDomain _ _ _ _ => .insertDomain
  | setMasters _ _ => .setMasters
  | setKind _ _ => .setKind
  | setAccount _ _ => .setAccount
  | setNotifiedSerial _ _ => .setNotifiedSerial
  | setLastCheck _ _ => .setLastCheck
  | deleteDomain _ => .deleteDomain
  | addAutoprimary _ _ _ => .addAutoprimary
  | removeAutoprimary _ _ => .removeAutoprimary
  | insertComment _ _ _ _ _ _ => .insertComment
  | deleteRecordSetComments _ _ _ => .deleteRecordSetComments
  | deleteComments _ => .deleteComments
  | addMetadata _ _ _ => .addMetadata
  | clearMetadataOfKind _ _ => .clearMetadataOfKind
  | clearMetadata _ => .clearMetadata
  | addKey _ _ _ _ _ => .addKey
  | setKeyActive _ _ active => if active then .activateKey else .deactivateKey
  | setKeyPublished _ _ published => if published then .publishKey else .unpublishKey
  | removeKey _ _ => .removeKey
  | clearKeys _ => .clearKeys
  | setTsigKey _ _ _ => .setTsigKey
  | deleteTsigKey _ => .deleteTsigKey

/-- The table that a mutation writes. -/
def target : Mutation → TableName
  | insertRecord _ | insertEmptyNonTerminal _ _ _ _ | removeEmptyNonTerminals _
  | removeEmptyNonTerminal _ _ | deleteZone _ | deleteRecords _ _ _ | order _ _ _ _ _ => .records
  | insertDomain _ _ _ _ | setMasters _ _ | setKind _ _ | setAccount _ _ | setNotifiedSerial _ _
  | setLastCheck _ _ | deleteDomain _ => .domains
  | addAutoprimary _ _ _ | removeAutoprimary _ _ => .supermasters
  | insertComment _ _ _ _ _ _ | deleteRecordSetComments _ _ _ | deleteComments _ => .comments
  | addMetadata _ _ _ | clearMetadataOfKind _ _ | clearMetadata _ => .domainmetadata
  | addKey _ _ _ _ _ | setKeyActive _ _ _ | setKeyPublished _ _ _ | removeKey _ _
  | clearKeys _ => .cryptokeys
  | setTsigKey _ _ _ | deleteTsigKey _ => .tsigkeys

end Mutation

/-! ## What a mutation leaves -/

/-- The outcome of a mutation. -/
structure Change where
  /-- The tables after it. -/
  tables : Tables
  /-- The number of rows inserted, deleted or matched by an update. -/
  rows : Nat
  /-- The id of the row inserted, if there is one. -/
  newId : Option Int
  /-- Whether stored data was altered, so that committing it makes other views outdated. -/
  alters : Bool
deriving DecidableEq, Repr

namespace Change

/-- No row is affected. -/
def nothing (tables : Tables) : Change := ⟨tables, 0, none, false⟩

/-- One row was inserted. -/
def insertion (tables : Tables) (id : Int) : Change := ⟨tables, 1, some id, true⟩

/-- So many rows were deleted. -/
def deletion (tables : Tables) (rows : Nat) : Change := ⟨tables, rows, none, decide (0 < rows)⟩

end Change

/-- The value of a column that takes no `NULL`. -/
def required {α : Type} (table : TableName) (column : String) :
    Option α → Except DatabaseFault α
  | some value => .ok value
  | none => .error (.notNull table column)

/-- The rows that do not satisfy a condition. -/
def without {α : Type} (p : α → Bool) (rows : List α) : List α := rows.filter fun r => !p r

/-- The rows, with those that satisfy a condition changed. -/
def revise {α : Type} (p : α → Bool) (f : α → α) (rows : List α) : List α :=
  rows.map fun r => if p r then f r else r

/-- Whether revising the rows changes one of them. -/
def revises {α : Type} [DecidableEq α] (p : α → Bool) (f : α → α) (rows : List α) : Bool :=
  rows.any fun r => p r && decide (f r ≠ r)

namespace Tables

/-- Deletes the records that satisfy a condition. -/
def deleteRecords (tables : Tables) (p : RecordRow → Bool) : Change :=
  .deletion { tables with records := without p tables.records } (tables.records.countP p)

/-- Appends a record under the next id. -/
def insertRecord (tables : Tables) (row : RecordRow) : Change :=
  let id := nextId RecordRow.id tables.records
  .insertion { tables with records := tables.records ++ [{ row with id := id }] } id

/-- Changes the records that satisfy a condition. Ordering keys are indexed, so stored data is
altered wherever a record is matched. -/
def reorderRecords (tables : Tables) (p : RecordRow → Bool) (f : RecordRow → RecordRow) : Change :=
  let rows := tables.records.countP p
  ⟨{ tables with records := revise p f tables.records }, rows, none, decide (0 < rows)⟩

/-- Changes the domains that satisfy a condition. -/
def updateDomains (tables : Tables) (p : DomainRow → Bool) (f : DomainRow → DomainRow) : Change :=
  ⟨{ tables with domains := revise p f tables.domains }, tables.domains.countP p, none,
    revises p f tables.domains⟩

/-- Deletes the comments that satisfy a condition. -/
def deleteComments (tables : Tables) (p : CommentRow → Bool) : Change :=
  .deletion { tables with comments := without p tables.comments } (tables.comments.countP p)

/-- Deletes the metadata that satisfy a condition. -/
def deleteMetadata (tables : Tables) (p : MetadataRow → Bool) : Change :=
  .deletion { tables with metadata := without p tables.metadata } (tables.metadata.countP p)

/-- Deletes the signing keys that satisfy a condition. -/
def deleteKeys (tables : Tables) (p : KeyRow → Bool) : Change :=
  .deletion { tables with keys := without p tables.keys } (tables.keys.countP p)

/-- Changes the signing keys that satisfy a condition. -/
def updateKeys (tables : Tables) (p : KeyRow → Bool) (f : KeyRow → KeyRow) : Change :=
  ⟨{ tables with keys := revise p f tables.keys }, tables.keys.countP p, none,
    revises p f tables.keys⟩

/-- Adds a domain, unless there is one with a name like its own. -/
def insertDomain (tables : Tables) (kind name masters account : Option String) :
    Except DatabaseFault Change := do
  let domain ← required .domains "name" name
  let kind ← required .domains "type" kind
  if tables.domains.any (·.isNamed name) then
    .error (.notUnique .domains ["name"])
  else
    let id := nextId DomainRow.id tables.domains
    let row : DomainRow := ⟨id, domain, masters, none, kind, none, account⟩
    .ok (.insertion { tables with domains := tables.domains ++ [row] } id)

/-- Sets the kind of a domain, which may not be absent. -/
def setKind (tables : Tables) (name kind : Option String) : Except DatabaseFault Change :=
  match kind with
  | some kind => .ok (tables.updateDomains (·.isNamed name) fun d => { d with kind := kind })
  | none =>
    if tables.domains.any (·.isNamed name) then .error (.notNull .domains "type")
    else .ok (.nothing tables)

/-- Whether an autoprimary has the address asked for and a nameserver like the one asked for. -/
def isAutoprimary (ip nameserver : Option String) (a : AutoprimaryRow) : Bool :=
  holds (some a.ip) ip && holdsAnyCase (some a.nameserver) nameserver

/-- Adds an autoprimary, unless there is one of that address with a nameserver like its own. -/
def addAutoprimary (tables : Tables) (ip nameserver account : Option String) :
    Except DatabaseFault Change := do
  let address ← required .supermasters "ip" ip
  let server ← required .supermasters "nameserver" nameserver
  let owner ← required .supermasters "account" account
  if tables.autoprimaries.any (isAutoprimary ip nameserver) then
    .error (.notUnique .supermasters ["ip", "nameserver"])
  else
    let id := nextId AutoprimaryRow.id tables.autoprimaries
    let row : AutoprimaryRow := ⟨id, address, server, owner⟩
    .ok (.insertion { tables with autoprimaries := tables.autoprimaries ++ [row] } id)

/-- Adds a comment. -/
def insertComment (tables : Tables) (zone : Option Int) (name type : Option String)
    (modifiedAt : Option Int) (account comment : Option String) : Except DatabaseFault Change := do
  let zone ← required .comments "domain_id" zone
  let name ← required .comments "name" name
  let type ← required .comments "type" type
  let modifiedAt ← required .comments "modified_at" modifiedAt
  let comment ← required .comments "comment" comment
  let id := nextId CommentRow.id tables.comments
  let row : CommentRow := ⟨id, zone, name, type, modifiedAt, account, comment⟩
  .ok (.insertion { tables with comments := tables.comments ++ [row] } id)

/-- Adds one metadata value, if the domain exists. -/
def addMetadata (tables : Tables) (name kind content : Option String) : Change :=
  match tables.domainId? name with
  | none => .nothing tables
  | some domain =>
    let id := nextId MetadataRow.id tables.metadata
    .insertion { tables with metadata := tables.metadata ++ [⟨id, domain, kind, content⟩] } id

/-- Whether a metadata row belongs to the domain asked for. -/
def isMetadataOf (domain : Option Int) (m : MetadataRow) : Bool := holds (some m.domainId) domain

/-- Adds a signing key, if the domain exists. -/
def addKey (tables : Tables) (name : Option String) (flags active published : Option Int)
    (content : Option String) : Except DatabaseFault Change :=
  match tables.domainId? name with
  | none => .ok (.nothing tables)
  | some domain => do
    let flags ← required .cryptokeys "flags" flags
    let id := nextId KeyRow.id tables.keys
    let row : KeyRow := ⟨id, domain, flags, active, published, content⟩
    .ok (.insertion { tables with keys := tables.keys ++ [row] } id)

/-- Whether a signing key belongs to the domain asked for. -/
def isKeyOf (domain : Option Int) (k : KeyRow) : Bool := holds (some k.domainId) domain

/-- Whether a signing key belongs to the domain asked for and has the id asked for. -/
def isKey (domain key : Option Int) (k : KeyRow) : Bool :=
  isKeyOf domain k && holds (some k.id) key

/-- Whether a TSIG key has a name and an algorithm like those asked for. -/
def isTsigKey (name algorithm : Option String) (k : TsigRow) : Bool :=
  holdsAnyCase k.name name && holdsAnyCase k.algorithm algorithm

/-- Stores a TSIG key in place of the one of that name and algorithm. The new row's id is chosen
while the old row is still there. -/
def setTsigKey (tables : Tables) (name algorithm secret : Option String) : Change :=
  let id := nextId TsigRow.id tables.tsigKeys
  let others := without (isTsigKey name algorithm) tables.tsigKeys
  .insertion { tables with tsigKeys := others ++ [⟨id, name, algorithm, secret⟩] } id

/-- Deletes the TSIG keys of a name. -/
def deleteTsigKey (tables : Tables) (name : Option String) : Change :=
  let p := fun k : TsigRow => holdsAnyCase k.name name
  .deletion { tables with tsigKeys := without p tables.tsigKeys } (tables.tsigKeys.countP p)

/-- Removes an autoprimary. -/
def removeAutoprimary (tables : Tables) (ip nameserver : Option String) : Change :=
  let p := isAutoprimary ip nameserver
  .deletion { tables with autoprimaries := without p tables.autoprimaries }
    (tables.autoprimaries.countP p)

/-- Deletes the row of a domain. -/
def deleteDomain (tables : Tables) (name : Option String) : Change :=
  let p := fun d : DomainRow => d.isNamed name
  .deletion { tables with domains := without p tables.domains } (tables.domains.countP p)

end Tables

/-- The row of an empty non-terminal, before it has an id. -/
def RecordRow.emptyNonTerminal (zone : Option Int) (name ordername : Option String)
    (auth : Option Int) : RecordRow :=
  ⟨0, zone, name, none, none, none, none, some 0, ordername, auth⟩

/-- Runs a mutation on the tables. -/
def Mutation.apply (tables : Tables) : Mutation → Except DatabaseFault Change
  | insertRecord row => .ok (tables.insertRecord row)
  | insertEmptyNonTerminal zone name ordername auth =>
    .ok (tables.insertRecord (.emptyNonTerminal zone name ordername auth))
  | removeEmptyNonTerminals zone =>
    .ok (tables.deleteRecords fun r => r.isIn zone && r.isEmptyNonTerminal)
  | removeEmptyNonTerminal zone name =>
    .ok (tables.deleteRecords fun r => r.isIn zone && r.isNamed name && r.isEmptyNonTerminal)
  | deleteZone zone => .ok (tables.deleteRecords fun r => r.isIn zone)
  | deleteRecords zone name type =>
    .ok (tables.deleteRecords fun r => r.isIn zone && r.isNamed name && type.admits r.type)
  | order zone name type change auth =>
    .ok (tables.reorderRecords
      (fun r => r.isIn zone && r.isNamed name && type.admits r.type && r.isEnabled)
      fun r => { r with ordername := change.key, auth := auth })
  | insertDomain kind name masters account => tables.insertDomain kind name masters account
  | setMasters name masters =>
    .ok (tables.updateDomains (·.isNamed name) fun d => { d with master := masters })
  | setKind name kind => tables.setKind name kind
  | setAccount name account =>
    .ok (tables.updateDomains (·.isNamed name) fun d => { d with account := account })
  | setNotifiedSerial domain serial =>
    .ok (tables.updateDomains (fun d => holds (some d.id) domain)
      fun d => { d with notifiedSerial := serial })
  | setLastCheck domain time =>
    .ok (tables.updateDomains (fun d => holds (some d.id) domain)
      fun d => { d with lastCheck := time })
  | deleteDomain name => .ok (tables.deleteDomain name)
  | addAutoprimary ip nameserver account => tables.addAutoprimary ip nameserver account
  | removeAutoprimary ip nameserver => .ok (tables.removeAutoprimary ip nameserver)
  | insertComment zone name type modifiedAt account comment =>
    tables.insertComment zone name type modifiedAt account comment
  | deleteRecordSetComments zone name type =>
    .ok (tables.deleteComments fun c =>
      holds (some c.domainId) zone && holds (some c.name) name && holds (some c.type) type)
  | deleteComments zone => .ok (tables.deleteComments fun c => holds (some c.domainId) zone)
  | addMetadata name kind content => .ok (tables.addMetadata name kind content)
  | clearMetadataOfKind name kind =>
    .ok (tables.deleteMetadata fun m =>
      Tables.isMetadataOf (tables.domainId? name) m && holdsAnyCase m.kind kind)
  | clearMetadata name =>
    .ok (tables.deleteMetadata (Tables.isMetadataOf (tables.domainId? name)))
  | addKey name flags active published content =>
    tables.addKey name flags active published content
  | setKeyActive name key active =>
    .ok (tables.updateKeys (Tables.isKey (tables.domainId? name) key)
      fun k => { k with active := some (storedBool active) })
  | setKeyPublished name key published =>
    .ok (tables.updateKeys (Tables.isKey (tables.domainId? name) key)
      fun k => { k with published := some (storedBool published) })
  | removeKey name key => .ok (tables.deleteKeys (Tables.isKey (tables.domainId? name) key))
  | clearKeys name => .ok (tables.deleteKeys (Tables.isKeyOf (tables.domainId? name)))
  | setTsigKey name algorithm secret => .ok (tables.setTsigKey name algorithm secret)
  | deleteTsigKey name => .ok (tables.deleteTsigKey name)

end ZoneStore
