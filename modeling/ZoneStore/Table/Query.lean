import ZoneStore.Pattern.Like
import ZoneStore.Table.Mutation

/-!
# Queries

A query is a reading statement at given parameters. `Query.rows` gives the rows that it selects, as
rows of the tables; the raw columns of a statement are a function of those (`Query.columns`). Rows
come in the order of the statement where it has one, and otherwise in the order of their ids.

The ordering chain of a zone (`Tables.orderingChain`) is the list of its ordering keys in increasing
order; the four ordering queries are positions on it.
-/

set_option autoImplicit false

namespace ZoneStore

/-- A reading statement at given parameters, with rows of type `ρ`. -/
structure Query (ρ : Type) where
  /-- The statement that is run. -/
  statement : Statement
  /-- The table that the statement names first. -/
  source : TableName
  /-- The rows selected, or why the selection fails. -/
  rows : Tables → Except DatabaseFault (List ρ)

namespace Query

/-- The query with its list of rows mapped. -/
def mapRows {ρ σ : Type} (f : List ρ → List σ) (q : Query ρ) : Query σ where
  statement := q.statement
  source := q.source
  rows tables := (q.rows tables).map f

/-- The query with columns in place of rows, in increasing order column by column. -/
def columns {ρ : Type} (f : ρ → List Value) (q : Query ρ) : Query (List Value) :=
  q.mapRows fun rows => Value.sortRows (rows.map f)

/-- The query with columns in place of rows, in the order of the rows. -/
def columnsInOrder {ρ : Type} (f : ρ → List Value) (q : Query ρ) : Query (List Value) :=
  q.mapRows (List.map f)

/-- A query that never fails. -/
def selecting {ρ : Type} (statement : Statement) (source : TableName) (rows : Tables → List ρ) :
    Query ρ where
  statement := statement
  source := source
  rows tables := .ok (rows tables)

end Query

/-! ## Records -/

/-- The order of optional values, the absent one first. -/
def orderOptional {α : Type} [Ord α] : Option α → Option α → Ordering
  | none, none => .eq
  | none, some _ => .lt
  | some _, none => .gt
  | some a, some b => compare a b

namespace RecordRow

/-- The order of records by name and then by type. -/
def orderByName (a b : RecordRow) : Ordering :=
  (orderOptional a.name b.name).then (orderOptional a.type b.type)

/-- The records by name and then by type; records that agree in both keep their order. -/
def sortByName (rows : List RecordRow) : List RecordRow :=
  rows.mergeSort fun a b => (orderByName a b).isLE

/-- The records by ordering key, those without one first; equal keys keep their order. -/
def sortByKey (rows : List RecordRow) : List RecordRow :=
  rows.mergeSort fun a b => (orderOptional a.ordername b.ordername).isLE

/-- The columns of record queries. -/
def columns (r : RecordRow) : List Value :=
  [.ofText? r.content, .ofInteger? r.ttl, .ofInteger? r.prio, .ofText? r.type,
   .ofInteger? r.domainId, .ofInteger? r.disabled, .ofText? r.name, .ofInteger? r.auth]

/-- The columns of zone listings: those of record queries and the ordering key. -/
def listingColumns (r : RecordRow) : List Value := r.columns ++ [.ofText? r.ordername]

end RecordRow

/-- The rows that satisfy a condition that may fail, up to a greatest number of them. No row is
looked at once that number is reached. -/
def firstHits {α : Type} (hit : α → Except DatabaseFault Bool) :
    Option Nat → List α → Except DatabaseFault (List α)
  | some 0, _ => .ok []
  | _, [] => .ok []
  | limit, r :: rest => do
    if ← hit r then
      let more ← firstHits hit (limit.map (· - 1)) rest
      .ok (r :: more)
    else firstHits hit limit rest

/-- The greatest number of rows that a limit stands for; a negative limit is none. -/
def limitOf : Option Int → Except DatabaseFault (Option Nat)
  | none => .error .datatypeMismatch
  | some n => .ok (if n < 0 then none else some n.toNat)

/-- The first rows of which one of two columns matches its pattern. A column is compared only if the
one before it does not match. -/
def searchRows {α : Type} (first second : α → Option String) (pattern pattern2 : Option String)
    (limit : Option Int) (rows : List α) : Except DatabaseFault (List α) := do
  let limit ← limitOf limit
  firstHits
    (fun r => do
      if ← Like.compare (some '\\') (first r) pattern then .ok true
      else Like.compare (some '\\') (second r) pattern2)
    limit rows

namespace Query

/-- The statement of a look-up by name. -/
def lookupStatement : Scope String → Scope Int → Statement
  | .only _, .any => .recordsOfType
  | .only _, .only _ => .recordsOfTypeInZone
  | .any, .any => .recordsOfAnyType
  | .any, .only _ => .recordsOfAnyTypeInZone

/-- The enabled records of a name, of every type or of one, in every zone or in one. -/
def lookup (type : Scope String) (name : Option String) (zone : Scope Int) : Query RecordRow :=
  .selecting (lookupStatement type zone) .records fun tables =>
    RecordRow.sortByName (tables.records.filter fun r =>
      r.isEnabled && type.admits r.type && r.isNamed name && zone.admits r.domainId)

/-- The records of a zone by name and type, the enabled ones or all of them. -/
def zoneListing (zone includeDisabled : Option Int) : Query RecordRow :=
  .selecting .zoneListing .records fun tables =>
    RecordRow.sortByName (tables.records.filter fun r =>
      (r.isEnabled || isTrue includeDisabled) && r.isIn zone)

/-- The enabled records of a zone whose name is the given one or matches the given pattern, by
ordering key. -/
def subzoneListing (name pattern : Option String) (zone : Option Int) : Query RecordRow where
  statement := .subzoneListing
  source := .records
  rows tables := do
    let inside ← (tables.records.filter fun r => r.isEnabled && r.isIn zone).filterM fun r =>
      if r.isNamed name then .ok true else Like.compare none r.name pattern
    .ok (RecordRow.sortByKey inside)

/-- The first records whose name or content matches its pattern. -/
def searchRecords (pattern pattern2 : Option String) (limit : Option Int) : Query RecordRow where
  statement := .searchRecords
  source := .records
  rows tables :=
    searchRows RecordRow.name RecordRow.content pattern pattern2 limit tables.records

end Query

/-! ## The ordering chain -/

/-- The ordering keys of the enabled records of a zone with the names that carry them, in increasing
order of the keys; equal keys keep the order of the records. -/
def Tables.orderingChain (tables : Tables) (zone : Option Int) : List (String × Option String) :=
  ((tables.records.filter fun r => r.isEnabled && r.isIn zone).filterMap fun r =>
    r.ordername.map fun key => (key, r.name)).mergeSort fun a b => (compare a.1 b.1).isLE

namespace Query

/-- The columns of a position on the ordering chain. -/
def chainColumns (p : String × Option String) : List Value := [.text p.1, .ofText? p.2]

/-- The least key of a zone. -/
def orderFirst (zone : Option Int) : Query (String × Option String) :=
  .selecting .orderFirst .records fun tables => (tables.orderingChain zone).head?.toList

/-- The greatest key of a zone that does not exceed the given one. -/
def orderBefore (zone : Option Int) (key : Option String) : Query (String × Option String) :=
  .selecting .orderBefore .records fun tables =>
    ((tables.orderingChain zone).filter fun p =>
      key.any fun k => (compare p.1 k).isLE).getLast?.toList

/-- The least key of a zone that exceeds the given one. -/
def orderAfter (zone : Option Int) (key : Option String) : Query (String × Option String) :=
  .selecting .orderAfter .records fun tables =>
    ((tables.orderingChain zone).filter fun p =>
      key.any fun k => (compare p.1 k).isGT).head?.toList

/-- The greatest key of a zone that is not empty. -/
def orderLast (zone : Option Int) : Query (String × Option String) :=
  .selecting .orderLast .records fun tables =>
    ((tables.orderingChain zone).filter fun p => p.1 != "").getLast?.toList

end Query

/-! ## Domains -/

/-- The type of the record that holds the serial of a zone. -/
def soaType : String := "SOA"

/-- Whether a record is the SOA record of a domain: of that type, in its zone, and at exactly its
name. -/
def DomainRow.isSoa (d : DomainRow) (r : RecordRow) : Bool :=
  r.isIn (some d.id) && r.type == some soaType && r.isNamed (some d.name)

/-- The domains with their SOA records; a domain without one is paired with nothing. -/
def Tables.domainsWithSoa (tables : Tables) : List (DomainRow × Option RecordRow) :=
  tables.domains.flatMap fun d =>
    match tables.records.filter d.isSoa with
    | [] => [(d, none)]
    | soas => soas.map fun r => (d, some r)

namespace Query

/-- The domain of a name. -/
def domainInfo (name : Option String) : Query DomainRow :=
  .selecting .domainInfo .domains fun tables => tables.domains.filter (·.isNamed name)

/-- The columns of a domain. -/
def domainColumns (d : DomainRow) : List Value :=
  [.integer d.id, .text d.name, .ofText? d.master, .ofInteger? d.lastCheck,
   .ofInteger? d.notifiedSerial, .text d.kind, .ofText? d.account]

/-- The id of the domain of a name. -/
def domainId (name : Option String) : Query Int :=
  .selecting .domainId .domains fun tables =>
    (tables.domains.filter (·.isNamed name)).map DomainRow.id

/-- The domains with their SOA records: those with an enabled one, or all of them. -/
def allDomains (includeDisabled : Option Int) : Query (DomainRow × Option RecordRow) :=
  .selecting .allDomains .domains fun tables =>
    tables.domainsWithSoa.filter fun p => p.2.any (·.isEnabled) || isTrue includeDisabled

/-- The columns of a domain and its SOA record. -/
def domainSoaColumns (p : DomainRow × Option RecordRow) : List Value :=
  [.integer p.1.id, .text p.1.name, .ofText? (p.2.bind RecordRow.content), .text p.1.kind,
   .ofText? p.1.master, .ofInteger? p.1.notifiedSerial, .ofInteger? p.1.lastCheck,
   .ofText? p.1.account]

/-- The enabled SOA records of the domains of the given kind, with their domains, in the order of
the records. -/
def masterSerials (kind : String) : Query (DomainRow × RecordRow) :=
  .selecting .masterSerials .records fun tables =>
    (tables.records.filter (·.isEnabled)).flatMap fun r =>
      (tables.domains.filter fun d => d.isSoa r && d.kind == kind).map fun d => (d, r)

/-- The columns of a master and its SOA record. -/
def masterColumns (p : DomainRow × RecordRow) : List Value :=
  [.integer p.1.id, .text p.1.name, .ofInteger? p.1.notifiedSerial, .ofText? p.2.content]

end Query

/-! ## Autoprimaries, comments, metadata and keys -/

namespace Query

/-- The autoprimary of an address and nameserver. -/
def autoprimaryAccount (ip nameserver : Option String) : Query AutoprimaryRow :=
  .selecting .autoprimaryAccount .supermasters fun tables =>
    tables.autoprimaries.filter (Tables.isAutoprimary ip nameserver)

/-- The autoprimaries of a nameserver under an account. -/
def autoprimaryAddresses (nameserver account : Option String) : Query AutoprimaryRow :=
  .selecting .autoprimaryAddresses .supermasters fun tables =>
    tables.autoprimaries.filter fun a =>
      holdsAnyCase (some a.nameserver) nameserver && holds (some a.account) account

/-- Every autoprimary. -/
def autoprimaries : Query AutoprimaryRow :=
  .selecting .autoprimaries .supermasters Tables.autoprimaries

/-- The columns of an autoprimary. -/
def autoprimaryColumns (a : AutoprimaryRow) : List Value :=
  [.text a.ip, .text a.nameserver, .text a.account]

/-- The comments of a zone. -/
def zoneComments (zone : Option Int) : Query CommentRow :=
  .selecting .zoneComments .comments fun tables =>
    tables.comments.filter fun c => holds (some c.domainId) zone

/-- The first comments whose name or text matches its pattern. -/
def searchComments (pattern pattern2 : Option String) (limit : Option Int) : Query CommentRow where
  statement := .searchComments
  source := .comments
  rows tables :=
    searchRows (fun c => some c.name) (fun c => some c.comment) pattern pattern2 limit
      tables.comments

/-- The columns of a comment. -/
def commentColumns (c : CommentRow) : List Value :=
  [.integer c.domainId, .text c.name, .text c.type, .integer c.modifiedAt, .ofText? c.account,
   .text c.comment]

/-- The metadata of a domain. -/
def allMetadata (name : Option String) : Query MetadataRow :=
  .selecting .allMetadata .domains fun tables =>
    tables.metadata.filter (Tables.isMetadataOf (tables.domainId? name))

/-- The metadata of one kind of a domain. -/
def metadataOfKind (name kind : Option String) : Query MetadataRow :=
  .selecting .metadataOfKind .domains fun tables =>
    tables.metadata.filter fun m =>
      Tables.isMetadataOf (tables.domainId? name) m && holdsAnyCase m.kind kind

/-- The signing keys of a domain. -/
def domainKeys (name : Option String) : Query KeyRow :=
  .selecting .domainKeys .domains fun tables =>
    tables.keys.filter (Tables.isKeyOf (tables.domainId? name))

/-- The columns of a signing key. -/
def keyColumns (k : KeyRow) : List Value :=
  [.integer k.id, .integer k.flags, .ofInteger? k.active, .ofInteger? k.published,
   .ofText? k.content]

/-- The order of the algorithms of TSIG keys: the absent one first, then by the collation. -/
def orderAlgorithms (a b : TsigRow) : Ordering :=
  orderOptional (a.algorithm.map Text.collationKey) (b.algorithm.map Text.collationKey)

/-- The TSIG keys of a name, by algorithm. -/
def tsigKeysOfName (name : Option String) : Query TsigRow :=
  .selecting .tsigKeysOfName .tsigkeys fun tables =>
    (tables.tsigKeys.filter fun k => holdsAnyCase k.name name).mergeSort fun a b =>
      (orderAlgorithms a b).isLE

/-- Every TSIG key. -/
def tsigKeys : Query TsigRow := .selecting .tsigKeys .tsigkeys Tables.tsigKeys

end Query

end ZoneStore
