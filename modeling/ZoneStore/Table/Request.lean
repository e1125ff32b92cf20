import ZoneStore.Table.Query

/-!
# Requests by statement and arguments

A statement of the backend with named arguments is a mutation, a query for raw columns, or the
question for the id inserted last. `Statement.request` reads the arguments that the template of the
statement names; `request_statement` says that the request runs that statement and no other.

The rows of the tables are typed, so a value that has no form of its column's type cannot be stored,
though a table without type checks would hold it as it is. A statement that would store such a
value, or order or match by it, is refused (`Request.ofName`). Where it would only be asked whether
a column equals the value, no column does.
-/

set_option autoImplicit false

namespace ZoneStore

/-- A statement with its arguments. -/
inductive Request where
  /-- A writing statement. -/
  | change (mutation : Mutation)
  /-- A reading statement, with the raw columns of its rows. -/
  | read (query : Query (List Value))
  /-- The question for the id of the row inserted last. -/
  | lastInsertedId

/-- The statement that a request runs. -/
def Request.statement : Request → Statement
  | .change mutation => mutation.statement
  | .read query => query.statement
  | .lastInsertedId => .lastInsertedId

/-- The row that the arguments of the record insertion describe, before it has an id. -/
def RecordRow.ofArguments (args : Arguments) : RecordRow where
  id := 0
  domainId := args.integer? "domain_id"
  name := args.text? "qname"
  type := args.text? "qtype"
  content := args.text? "content"
  ttl := args.integer? "ttl"
  prio := args.integer? "priority"
  disabled := args.integer? "disabled"
  ordername := args.text? "ordername"
  auth := args.integer? "auth"

/-- The kind under which masters are stored. -/
def masterKind : String := "MASTER"

/-- The request that a statement makes with the given arguments. -/
def Statement.request (args : Arguments) : Statement → Request
  | .recordsOfType => .read <| .columns RecordRow.columns <|
      .lookup (.only (args.text? "qtype")) (args.text? "qname") .any
  | .recordsOfTypeInZone => .read <| .columns RecordRow.columns <|
      .lookup (.only (args.text? "qtype")) (args.text? "qname")
        (.only (args.integer? "domain_id"))
  | .recordsOfAnyType => .read <| .columns RecordRow.columns <|
      .lookup .any (args.text? "qname") .any
  | .recordsOfAnyTypeInZone => .read <| .columns RecordRow.columns <|
      .lookup .any (args.text? "qname") (.only (args.integer? "domain_id"))
  | .zoneListing => .read <|
      (Query.zoneListing (args.integer? "domain_id") (args.integer? "include_disabled")).mapRows
        fun rows => (rows.splitBy fun a b => (a.orderByName b).isEq).flatMap fun group =>
          Value.sortRows (group.map RecordRow.listingColumns)
  | .subzoneListing => .read <| .columns RecordRow.columns <|
      .subzoneListing (args.text? "zone") (args.text? "wildzone") (args.integer? "domain_id")
  | .removeEmptyNonTerminals => .change <| .removeEmptyNonTerminals (args.integer? "domain_id")
  | .removeEmptyNonTerminal => .change <|
      .removeEmptyNonTerminal (args.integer? "domain_id") (args.text? "qname")
  | .domainInfo => .read <| .columns Query.domainColumns <| .domainInfo (args.text? "domain")
  | .domainId => .read <| .columns (fun id => [.integer id]) <| .domainId (args.text? "domain")
  | .autoprimaryAccount => .read <| .columns (fun a => [.text a.account]) <|
      .autoprimaryAccount (args.text? "ip") (args.text? "nameserver")
  | .autoprimaryAddresses => .read <| .columns (fun a => [.text a.ip, .text a.account]) <|
      .autoprimaryAddresses (args.text? "nameserver") (args.text? "account")
  | .addAutoprimary => .change <|
      .addAutoprimary (args.text? "ip") (args.text? "nameserver") (args.text? "account")
  | .removeAutoprimary => .change <|
      .removeAutoprimary (args.text? "ip") (args.text? "nameserver")
  | .autoprimaries => .read <| .columns Query.autoprimaryColumns .autoprimaries
  | .insertDomain => .change <|
      .insertDomain (args.text? "type") (args.text? "domain") (args.text? "masters")
        (args.text? "account")
  | .insertRecord => .change <| .insertRecord (.ofArguments args)
  | .insertEmptyNonTerminal => .change <|
      .insertEmptyNonTerminal (args.integer? "domain_id") (args.text? "qname")
        (args.text? "ordername") (args.integer? "auth")
  | .orderFirst => .read <| .columnsInOrder Query.chainColumns <|
      .orderFirst (args.integer? "domain_id")
  | .orderBefore => .read <| .columnsInOrder Query.chainColumns <|
      .orderBefore (args.integer? "domain_id") (args.text? "ordername")
  | .orderAfter => .read <| .columnsInOrder Query.chainColumns <|
      .orderAfter (args.integer? "domain_id") (args.text? "ordername")
  | .orderLast => .read <| .columnsInOrder Query.chainColumns <|
      .orderLast (args.integer? "domain_id")
  | .setOrder => .change <|
      .order (args.integer? "domain_id") (args.text? "qname") .any (.set (args.text? "ordername"))
        (args.integer? "auth")
  | .setOrderOfType => .change <|
      .order (args.integer? "domain_id") (args.text? "qname") (.only (args.text? "qtype"))
        (.set (args.text? "ordername")) (args.integer? "auth")
  | .clearOrder => .change <|
      .order (args.integer? "domain_id") (args.text? "qname") .any .clear (args.integer? "auth")
  | .clearOrderOfType => .change <|
      .order (args.integer? "domain_id") (args.text? "qname") (.only (args.text? "qtype")) .clear
        (args.integer? "auth")
  | .setMasters => .change <| .setMasters (args.text? "domain") (args.text? "master")
  | .setKind => .change <| .setKind (args.text? "domain") (args.text? "kind")
  | .setAccount => .change <| .setAccount (args.text? "domain") (args.text? "account")
  | .setNotifiedSerial => .change <|
      .setNotifiedSerial (args.integer? "domain_id") (args.integer? "serial")
  | .setLastCheck => .change <|
      .setLastCheck (args.integer? "domain_id") (args.integer? "last_check")
  | .masterSerials => .read <| .columns Query.masterColumns <| .masterSerials masterKind
  | .deleteDomain => .change <| .deleteDomain (args.text? "domain")
  | .deleteZone => .change <| .deleteZone (args.integer? "domain_id")
  | .deleteRecordSet => .change <|
      .deleteRecords (args.integer? "domain_id") (args.text? "qname")
        (.only (args.text? "qtype"))
  | .deleteName => .change <|
      .deleteRecords (args.integer? "domain_id") (args.text? "qname") .any
  | .addKey => .change <|
      .addKey (args.text? "domain") (args.integer? "flags") (args.integer? "active")
        (args.integer? "published") (args.text? "content")
  | .lastInsertedId => .lastInsertedId
  | .domainKeys => .read <| .columns Query.keyColumns <| .domainKeys (args.text? "domain")
  | .allMetadata => .read <| .columns (fun m => [.ofText? m.kind, .ofText? m.content]) <|
      .allMetadata (args.text? "domain")
  | .metadataOfKind => .read <| .columns (fun m => [.ofText? m.content]) <|
      .metadataOfKind (args.text? "domain") (args.text? "kind")
  | .clearMetadataOfKind => .change <|
      .clearMetadataOfKind (args.text? "domain") (args.text? "kind")
  | .clearMetadata => .change <| .clearMetadata (args.text? "domain")
  | .addMetadata => .change <|
      .addMetadata (args.text? "domain") (args.text? "kind") (args.text? "content")
  | .activateKey => .change <|
      .setKeyActive (args.text? "domain") (args.integer? "key_id") true
  | .deactivateKey => .change <|
      .setKeyActive (args.text? "domain") (args.integer? "key_id") false
  | .publishKey => .change <|
      .setKeyPublished (args.text? "domain") (args.integer? "key_id") true
  | .unpublishKey => .change <|
      .setKeyPublished (args.text? "domain") (args.integer? "key_id") false
  | .removeKey => .change <| .removeKey (args.text? "domain") (args.integer? "key_id")
  | .clearKeys => .change <| .clearKeys (args.text? "domain")
  | .tsigKeysOfName => .read <| .columns (fun k => [.ofText? k.algorithm, .ofText? k.secret]) <|
      .tsigKeysOfName (args.text? "key_name")
  | .setTsigKey => .change <|
      .setTsigKey (args.text? "key_name") (args.text? "algorithm") (args.text? "content")
  | .deleteTsigKey => .change <| .deleteTsigKey (args.text? "key_name")
  | .tsigKeys => .read <|
      .columns (fun k => [.ofText? k.name, .ofText? k.algorithm, .ofText? k.secret]) .tsigKeys
  | .allDomains => .read <| .columns Query.domainSoaColumns <|
      .allDomains (args.integer? "include_disabled")
  | .zoneComments => .read <| .columns Query.commentColumns <|
      .zoneComments (args.integer? "domain_id")
  | .insertComment => .change <|
      .insertComment (args.integer? "domain_id") (args.text? "qname") (args.text? "qtype")
        (args.integer? "modified_at") (args.text? "account") (args.text? "content")
  | .deleteRecordSetComments => .change <|
      .deleteRecordSetComments (args.integer? "domain_id") (args.text? "qname")
        (args.text? "qtype")
  | .deleteComments => .change <| .deleteComments (args.integer? "domain_id")
  | .searchRecords => .read <| .columnsInOrder RecordRow.columns <|
      .searchRecords (args.text? "value") (args.text? "value2") (args.integer? "limit")
  | .searchComments => .read <| .columnsInOrder Query.commentColumns <|
      .searchComments (args.text? "value") (args.text? "value2") (args.integer? "limit")

/-- The parameters whose values a statement stores, orders by, matches against a pattern or counts
as true, with the types of their columns. -/
def Statement.placed : Statement → List (String × Value.ColumnType)
  | .zoneListing | .allDomains => [("include_disabled", .integer)]
  | .subzoneListing => [("wildzone", .text)]
  | .addAutoprimary => [("ip", .text), ("nameserver", .text), ("account", .text)]
  | .insertDomain =>
    [("type", .text), ("domain", .text), ("masters", .text), ("account", .text)]
  | .insertRecord =>
    [("content", .text), ("ttl", .integer), ("priority", .integer), ("qtype", .text),
      ("domain_id", .integer), ("disabled", .integer), ("qname", .text), ("ordername", .text),
      ("auth", .integer)]
  | .insertEmptyNonTerminal =>
    [("domain_id", .integer), ("qname", .text), ("ordername", .text), ("auth", .integer)]
  | .orderBefore | .orderAfter => [("ordername", .text)]
  | .setOrder | .setOrderOfType => [("ordername", .text), ("auth", .integer)]
  | .clearOrder | .clearOrderOfType => [("auth", .integer)]
  | .setMasters => [("master", .text)]
  | .setKind => [("kind", .text)]
  | .setAccount => [("account", .text)]
  | .setNotifiedSerial => [("serial", .integer)]
  | .setLastCheck => [("last_check", .integer)]
  | .addKey =>
    [("flags", .integer), ("active", .integer), ("published", .integer), ("content", .text)]
  | .addMetadata => [("kind", .text), ("content", .text)]
  | .setTsigKey => [("key_name", .text), ("algorithm", .text), ("content", .text)]
  | .insertComment =>
    [("domain_id", .integer), ("qname", .text), ("qtype", .text), ("modified_at", .integer),
      ("account", .text), ("content", .text)]
  | .searchRecords | .searchComments => [("value", .text), ("value2", .text)]
  | _ => []

/-- Whether every argument that a statement places in a column has a form of the column's type. -/
def Statement.accepts (statement : Statement) (args : Arguments) : Bool :=
  statement.placed.all fun (name, type) => (args.value name).fits type

/-- A request runs the statement that it was made from. -/
theorem request_statement (args : Arguments) (statement : Statement) :
    (statement.request args).statement = statement := by
  cases statement <;> rfl

end ZoneStore
