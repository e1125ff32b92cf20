import ZoneStore.Statement.Template
import ZoneStore.Text.Decimal

/-!
# Faults

Every way in which an operation can fail, by cause, and the wording of each. `DatabaseFault` holds
the causes that lie in the tables and their locks; `Fault` adds those of templates, arguments, the
catalog, transactions, configuration and text.
-/

set_option autoImplicit false

namespace ZoneStore

/-- The tables of the database. -/
inductive TableName where
  | domains | records | supermasters | comments | domainmetadata | cryptokeys | tsigkeys
deriving DecidableEq, Repr

/-- The name of a table. -/
def TableName.text : TableName → String
  | .domains => "domains"
  | .records => "records"
  | .supermasters => "supermasters"
  | .comments => "comments"
  | .domainmetadata => "domainmetadata"
  | .cryptokeys => "cryptokeys"
  | .tsigkeys => "tsigkeys"

/-- The two ways in which a transaction ends. -/
inductive Ending where
  /-- Its changes become the committed tables. -/
  | commit
  /-- Its changes are discarded. -/
  | rollback
deriving DecidableEq, Repr

/-- The verb of an ending. -/
def Ending.verb : Ending → String
  | .commit => "commit"
  | .rollback => "rollback"

/-- Why the database cannot be reached, why it refuses a statement, or why one of its rows cannot be
read. -/
inductive DatabaseFault where
  /-- Every connection to it is in use, and waiting for one has timed out. -/
  | noConnection
  /-- Another transaction is the writer, or others have committed since the view was fixed. -/
  | locked
  /-- The tables have not been created. -/
  | noSuchTable (table : TableName)
  /-- A column that takes no `NULL` would get one. -/
  | notNull (table : TableName) (column : String)
  /-- Two rows would agree in columns that are unique together. -/
  | notUnique (table : TableName) (columns : List String)
  /-- A search pattern exceeds the greatest length that is compared. -/
  | patternTooComplex
  /-- The limit of a search is no integer, or a value has no form of its column's type. -/
  | datatypeMismatch
  /-- There is no transaction to end. -/
  | noTransaction (ending : Ending)
  /-- The file of the database cannot be read or written. -/
  | fileFailed
  /-- A statement that was run for its effect gives rows. -/
  | unexpectedRows
  /-- A column that has to hold a value holds `NULL`. -/
  | nullColumn (index : Nat) (column : String)
  /-- A column holds an integer that its reader has no room for. -/
  | outOfRange (index : Nat) (n : Int)
deriving DecidableEq, Repr

/-- The wording of a database fault. -/
def DatabaseFault.message : DatabaseFault → String
  | .noConnection => "timed out waiting for connection"
  | .locked => "database is locked"
  | .noSuchTable table => "no such table: " ++ table.text
  | .notNull table column => "NOT NULL constraint failed: " ++ table.text ++ "." ++ column
  | .notUnique table columns =>
    "UNIQUE constraint failed: " ++
      ", ".intercalate (columns.map fun column => table.text ++ "." ++ column)
  | .patternTooComplex => "LIKE or GLOB pattern too complex"
  | .datatypeMismatch => "datatype mismatch"
  | .noTransaction ending => "cannot " ++ ending.verb ++ " - no transaction is active"
  | .fileFailed => "disk I/O error"
  | .unexpectedRows => "Execute returned results - did you mean to call query?"
  | .nullColumn index column =>
    "Invalid column type Null at index: " ++ toString index ++ ", name: " ++ column
  | .outOfRange index n => "Integer " ++ toString n ++ " out of range at index " ++ toString index

/-- Why an operation fails. -/
inductive Fault where
  /-- The database refuses a statement. -/
  | database (cause : DatabaseFault)
  /-- A statement template is malformed. -/
  | malformedTemplate (cause : Template.Malformed)
  /-- A flat argument list has an odd number of entries. -/
  | argumentShape (entries : Nat)
  /-- The catalog has no statement of that name. -/
  | unknownStatement (name : String)
  /-- A transaction of that number is open already. -/
  | transactionConflict (id : Int)
  /-- A transaction that is to be ended is not open. -/
  | noSuchTransaction (id : Int)
  /-- A transaction that is to be worked in is not open. -/
  | noActiveTransaction (id : Int)
  /-- The operation needs the signing mode. -/
  | dnssecRequired
  /-- An ordering key has to be hashed and there is no hasher. -/
  | hasherMissing
  /-- There is no domain of that name. -/
  | domainNotFound (name : String)
  /-- The configuration is at fault. -/
  | configuration (message : String)
  /-- A text that should be an integer is none. -/
  | integer (cause : Text.IntegerFault)
deriving DecidableEq, Repr

/-- The wording of a fault. -/
def Fault.message : Fault → String
  | .database .noConnection => "Connection pool error: " ++ DatabaseFault.noConnection.message
  | .database cause => "Database error: " ++ cause.message
  | .malformedTemplate cause =>
    "Malformed placeholder at byte " ++ toString cause.position ++ ": " ++ cause.reason.message
  | .argumentShape entries =>
    "Argument list must hold name/value pairs, got " ++ toString entries ++ " entries"
  | .unknownStatement name => "Unknown statement: " ++ name
  | .transactionConflict id => "Transaction " ++ toString id ++ " is already open"
  | .noSuchTransaction id => "No such transaction: " ++ toString id
  | .noActiveTransaction id => "No active transaction: " ++ toString id
  | .dnssecRequired => "Operation requires DNSSEC to be enabled"
  | .hasherMissing => "No ordering key hasher configured"
  | .domainNotFound name => "Domain not found: " ++ name
  | .configuration message => "Configuration error: " ++ message
  | .integer cause => "Parse error: " ++ cause.message

end ZoneStore
