import ZoneStore.Statement.Value

/-!
# Rows and tables

The seven tables of the database. A column that may hold `NULL` is an option, the others are
plain; truth values are stored as integers. A column holds values of its type and no other ones.
The rows of a table are kept in the order of their ids, which is the order of insertion.
-/

set_option autoImplicit false

namespace ZoneStore

/-- A row of `domains`. -/
structure DomainRow where
  /-- The id. -/
  id : Int
  /-- The zone name; no two zones have names that are alike. -/
  name : String
  /-- The addresses that the zone is transferred from, separated by blanks. -/
  master : Option String
  /-- The time of the last check. -/
  lastCheck : Option Int
  /-- The replication role. -/
  kind : String
  /-- The serial that was last notified. -/
  notifiedSerial : Option Int
  /-- The owner. -/
  account : Option String
deriving DecidableEq, Repr

/-- A row of `records`. -/
structure RecordRow where
  /-- The id. -/
  id : Int
  /-- The id of the zone. -/
  domainId : Option Int
  /-- The owner name. -/
  name : Option String
  /-- The record type; an empty non-terminal has none. -/
  type : Option String
  /-- The record data. -/
  content : Option String
  /-- The time to live. -/
  ttl : Option Int
  /-- The priority. -/
  prio : Option Int
  /-- Whether the record is disabled. -/
  disabled : Option Int
  /-- The ordering key. -/
  ordername : Option String
  /-- Whether the record is authoritative. -/
  auth : Option Int
deriving DecidableEq, Repr

/-- A row of `supermasters`. -/
structure AutoprimaryRow where
  /-- The position in the order of insertion. -/
  id : Int
  /-- The address. -/
  ip : String
  /-- The nameserver; no two entries of an address have nameservers that are alike. -/
  nameserver : String
  /-- The owner. -/
  account : String
deriving DecidableEq, Repr

/-- A row of `comments`. -/
structure CommentRow where
  /-- The id. -/
  id : Int
  /-- The id of the zone. -/
  domainId : Int
  /-- The owner name. -/
  name : String
  /-- The record type. -/
  type : String
  /-- The time of the last change. -/
  modifiedAt : Int
  /-- The author. -/
  account : Option String
  /-- The text. -/
  comment : String
deriving DecidableEq, Repr

/-- A row of `domainmetadata`. -/
structure MetadataRow where
  /-- The id. -/
  id : Int
  /-- The id of the domain. -/
  domainId : Int
  /-- The kind, compared by the collation. -/
  kind : Option String
  /-- The value. -/
  content : Option String
deriving DecidableEq, Repr

/-- A row of `cryptokeys`. -/
structure KeyRow where
  /-- The id. -/
  id : Int
  /-- The id of the domain. -/
  domainId : Int
  /-- The flags of the key. -/
  flags : Int
  /-- Whether the key is active. -/
  active : Option Int
  /-- Whether the key is published. -/
  published : Option Int
  /-- The key material. -/
  content : Option String
deriving DecidableEq, Repr

/-- A row of `tsigkeys`. -/
structure TsigRow where
  /-- The id. -/
  id : Int
  /-- The name of the key, compared by the collation. -/
  name : Option String
  /-- The algorithm; no two keys are alike in both name and algorithm. -/
  algorithm : Option String
  /-- The secret. -/
  secret : Option String
deriving DecidableEq, Repr

/-- The tables, each in the order of insertion. -/
structure Tables where
  /-- The zones. -/
  domains : List DomainRow
  /-- The records and empty non-terminals. -/
  records : List RecordRow
  /-- The autoprimaries. -/
  autoprimaries : List AutoprimaryRow
  /-- The comments. -/
  comments : List CommentRow
  /-- The metadata of the domains. -/
  metadata : List MetadataRow
  /-- The signing keys of the domains. -/
  keys : List KeyRow
  /-- The TSIG keys. -/
  tsigKeys : List TsigRow
deriving DecidableEq, Repr

/-- The tables without a row. -/
def Tables.empty : Tables := ⟨[], [], [], [], [], [], []⟩

/-- The id that the next row of a table gets: one more than the greatest id in it, or one. -/
def nextId {α : Type} (id : α → Int) (rows : List α) : Int :=
  rows.foldl (fun n r => max n (id r)) 0 + 1

/-- The search for the greatest id never falls below the number that it starts from. -/
theorem le_foldl_max {α : Type} (id : α → Int) (rows : List α) (n : Int) :
    n ≤ rows.foldl (fun n r => max n (id r)) n := by
  induction rows generalizing n with
  | nil => simp
  | cons r rest ih =>
    have h := ih (max n (id r))
    simp only [List.foldl_cons]
    omega

/-- The id of a new row exceeds every id in the table. -/
theorem lt_nextId {α : Type} (id : α → Int) {rows : List α} {r : α} (hr : r ∈ rows) :
    id r < nextId id rows := by
  have bound : ∀ (rows : List α) (n : Int), r ∈ rows →
      id r ≤ rows.foldl (fun n r => max n (id r)) n := by
    intro rows
    induction rows with
    | nil => intro n h; simp at h
    | cons s rest ih =>
      intro n h
      rw [List.foldl_cons]
      rcases List.mem_cons.1 h with rfl | h
      · have := le_foldl_max id rest (max n (id r))
        omega
      · exact ih _ h
  have := bound rows 0 hr
  unfold nextId
  omega

end ZoneStore
