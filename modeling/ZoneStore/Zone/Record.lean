import ZoneStore.Table.Query

/-!
# Resource records

A `ResourceRecord` is a record as callers give and get it: texts are empty and numbers zero where
the row holds `NULL`, and the time to live is a number of 32 bits. Reading a row fails where it
has no zone or its time to live has more than 32 bits (`ResourceRecord.ofRow`). Lists of records
without an order of their own are sorted by all fields (`ResourceRecord.sort`).
-/

set_option autoImplicit false

namespace ZoneStore

/-- A resource record. -/
structure ResourceRecord where
  /-- The id of the zone. -/
  domainId : Int
  /-- The owner name. -/
  qname : String
  /-- The record type; an empty non-terminal has the empty text. -/
  qtype : String
  /-- The record data. -/
  content : String
  /-- The time to live in seconds. -/
  ttl : UInt32
  /-- The priority. -/
  priority : Int
  /-- Whether the record is disabled. -/
  disabled : Bool
  /-- Whether the record is authoritative. -/
  auth : Bool
  /-- The ordering key, where it is known. -/
  ordername : Option String
deriving DecidableEq, Repr

/-- Reads the integer of a column as a number of 32 bits without sign. -/
def readWord (index : Nat) (n : Int) : Except DatabaseFault UInt32 :=
  if Text.IntegerRange.unsigned32.contains n then .ok (UInt32.ofNat n.toNat)
  else .error (.outOfRange index n)

/-- A number of 32 bits is read back from its stored form. -/
theorem readWord_toNat (index : Nat) (w : UInt32) : readWord index w.toNat = .ok w := by
  have hw := w.toNat_lt
  have hrange : Text.IntegerRange.unsigned32.contains w.toNat = true := by
    refine Text.IntegerRange.contains_iff.2 ⟨?_, ?_⟩
    · show (0 : Int) ≤ w.toNat
      omega
    · show (w.toNat : Int) ≤ 0xFFFFFFFF
      omega
  rw [readWord, if_pos hrange]
  simp

namespace ResourceRecord

/-- An enabled, authoritative record without priority and ordering key. -/
def plain (domainId : Int) (qname qtype content : String) (ttl : UInt32) : ResourceRecord :=
  ⟨domainId, qname, qtype, content, ttl, 0, false, true, none⟩

/-- Whether the record stands for an empty non-terminal. -/
def isEmptyNonTerminal (r : ResourceRecord) : Bool := r.qtype.isEmpty

/-- Reads a row with the columns of record queries, which have no ordering key. -/
def ofRow (row : RecordRow) : Except DatabaseFault ResourceRecord := do
  let ttl ← readWord 1 (row.ttl.getD 0)
  match row.domainId with
  | none => .error (.nullColumn 4 "domain_id")
  | some domainId =>
    .ok {
      domainId := domainId
      qname := row.name.getD ""
      qtype := row.type.getD ""
      content := row.content.getD ""
      ttl := ttl
      priority := row.prio.getD 0
      disabled := isTrue row.disabled
      auth := isTrue (row.auth.or (some 1))
      ordername := none }

/-- Reads a row with the columns of zone listings. -/
def ofListingRow (row : RecordRow) : Except DatabaseFault ResourceRecord :=
  (ofRow row).map fun r => { r with ordername := row.ordername }

/-- The order of records: by the first of their fields in which they differ. -/
def order (a b : ResourceRecord) : Ordering :=
  (compare a.domainId b.domainId).then <|
  (compare a.qname b.qname).then <|
  (compare a.qtype b.qtype).then <|
  (compare a.content b.content).then <|
  (compare a.ttl b.ttl).then <|
  (compare a.priority b.priority).then <|
  (compare a.disabled b.disabled).then <|
  (compare a.auth b.auth).then <|
  orderOptional a.ordername b.ordername

/-- The records in increasing order. -/
def sort (records : List ResourceRecord) : List ResourceRecord :=
  records.mergeSort fun a b => (order a b).isLE

/-- Whether two records have the same name and type. -/
def sameSet (a b : ResourceRecord) : Bool := a.qname == b.qname && a.qtype == b.qtype

/-- The records with every run of neighbours of the same name and type in increasing order. -/
def sortSets (records : List ResourceRecord) : List ResourceRecord :=
  (records.splitBy sameSet).flatMap sort

end ResourceRecord

end ZoneStore
