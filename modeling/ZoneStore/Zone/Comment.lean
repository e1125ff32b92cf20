import ZoneStore.Table.Query

/-!
# Comments on record sets
-/

set_option autoImplicit false

namespace ZoneStore

/-- A comment on the records of a name and type. -/
structure Comment where
  /-- The id of the zone. -/
  domainId : Int
  /-- The owner name. -/
  qname : String
  /-- The record type. -/
  qtype : String
  /-- The time of the last change. -/
  modifiedAt : Int
  /-- The author. -/
  account : String
  /-- The text. -/
  content : String
deriving DecidableEq, Repr

namespace Comment

/-- Reads a row; an absent author is the empty text. -/
def ofRow (row : CommentRow) : Comment :=
  ⟨row.domainId, row.name, row.type, row.modifiedAt, row.account.getD "", row.comment⟩

/-- The order of the comments of a zone: by name, type, time, author and text. -/
def order (a b : Comment) : Ordering :=
  (compare a.qname b.qname).then <|
  (compare a.qtype b.qtype).then <|
  (compare a.modifiedAt b.modifiedAt).then <|
  (compare a.account b.account).then <|
  compare a.content b.content

/-- The comments in increasing order. -/
def sort (comments : List Comment) : List Comment :=
  comments.mergeSort fun a b => (order a b).isLE

end Comment

end ZoneStore
