import ZoneStore.Backend.Transactions
import ZoneStore.Text.Lowercase
import ZoneStore.Text.TextMap
import ZoneStore.Zone.Comment
import ZoneStore.Zone.Record

/-!
# Zone updates

The operations that change records and comments. Each of them is a list of mutations, which runs in
a numbered transaction.
Without the signing mode every record is authoritative, and no ordering key is set or hashed
except by feeding one.
-/

set_option autoImplicit false

namespace ZoneStore

/-- The record type that stands for every type, in any ASCII case. -/
def anyType : String := "ANY"

/-- The types that a type asked for stands for. -/
def typeScope (qtype : String) : Scope String :=
  if Text.agree qtype anyType then .any else .only (some qtype)

/-- The ordering key under which a record is stored: the given text in small letters, or none for
the empty text. -/
def orderingKey (ordername : String) : Option String :=
  if ordername.isEmpty then none else some (Text.lowercase ordername)

/-- The row of a record, before it has an id. Without the signing mode it is authoritative. -/
def ResourceRecord.toRow (dnssec : Bool) (ordername : String) (r : ResourceRecord) : RecordRow where
  id := 0
  domainId := some r.domainId
  name := some r.qname
  type := some r.qtype
  content := some r.content
  ttl := some r.ttl.toNat
  prio := some r.priority
  disabled := some (storedBool r.disabled)
  ordername := orderingKey ordername
  auth := some (storedBool (!dnssec || r.auth))

/-- Adds a record with the given ordering key. -/
def ResourceRecord.insertion (dnssec : Bool) (ordername : String) (r : ResourceRecord) : Mutation :=
  .insertRecord (r.toRow dnssec ordername)

/-- Adds a comment. -/
def Comment.insertion (c : Comment) : Mutation :=
  .insertComment (some c.domainId) (some c.qname) (some c.qtype) (some c.modifiedAt)
    (some c.account) (some c.content)

/-- Whether an empty non-terminal of a hashed zone gets an ordering key. -/
def needsHash (narrow auth : Bool) : Bool := narrow || !auth

namespace Update

/-! ## The statements of each update -/

/-- Puts the given records in place of those of a name and type in a zone. Without a record to put
there, the comments of the name and type go too. -/
def recordSet (dnssec : Bool) (zone : Int) (qname qtype : String)
    (records : List ResourceRecord) : List Mutation :=
  .deleteRecords (some zone) (some qname) (typeScope qtype) ::
    ((if records.isEmpty then
        [.deleteRecordSetComments (some zone) (some qname) (some qtype)]
      else []) ++
    records.map fun r => r.insertion dnssec "")

/-- Adds empty non-terminals, each name with its authority; in the signing mode all of them are
authoritative. -/
def emptyNonTerminals (dnssec : Bool) (zone : Int) (names : TextMap Bool) : List Mutation :=
  names.entries.map fun n =>
    .insertEmptyNonTerminal (some zone) (some n.1) none (some (storedBool (n.2 || dnssec)))

/-- Adds empty non-terminals of a hashed zone. Those of a narrow zone and those without authority
get the hash of their name as ordering key, the others none. -/
def hashedEmptyNonTerminals (hasher : Option Hasher) (zone : Int) (zoneName : String)
    (names : TextMap Bool) (narrow : Bool) : List Mutation :=
  names.entries.map fun n =>
    let key := if needsHash narrow n.2 then hasher.map fun hash => hash zoneName n.1 else none
    .insertEmptyNonTerminal (some zone) (some n.1) key (some (storedBool n.2))

/-- Removes all empty non-terminals of a zone, or those of the names to erase, and then adds those
of the names to insert as authoritative. -/
def exchangeEmptyNonTerminals (zone : Int) (insert erase : TextMap Unit) (removeAll : Bool) :
    List Mutation :=
  (if removeAll then [.removeEmptyNonTerminals (some zone)]
    else erase.keys.map fun qname => .removeEmptyNonTerminal (some zone) (some qname)) ++
  insert.keys.map fun qname => .insertEmptyNonTerminal (some zone) (some qname) none (some 1)

/-- Sets the authority of the enabled records of a name, and their ordering key to the given one
or to none. -/
def order (zone : Int) (qname : String) (qtype ordername : Option String) (auth : Bool) :
    Mutation :=
  let type : Scope String := match qtype with
    | none => .any
    | some t => .only (some t)
  let change : KeyChange := match ordername with
    | none => .clear
    | some key => .set (some (Text.lowercase key))
  .order (some zone) (some qname) type change (some (storedBool auth))

/-- Puts the given comments in place of those of a name and type in a zone. -/
def comments (zone : Int) (qname qtype : String) (given : List Comment) : List Mutation :=
  .deleteRecordSetComments (some zone) (some qname) (some qtype) :: given.map Comment.insertion

end Update

namespace Backend

/-! ## The updates -/

/-- Runs mutations one after another in a numbered transaction. -/
def update (id : Int) (mutations : List Mutation) : BackendM Unit :=
  inTransaction id (Work.performAll mutations)

/-- Adds a record with the given ordering key. -/
def feedRecord (id : Int) (r : ResourceRecord) (ordername : String) : BackendM Unit := do
  let dnssec := (← get).dnssec
  update id [r.insertion dnssec ordername]

/-- Puts the given records in place of those of a name and type in a zone. -/
def replaceRecordSet (id zone : Int) (qname qtype : String) (records : List ResourceRecord) :
    BackendM Unit := do
  let dnssec := (← get).dnssec
  update id (Update.recordSet dnssec zone qname qtype records)

/-- Adds empty non-terminals. -/
def feedEmptyNonTerminals (id zone : Int) (names : TextMap Bool) : BackendM Unit := do
  let dnssec := (← get).dnssec
  update id (Update.emptyNonTerminals dnssec zone names)

/-- Adds empty non-terminals of a hashed zone. -/
def feedHashedEmptyNonTerminals (id zone : Int) (zoneName : String) (names : TextMap Bool)
    (narrow : Bool) : BackendM Unit := do
  requireDnssec
  let hasher := (← get).hasher
  inTransaction id do
    -- The hasher is asked for before the first name is added, so a failure adds none.
    if hasher.isNone && names.entries.any (fun n => needsHash narrow n.2) then throw .hasherMissing
    Work.performAll (Update.hashedEmptyNonTerminals hasher zone zoneName names narrow)

/-- Removes and adds empty non-terminals of a zone. -/
def updateEmptyNonTerminals (id zone : Int) (insert erase : TextMap Unit) (removeAll : Bool) :
    BackendM Unit :=
  update id (Update.exchangeEmptyNonTerminals zone insert erase removeAll)

/-- Sets the authority and the ordering key of the enabled records of a name. -/
def orderRecords (id zone : Int) (qname : String) (qtype ordername : Option String) (auth : Bool) :
    BackendM Unit := do
  requireDnssec
  update id [Update.order zone qname qtype ordername auth]

/-- Adds a comment. -/
def feedComment (id : Int) (c : Comment) : BackendM Unit := update id [c.insertion]

/-- Puts the given comments in place of those of a name and type in a zone. -/
def replaceComments (id zone : Int) (qname qtype : String) (comments : List Comment) :
    BackendM Unit :=
  update id (Update.comments zone qname qtype comments)

end Backend

end ZoneStore
