import ZoneStore.Proofs.Backend.Operations

/-!
# The mutations that operations issue

The records, the names of empty non-terminals and the comments that an operation gives are its
arguments; its mutations add these and nothing else to records and comments. `Operation.Issues`
lists what the mutations of an operation can be, and `Operation.issues_mutations` is the one place
that goes through the operations for it. What is never stored by any operation, or by any operation
of some kind, follows from it by cases.
-/

set_option autoImplicit false

namespace ZoneStore

open Backend

/-! ## What operations give -/

namespace Operation

/-- The records that the operation gives. -/
def recordsGiven : {α : Type} → Operation α → List ResourceRecord
  | _, feedRecord _ record _ => [record]
  | _, replaceRecordSet _ _ _ _ records => records
  | _, _ => []

/-- The zones and names of the empty non-terminals that the operation gives. -/
def namesGiven : {α : Type} → Operation α → List (Int × String)
  | _, feedEmptyNonTerminals _ zone names => names.keys.map (zone, ·)
  | _, feedHashedEmptyNonTerminals _ zone _ names _ => names.keys.map (zone, ·)
  | _, updateEmptyNonTerminals _ zone insert _ _ => insert.keys.map (zone, ·)
  | _, _ => []

/-- The comments that the operation gives. -/
def commentsGiven : {α : Type} → Operation α → List Comment
  | _, feedComment _ comment => [comment]
  | _, replaceComments _ _ _ _ comments => comments
  | _, _ => []

/-- Whether the operation needs the signing mode: it feeds hashed empty non-terminals, orders
records, replaces metadata, or deals with signing keys. -/
def needsDnssec : {α : Type} → Operation α → Bool
  | _, feedHashedEmptyNonTerminals _ _ _ _ _ | _, orderRecords _ _ _ _ _ _
  | _, setDomainMetadata _ _ _ | _, addDomainKey _ _ | _, domainKeys _ | _, removeDomainKey _ _
  | _, setDomainKeyActive _ _ _ | _, setDomainKeyPublished _ _ _ => true
  | _, _ => false

/-- Whether the operation creates a domain, adds a key, or notes something of a domain. -/
def marks : {α : Type} → Operation α → Bool
  | _, setNotified _ _ | _, setFresh _ _ | _, createDomain _ _ _ _ | _, createSlaveDomain _ _
  | _, addDomainKey _ _ => true
  | _, _ => false

end Operation

namespace Mutation

/-- The mutation orders records for signing, or adds a metadata value or a key. -/
def signs : Mutation → Bool
  | order _ _ _ _ _ | addMetadata _ _ _ | addKey _ _ _ _ _ => true
  | _ => false

/-- Whether the mutation adds a domain or a key, or notes something of a domain. -/
def marks : Mutation → Bool
  | insertDomain _ _ _ _ | setNotifiedSerial _ _ | setLastCheck _ _ | addKey _ _ _ _ _ => true
  | _ => false

end Mutation

/-! ## What operations issue -/

/-- What a mutation of an operation can be, with the signing mode on or off. -/
inductive Operation.Issues {α : Type} (op : Operation α) (dnssec : Bool) : Mutation → Prop where
  /-- It removes rows. -/
  | removal {m : Mutation} (h : m.removes = true) : Issues op dnssec m
  /-- It adds a record that the operation gives. -/
  | record {r : ResourceRecord} (hr : r ∈ op.recordsGiven) (ordername : String) :
      Issues op dnssec (r.insertion dnssec ordername)
  /-- It adds an empty non-terminal that the operation gives. It has an ordering key only if the
  operation needs the signing mode. -/
  | emptyNonTerminal {zone : Int} {name : String} (hname : (zone, name) ∈ op.namesGiven)
      (key : Option String) (auth : Option Int) (hkey : key = none ∨ op.needsDnssec = true) :
      Issues op dnssec (.insertEmptyNonTerminal (some zone) (some name) key auth)
  /-- It orders records. -/
  | order (zone : Option Int) (name : Option String) (type : Scope String) (change : KeyChange)
      (auth : Option Int) (h : op.needsDnssec = true) :
      Issues op dnssec (.order zone name type change auth)
  /-- It adds a comment that the operation gives. -/
  | comment {c : Comment} (hc : c ∈ op.commentsGiven) : Issues op dnssec c.insertion
  /-- It adds a metadata value of some kind. -/
  | metadata (name : Option String) (kind : String) (value : Option String)
      (h : op.needsDnssec = true) : Issues op dnssec (.addMetadata name (some kind) value)
  /-- It administrates something else: domains, autoprimaries or keys. -/
  | administration {m : Mutation} (hadmin : m.IsAdministrative)
      (hmetadata : m.target ≠ .domainmetadata)
      (hsigns : m.signs = true → op.needsDnssec = true)
      (hmarks : m.marks = op.marks) : Issues op dnssec m

namespace Operation

/-- Every mutation of an operation is one that it can issue. -/
theorem issues_mutations {α : Type} (op : Operation α) (b : Backend) :
    ∀ m ∈ (op.deed b).mutations, op.Issues b.dnssec m := by
  cases op with
  | startTransaction => exact fun m hm => .removal (removes_of_mem_openingLog hm)
  | deleteDomain => exact fun m hm => .removal (removes_of_mem_removal hm)
  | feedRecord id record ordername =>
    exact List.forall_mem_singleton.2 (.record (List.mem_singleton_self record) ordername)
  | replaceRecordSet =>
    exact Update.forall_mem_recordSet (.removal rfl) (.removal rfl) fun r hr => .record hr ""
  | feedEmptyNonTerminals =>
    exact Update.forall_mem_emptyNonTerminals fun name hname auth =>
      .emptyNonTerminal (List.mem_map_of_mem hname) none auth (Or.inl rfl)
  | feedHashedEmptyNonTerminals =>
    exact Update.forall_mem_hashedEmptyNonTerminals fun name hname key auth =>
      .emptyNonTerminal (List.mem_map_of_mem hname) key auth (Or.inr rfl)
  | updateEmptyNonTerminals =>
    exact Update.forall_mem_exchangeEmptyNonTerminals (.removal rfl) (fun _ => .removal rfl)
      fun name hname => .emptyNonTerminal (List.mem_map_of_mem hname) none _ (Or.inl rfl)
  | orderRecords => exact List.forall_mem_singleton.2 (.order _ _ _ _ _ rfl)
  | feedComment id comment =>
    exact List.forall_mem_singleton.2 (.comment (List.mem_singleton_self comment))
  | replaceComments =>
    exact Update.forall_mem_comments (.removal rfl) fun c hc => .comment hc
  | setDomainMetadata name kind values =>
    intro m hm
    rcases List.mem_cons.1 hm with rfl | hm
    · exact .removal rfl
    · obtain ⟨value, -, rfl⟩ := List.mem_map.1 hm
      exact .metadata _ kind _ rfl
  | removeAutoprimary | deleteTsigKey | removeDomainKey =>
    exact List.forall_mem_singleton.2 (.removal rfl)
  | setNotified | setFresh | createDomain | createSlaveDomain | setMasters | setKind | setAccount
  | addAutoprimary | setTsigKey =>
    exact List.forall_mem_singleton.2 (.administration ⟨nofun, nofun, nofun⟩ nofun nofun rfl)
  | addDomainKey | setDomainKeyActive | setDomainKeyPublished =>
    exact List.forall_mem_singleton.2
      (.administration ⟨nofun, nofun, nofun⟩ nofun (fun _ => rfl) rfl)
  | _ => exact fun m hm => absurd hm List.not_mem_nil

end Operation

end ZoneStore
