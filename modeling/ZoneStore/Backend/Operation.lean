import ZoneStore.Dnssec.Metadata
import ZoneStore.Dnssec.SigningKey
import ZoneStore.Domain.Autoprimary
import ZoneStore.Domain.TsigKey
import ZoneStore.Zone.OrderingChain

/-!
# Operations and runs

Every operation of a backend as a value (`Operation`), and every way to run a single statement of
the catalog (`StatementOperation`), each indexed by the type of its result. A run is a list of
steps of both kinds; `Backend.after` gives the backend that it leads to. The transactions of
different numbers and names may interleave in a run in any way.
-/

set_option autoImplicit false

namespace ZoneStore

/-- The operations of a backend. -/
inductive Operation : Type → Type 1 where
  /-- The enabled records of a name and type. -/
  | lookup (qtype qname : String) (zone : Option Int) : Operation (List ResourceRecord)
  /-- The records of a zone. -/
  | list (name : String) (zone : Option Int) (includeDisabled : Bool) :
      Operation (List ResourceRecord)
  /-- The enabled records of a zone at or below a name. -/
  | listSubzone (name : String) (zone : Int) : Operation (List ResourceRecord)
  /-- The records that match a pattern. -/
  | searchRecords (pattern : String) (limit : UInt32) : Operation (List ResourceRecord)
  /-- The comments of a zone. -/
  | listComments (zone : Int) : Operation (List Comment)
  /-- The comments that match a pattern. -/
  | searchComments (pattern : String) (limit : UInt32) : Operation (List Comment)
  /-- The least ordering key. -/
  | orderFirst (zone : Int) : Operation (Option OrderEntry)
  /-- The greatest ordering key. -/
  | orderLast (zone : Int) : Operation (Option OrderEntry)
  /-- The greatest ordering key up to a given one. -/
  | orderBefore (zone : Int) (key : String) : Operation (Option OrderEntry)
  /-- The least ordering key beyond a given one. -/
  | orderAfter (zone : Int) (key : String) : Operation (Option OrderEntry)
  /-- Starts a transaction. -/
  | startTransaction (id zone : Int) : Operation Unit
  /-- Starts a transaction for several contenders. -/
  | contend (id : Int) (contenders : Nat) : Operation (List (Except Fault Unit))
  /-- Commits a transaction. -/
  | commitTransaction (id : Int) : Operation Unit
  /-- Aborts a transaction. -/
  | abortTransaction (id : Int) : Operation Unit
  /-- Adds a record. -/
  | feedRecord (id : Int) (record : ResourceRecord) (ordername : String) : Operation Unit
  /-- Replaces the records of a name and type. -/
  | replaceRecordSet (id zone : Int) (qname qtype : String) (records : List ResourceRecord) :
      Operation Unit
  /-- Adds empty non-terminals. -/
  | feedEmptyNonTerminals (id zone : Int) (names : TextMap Bool) : Operation Unit
  /-- Adds empty non-terminals of a hashed zone. -/
  | feedHashedEmptyNonTerminals (id zone : Int) (zoneName : String) (names : TextMap Bool)
      (narrow : Bool) : Operation Unit
  /-- Removes and adds empty non-terminals. -/
  | updateEmptyNonTerminals (id zone : Int) (insert erase : TextMap Unit) (removeAll : Bool) :
      Operation Unit
  /-- Sets ordering key and authority of a name. -/
  | orderRecords (id zone : Int) (qname : String) (qtype ordername : Option String) (auth : Bool) :
      Operation Unit
  /-- Adds a comment. -/
  | feedComment (id : Int) (comment : Comment) : Operation Unit
  /-- Replaces the comments of a name and type. -/
  | replaceComments (id zone : Int) (qname qtype : String) (comments : List Comment) :
      Operation Unit
  /-- The id of a domain. -/
  | domainId? (name : String) : Operation (Option Int)
  /-- The description of a domain. -/
  | domainInfo? (name : String) : Operation (Option DomainInfo)
  /-- The descriptions of the domains. -/
  | allDomains (includeDisabled : Bool) : Operation (List DomainInfo)
  /-- The masters whose serial was not notified. -/
  | updatedMasters : Operation (List DomainInfo)
  /-- Notes a notified serial. -/
  | setNotified (domain serial : Int) : Operation Unit
  /-- Notes a check at the given time. -/
  | setFresh (domain now : Int) : Operation Unit
  /-- Creates a domain. -/
  | createDomain (name : String) (kind : DomainKind) (masters : List String) (account : String) :
      Operation Unit
  /-- Creates a slave. -/
  | createSlaveDomain (ip name : String) : Operation Unit
  /-- Deletes a domain. -/
  | deleteDomain (name : String) : Operation Unit
  /-- Sets the masters of a domain. -/
  | setMasters (name : String) (masters : List String) : Operation Unit
  /-- Sets the kind of a domain. -/
  | setKind (name : String) (kind : DomainKind) : Operation Unit
  /-- Sets the account of a domain. -/
  | setAccount (name account : String) : Operation Unit
  /-- The autoprimary that may provision a domain. -/
  | authorize (ip domain : String) (nameservers : List ResourceRecord) :
      Operation (Option (String × String))
  /-- Adds an autoprimary. -/
  | addAutoprimary (primary : Autoprimary) : Operation Unit
  /-- Removes an autoprimary. -/
  | removeAutoprimary (ip nameserver : String) : Operation Unit
  /-- The autoprimaries. -/
  | listAutoprimaries : Operation (List Autoprimary)
  /-- The addresses of a nameserver. -/
  | autoprimaryAddresses (nameserver account : String) : Operation (List String)
  /-- The TSIG key of a name. -/
  | tsigKey? (name : String) : Operation (Option TsigKey)
  /-- Stores a TSIG key. -/
  | setTsigKey (key : TsigKey) : Operation Unit
  /-- Deletes the TSIG keys of a name. -/
  | deleteTsigKey (name : String) : Operation Unit
  /-- The TSIG keys. -/
  | tsigKeys : Operation (List TsigKey)
  /-- Adds a signing key. -/
  | addDomainKey (name : String) (key : SigningKey) : Operation Int
  /-- The signing keys of a domain. -/
  | domainKeys (name : String) : Operation (List SigningKey)
  /-- Deletes a signing key. -/
  | removeDomainKey (name : String) (key : Int) : Operation Unit
  /-- Marks a signing key as active or inactive. -/
  | setDomainKeyActive (name : String) (key : Int) (active : Bool) : Operation Unit
  /-- Marks a signing key as published or not. -/
  | setDomainKeyPublished (name : String) (key : Int) (published : Bool) : Operation Unit
  /-- The metadata of a domain. -/
  | allDomainMetadata (name : String) : Operation (TextMap (List String))
  /-- The metadata of one kind of a domain. -/
  | domainMetadata (name kind : String) : Operation (List String)
  /-- Replaces the metadata of one kind of a domain. -/
  | setDomainMetadata (name kind : String) (values : List String) : Operation Unit

/-- What an operation does. -/
def Operation.run : {α : Type} → Operation α → BackendM α
  | _, lookup qtype qname zone => Backend.lookup qtype qname zone
  | _, list name zone includeDisabled => Backend.list name zone includeDisabled
  | _, listSubzone name zone => Backend.listSubzone name zone
  | _, searchRecords pattern limit => Backend.searchRecords pattern limit
  | _, listComments zone => Backend.listComments zone
  | _, searchComments pattern limit => Backend.searchComments pattern limit
  | _, orderFirst zone => Backend.orderFirst zone
  | _, orderLast zone => Backend.orderLast zone
  | _, orderBefore zone key => Backend.orderBefore zone key
  | _, orderAfter zone key => Backend.orderAfter zone key
  | _, startTransaction id zone => Backend.startTransaction id zone
  | _, contend id contenders => Backend.contend id contenders
  | _, commitTransaction id => Backend.commitTransaction id
  | _, abortTransaction id => Backend.abortTransaction id
  | _, feedRecord id record ordername => Backend.feedRecord id record ordername
  | _, replaceRecordSet id zone qname qtype records =>
    Backend.replaceRecordSet id zone qname qtype records
  | _, feedEmptyNonTerminals id zone names => Backend.feedEmptyNonTerminals id zone names
  | _, feedHashedEmptyNonTerminals id zone zoneName names narrow =>
    Backend.feedHashedEmptyNonTerminals id zone zoneName names narrow
  | _, updateEmptyNonTerminals id zone insert erase removeAll =>
    Backend.updateEmptyNonTerminals id zone insert erase removeAll
  | _, orderRecords id zone qname qtype ordername auth =>
    Backend.orderRecords id zone qname qtype ordername auth
  | _, feedComment id comment => Backend.feedComment id comment
  | _, replaceComments id zone qname qtype comments =>
    Backend.replaceComments id zone qname qtype comments
  | _, domainId? name => Backend.domainId? name
  | _, domainInfo? name => Backend.domainInfo? name
  | _, allDomains includeDisabled => Backend.allDomains includeDisabled
  | _, updatedMasters => Backend.updatedMasters
  | _, setNotified domain serial => Backend.setNotified domain serial
  | _, setFresh domain now => Backend.setFresh domain now
  | _, createDomain name kind masters account => Backend.createDomain name kind masters account
  | _, createSlaveDomain ip name => Backend.createSlaveDomain ip name
  | _, deleteDomain name => Backend.deleteDomain name
  | _, setMasters name masters => Backend.setMasters name masters
  | _, setKind name kind => Backend.setKind name kind
  | _, setAccount name account => Backend.setAccount name account
  | _, authorize ip domain nameservers => Backend.authorize ip domain nameservers
  | _, addAutoprimary primary => Backend.addAutoprimary primary
  | _, removeAutoprimary ip nameserver => Backend.removeAutoprimary ip nameserver
  | _, listAutoprimaries => Backend.listAutoprimaries
  | _, autoprimaryAddresses nameserver account => Backend.autoprimaryAddresses nameserver account
  | _, tsigKey? name => Backend.tsigKey? name
  | _, setTsigKey key => Backend.setTsigKey key
  | _, deleteTsigKey name => Backend.deleteTsigKey name
  | _, tsigKeys => Backend.tsigKeys
  | _, addDomainKey name key => Backend.addDomainKey name key
  | _, domainKeys name => Backend.domainKeys name
  | _, removeDomainKey name key => Backend.removeDomainKey name key
  | _, setDomainKeyActive name key active => Backend.setDomainKeyActive name key active
  | _, setDomainKeyPublished name key published =>
    Backend.setDomainKeyPublished name key published
  | _, allDomainMetadata name => Backend.allDomainMetadata name
  | _, domainMetadata name kind => Backend.domainMetadata name kind
  | _, setDomainMetadata name kind values => Backend.setDomainMetadata name kind values

/-- The ways to run single statements of the catalog, directly or in a transaction held by name. A
result is missing where no transaction is held under the name. -/
inductive StatementOperation : Type → Type 1 where
  /-- Runs a statement for its effect. -/
  | perform (statement : String) (args : Arguments) : StatementOperation Nat
  /-- Runs a statement for its rows. -/
  | fetch (statement : String) (args : Arguments) : StatementOperation (List (List Value))
  /-- Begins a transaction and holds it under a name. -/
  | hold (name : String) : StatementOperation Unit
  /-- Runs a statement for its effect in a held transaction. -/
  | performHeld (name statement : String) (args : Arguments) : StatementOperation (Option Nat)
  /-- Runs a statement for its rows in a held transaction. -/
  | fetchHeld (name statement : String) (args : Arguments) :
      StatementOperation (Option (List (List Value)))
  /-- Ends a held transaction. -/
  | endHeld (name : String) (ending : Ending) : StatementOperation (Option Unit)
  /-- Lets go of a held transaction. -/
  | dropHeld (name : String) : StatementOperation (Option Unit)

/-- What a statement operation does. -/
def StatementOperation.run : {α : Type} → StatementOperation α → BackendM α
  | _, perform statement args => Backend.performNamed statement args
  | _, fetch statement args => Backend.fetchNamed statement args
  | _, hold name => Backend.holdTransaction name
  | _, performHeld name statement args => Backend.performHeld name statement args
  | _, fetchHeld name statement args => Backend.fetchHeld name statement args
  | _, endHeld name ending => Backend.endHeld name ending
  | _, dropHeld name => Backend.dropHeld name

/-- One step of a run. -/
inductive Step : Type 1 where
  /-- An operation of the backend. -/
  | operation {α : Type} (op : Operation α)
  /-- A single statement of the catalog. -/
  | statement {α : Type} (op : StatementOperation α)

namespace Backend

/-- The backend after one step, whether the step succeeds or fails. -/
def next (b : Backend) : Step → Backend
  | .operation op => (op.run.run b).2
  | .statement op => (op.run.run b).2

/-- The backend after a run. -/
def after (b : Backend) (steps : List Step) : Backend := steps.foldl next b

@[simp] theorem after_nil (b : Backend) : b.after [] = b := rfl

@[simp] theorem after_cons (b : Backend) (step : Step) (steps : List Step) :
    b.after (step :: steps) = (b.next step).after steps := rfl

theorem after_append (b : Backend) (steps more : List Step) :
    b.after (steps ++ more) = (b.after steps).after more := by
  simp [after]

end Backend

end ZoneStore
