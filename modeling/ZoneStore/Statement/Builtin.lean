import ZoneStore.Statement.Catalog

/-!
# The statements of the backend

Every statement that the backend issues, by name and template. `Catalog.builtin` is the catalog of
all of them. What the statements mean on the tables is defined in `Table.Mutation` and
`Table.Query`.
-/

set_option autoImplicit false

namespace ZoneStore

/-- The statements of the backend. -/
inductive Statement where
  /-- Enabled records of a name and type, in every zone. -/
  | recordsOfType
  /-- Enabled records of a name and type in one zone. -/
  | recordsOfTypeInZone
  /-- Enabled records of a name, whatever their type, in every zone. -/
  | recordsOfAnyType
  /-- Enabled records of a name, whatever their type, in one zone. -/
  | recordsOfAnyTypeInZone
  /-- The records of a zone by name and type. -/
  | zoneListing
  /-- The enabled records of a zone at or below a name. -/
  | subzoneListing
  /-- Deletes the empty non-terminals of a zone. -/
  | removeEmptyNonTerminals
  /-- Deletes the empty non-terminals of a zone at one name. -/
  | removeEmptyNonTerminal
  /-- The row of a domain. -/
  | domainInfo
  /-- The id of a domain. -/
  | domainId
  /-- The account of an autoprimary. -/
  | autoprimaryAccount
  /-- The addresses of a nameserver under an account. -/
  | autoprimaryAddresses
  /-- Adds an autoprimary. -/
  | addAutoprimary
  /-- Removes an autoprimary. -/
  | removeAutoprimary
  /-- Every autoprimary. -/
  | autoprimaries
  /-- Adds a domain. -/
  | insertDomain
  /-- Adds a record. -/
  | insertRecord
  /-- Adds an empty non-terminal. -/
  | insertEmptyNonTerminal
  /-- The least ordering key of a zone. -/
  | orderFirst
  /-- The greatest ordering key of a zone up to a given one. -/
  | orderBefore
  /-- The least ordering key of a zone beyond a given one. -/
  | orderAfter
  /-- The greatest non-empty ordering key of a zone. -/
  | orderLast
  /-- Sets ordering key and authority of the enabled records of a name. -/
  | setOrder
  /-- Sets ordering key and authority of the enabled records of a name and type. -/
  | setOrderOfType
  /-- Clears the ordering key and sets the authority of the enabled records of a name. -/
  | clearOrder
  /-- Clears the ordering key and sets the authority of the enabled records of a name and type. -/
  | clearOrderOfType
  /-- Sets the masters of a domain. -/
  | setMasters
  /-- Sets the kind of a domain. -/
  | setKind
  /-- Sets the account of a domain. -/
  | setAccount
  /-- Sets the notified serial of a domain. -/
  | setNotifiedSerial
  /-- Sets the time of the last check of a domain. -/
  | setLastCheck
  /-- The enabled SOA records of the domains that are masters. -/
  | masterSerials
  /-- Deletes the row of a domain. -/
  | deleteDomain
  /-- Deletes the records of a zone. -/
  | deleteZone
  /-- Deletes the records of a name and type in a zone. -/
  | deleteRecordSet
  /-- Deletes the records of a name in a zone. -/
  | deleteName
  /-- Adds a signing key to a domain. -/
  | addKey
  /-- The id of the row inserted last. -/
  | lastInsertedId
  /-- The signing keys of a domain. -/
  | domainKeys
  /-- The metadata of a domain. -/
  | allMetadata
  /-- The metadata of one kind of a domain. -/
  | metadataOfKind
  /-- Deletes the metadata of one kind of a domain. -/
  | clearMetadataOfKind
  /-- Deletes the metadata of a domain. -/
  | clearMetadata
  /-- Adds one metadata value to a domain. -/
  | addMetadata
  /-- Marks a signing key as active. -/
  | activateKey
  /-- Marks a signing key as inactive. -/
  | deactivateKey
  /-- Marks a signing key as published. -/
  | publishKey
  /-- Marks a signing key as not published. -/
  | unpublishKey
  /-- Deletes a signing key of a domain. -/
  | removeKey
  /-- Deletes the signing keys of a domain. -/
  | clearKeys
  /-- The TSIG keys of a name. -/
  | tsigKeysOfName
  /-- Stores a TSIG key in place of the one of that name and algorithm. -/
  | setTsigKey
  /-- Deletes the TSIG keys of a name. -/
  | deleteTsigKey
  /-- Every TSIG key. -/
  | tsigKeys
  /-- The domains with their SOA records. -/
  | allDomains
  /-- The comments of a zone. -/
  | zoneComments
  /-- Adds a comment. -/
  | insertComment
  /-- Deletes the comments of a name and type in a zone. -/
  | deleteRecordSetComments
  /-- Deletes the comments of a zone. -/
  | deleteComments
  /-- The records whose name or content matches a pattern. -/
  | searchRecords
  /-- The comments whose name or text matches a pattern. -/
  | searchComments
deriving DecidableEq, Repr

namespace Statement

/-- Every statement, in the order of the catalog. -/
def all : List Statement :=
  [.recordsOfType, .recordsOfTypeInZone, .recordsOfAnyType, .recordsOfAnyTypeInZone, .zoneListing,
   .subzoneListing, .removeEmptyNonTerminals, .removeEmptyNonTerminal, .domainInfo, .domainId,
   .autoprimaryAccount, .autoprimaryAddresses, .addAutoprimary, .removeAutoprimary,
   .autoprimaries, .insertDomain, .insertRecord, .insertEmptyNonTerminal, .orderFirst,
   .orderBefore, .orderAfter, .orderLast, .setOrder, .setOrderOfType, .clearOrder,
   .clearOrderOfType, .setMasters, .setKind, .setAccount, .setNotifiedSerial, .setLastCheck,
   .masterSerials, .deleteDomain, .deleteZone, .deleteRecordSet, .deleteName, .addKey,
   .lastInsertedId, .domainKeys, .allMetadata, .metadataOfKind, .clearMetadataOfKind,
   .clearMetadata, .addMetadata, .activateKey, .deactivateKey, .publishKey, .unpublishKey,
   .removeKey, .clearKeys, .tsigKeysOfName, .setTsigKey, .deleteTsigKey, .tsigKeys, .allDomains,
   .zoneComments, .insertComment, .deleteRecordSetComments, .deleteComments, .searchRecords,
   .searchComments]

/-- The name under which the catalog lists a statement. -/
def name : Statement → String
  | .recordsOfType => "basic-query"
  | .recordsOfTypeInZone => "id-query"
  | .recordsOfAnyType => "any-query"
  | .recordsOfAnyTypeInZone => "any-id-query"
  | .zoneListing => "list-query"
  | .subzoneListing => "list-subzone-query"
  | .removeEmptyNonTerminals => "remove-empty-non-terminals-from-zone-query"
  | .removeEmptyNonTerminal => "delete-empty-non-terminal-query"
  | .domainInfo => "info-zone-query"
  | .domainId => "get-domain-id"
  | .autoprimaryAccount => "supermaster-query"
  | .autoprimaryAddresses => "supermaster-name-to-ips"
  | .addAutoprimary => "supermaster-add"
  | .removeAutoprimary => "autoprimary-remove"
  | .autoprimaries => "list-autoprimaries"
  | .insertDomain => "insert-zone-query"
  | .insertRecord => "insert-record-query"
  | .insertEmptyNonTerminal => "insert-empty-non-terminal-order-query"
  | .orderFirst => "get-order-first-query"
  | .orderBefore => "get-order-before-query"
  | .orderAfter => "get-order-after-query"
  | .orderLast => "get-order-last-query"
  | .setOrder => "update-ordername-and-auth-query"
  | .setOrderOfType => "update-ordername-and-auth-type-query"
  | .clearOrder => "nullify-ordername-and-update-auth-query"
  | .clearOrderOfType => "nullify-ordername-and-update-auth-type-query"
  | .setMasters => "update-master-query"
  | .setKind => "update-kind-query"
  | .setAccount => "update-account-query"
  | .setNotifiedSerial => "update-serial-query"
  | .setLastCheck => "update-lastcheck-query"
  | .masterSerials => "info-all-master-query"
  | .deleteDomain => "delete-domain-query"
  | .deleteZone => "delete-zone-query"
  | .deleteRecordSet => "delete-rrset-query"
  | .deleteName => "delete-names-query"
  | .addKey => "add-domain-key-query"
  | .lastInsertedId => "get-last-inserted-key-id-query"
  | .domainKeys => "list-domain-keys-query"
  | .allMetadata => "get-all-domain-metadata-query"
  | .metadataOfKind => "get-domain-metadata-query"
  | .clearMetadataOfKind => "clear-domain-metadata-query"
  | .clearMetadata => "clear-domain-all-metadata-query"
  | .addMetadata => "set-domain-metadata-query"
  | .activateKey => "activate-domain-key-query"
  | .deactivateKey => "deactivate-domain-key-query"
  | .publishKey => "publish-domain-key-query"
  | .unpublishKey => "unpublish-domain-key-query"
  | .removeKey => "remove-domain-key-query"
  | .clearKeys => "clear-domain-all-keys-query"
  | .tsigKeysOfName => "get-tsig-key-query"
  | .setTsigKey => "set-tsig-key-query"
  | .deleteTsigKey => "delete-tsig-key-query"
  | .tsigKeys => "get-tsig-keys-query"
  | .allDomains => "get-all-domains-query"
  | .zoneComments => "list-comments-query"
  | .insertComment => "insert-comment-query"
  | .deleteRecordSetComments => "delete-comment-rrset-query"
  | .deleteComments => "delete-comments-query"
  | .searchRecords => "search-records-query"
  | .searchComments => "search-comments-query"

/-- The columns that record queries select, up to the condition. -/
def recordColumns : String :=
  "SELECT content,ttl,prio,type,domain_id,disabled,name,auth FROM records WHERE"

/-- The template of a statement. -/
def template : Statement → String
  | .recordsOfType => recordColumns ++
      " disabled=0 and type=:qtype and name=:qname"
  | .recordsOfTypeInZone => recordColumns ++
      " disabled=0 and type=:qtype and name=:qname and domain_id=:domain_id"
  | .recordsOfAnyType => recordColumns ++
      " disabled=0 and name=:qname"
  | .recordsOfAnyTypeInZone => recordColumns ++
      " disabled=0 and name=:qname and domain_id=:domain_id"
  | .zoneListing =>
      "SELECT content,ttl,prio,type,domain_id,disabled,name,auth,ordername FROM records " ++
      "WHERE (disabled=0 OR :include_disabled) and domain_id=:domain_id order by name, type"
  | .subzoneListing => recordColumns ++
      " disabled=0 and (name=:zone OR name like :wildzone) and domain_id=:domain_id"
  | .removeEmptyNonTerminals =>
      "delete from records where domain_id=:domain_id and type is null"
  | .removeEmptyNonTerminal =>
      "delete from records where domain_id=:domain_id and name=:qname and type is null"
  | .domainInfo =>
      "select id,name,master,last_check,notified_serial,type,account from domains where " ++
      "name=:domain"
  | .domainId =>
      "select id from domains where name=:domain"
  | .autoprimaryAccount =>
      "select account from supermasters where ip=:ip and nameserver=:nameserver"
  | .autoprimaryAddresses =>
      "select ip,account from supermasters where nameserver=:nameserver and " ++
      "account=:account"
  | .addAutoprimary =>
      "insert into supermasters (ip, nameserver, account) values (:ip,:nameserver,:account)"
  | .removeAutoprimary =>
      "delete from supermasters where ip = :ip and nameserver = :nameserver"
  | .autoprimaries =>
      "select ip,nameserver,account from supermasters"
  | .insertDomain =>
      "insert into domains (type,name,master,account,last_check,notified_serial) " ++
      "values(:type, :domain, :masters, :account, null, null)"
  | .insertRecord =>
      "insert into records (content,ttl,prio,type,domain_id,disabled,name,ordername,auth) " ++
      "values (:content,:ttl,:priority,:qtype,:domain_id,:disabled,:qname,:ordername,:auth)"
  | .insertEmptyNonTerminal =>
      "insert into records (type,domain_id,disabled,name,ordername,auth,ttl,prio,content) " ++
      "values (null,:domain_id,0,:qname,:ordername,:auth,null,null,null)"
  | .orderFirst =>
      "select ordername, name from records where disabled=0 and domain_id=:domain_id and " ++
      "ordername is not null order by 1 asc limit 1"
  | .orderBefore =>
      "select ordername, name from records where disabled=0 and ordername <= :ordername " ++
      "and domain_id=:domain_id and ordername is not null order by 1 desc limit 1"
  | .orderAfter =>
      "select ordername, name from records where disabled=0 and ordername > :ordername and " ++
      "domain_id=:domain_id and ordername is not null order by 1 asc limit 1"
  | .orderLast =>
      "select ordername, name from records where disabled=0 and ordername != '' and " ++
      "domain_id=:domain_id and ordername is not null order by 1 desc limit 1"
  | .setOrder =>
      "update records set ordername=:ordername,auth=:auth where domain_id=:domain_id and " ++
      "name=:qname and disabled=0"
  | .setOrderOfType =>
      "update records set ordername=:ordername,auth=:auth where domain_id=:domain_id and " ++
      "name=:qname and type=:qtype and disabled=0"
  | .clearOrder =>
      "update records set ordername=NULL,auth=:auth where domain_id=:domain_id and " ++
      "name=:qname and disabled=0"
  | .clearOrderOfType =>
      "update records set ordername=NULL,auth=:auth where domain_id=:domain_id and " ++
      "name=:qname and type=:qtype and disabled=0"
  | .setMasters =>
      "update domains set master=:master where name=:domain"
  | .setKind =>
      "update domains set type=:kind where name=:domain"
  | .setAccount =>
      "update domains set account=:account where name=:domain"
  | .setNotifiedSerial =>
      "update domains set notified_serial=:serial where id=:domain_id"
  | .setLastCheck =>
      "update domains set last_check=:last_check where id=:domain_id"
  | .masterSerials =>
      "select domains.id, domains.name, domains.notified_serial, records.content from " ++
      "records join domains on records.domain_id=domains.id and records.name=domains.name " ++
      "where records.type='SOA' and records.disabled=0 and domains.type='MASTER'"
  | .deleteDomain =>
      "delete from domains where name=:domain"
  | .deleteZone =>
      "delete from records where domain_id=:domain_id"
  | .deleteRecordSet =>
      "delete from records where domain_id=:domain_id and name=:qname and type=:qtype"
  | .deleteName =>
      "delete from records where domain_id=:domain_id and name=:qname"
  | .addKey =>
      "insert into cryptokeys (domain_id, flags, active, published, content) select id, " ++
      ":flags, :active, :published, :content from domains where name=:domain"
  | .lastInsertedId =>
      "select last_insert_rowid()"
  | .domainKeys =>
      "select cryptokeys.id, flags, active, published, content from domains, cryptokeys " ++
      "where cryptokeys.domain_id=domains.id and name=:domain"
  | .allMetadata =>
      "select kind,content from domains, domainmetadata where " ++
      "domainmetadata.domain_id=domains.id and name=:domain"
  | .metadataOfKind =>
      "select content from domains, domainmetadata where " ++
      "domainmetadata.domain_id=domains.id and name=:domain and domainmetadata.kind=:kind"
  | .clearMetadataOfKind =>
      "delete from domainmetadata where domain_id=(select id from domains where " ++
      "name=:domain) and domainmetadata.kind=:kind"
  | .clearMetadata =>
      "delete from domainmetadata where domain_id=(select id from domains where " ++
      "name=:domain)"
  | .addMetadata =>
      "insert into domainmetadata (domain_id, kind, content) select id, :kind, :content " ++
      "from domains where name=:domain"
  | .activateKey =>
      "update cryptokeys set active=1 where domain_id=(select id from domains where " ++
      "name=:domain) and cryptokeys.id=:key_id"
  | .deactivateKey =>
      "update cryptokeys set active=0 where domain_id=(select id from domains where " ++
      "name=:domain) and cryptokeys.id=:key_id"
  | .publishKey =>
      "update cryptokeys set published=1 where domain_id=(select id from domains where " ++
      "name=:domain) and cryptokeys.id=:key_id"
  | .unpublishKey =>
      "update cryptokeys set published=0 where domain_id=(select id from domains where " ++
      "name=:domain) and cryptokeys.id=:key_id"
  | .removeKey =>
      "delete from cryptokeys where domain_id=(select id from domains where name=:domain) " ++
      "and cryptokeys.id=:key_id"
  | .clearKeys =>
      "delete from cryptokeys where domain_id=(select id from domains where name=:domain)"
  | .tsigKeysOfName =>
      "select algorithm, secret from tsigkeys where name=:key_name"
  | .setTsigKey =>
      "replace into tsigkeys (name,algorithm,secret) values(:key_name,:algorithm,:content)"
  | .deleteTsigKey =>
      "delete from tsigkeys where name=:key_name"
  | .tsigKeys =>
      "select name,algorithm, secret from tsigkeys"
  | .allDomains =>
      "select domains.id, domains.name, records.content, domains.type, domains.master, " ++
      "domains.notified_serial, domains.last_check, domains.account from domains LEFT JOIN " ++
      "records ON records.domain_id=domains.id AND records.type='SOA' AND " ++
      "records.name=domains.name WHERE records.disabled=0 OR :include_disabled"
  | .zoneComments =>
      "SELECT domain_id,name,type,modified_at,account,comment FROM comments WHERE " ++
      "domain_id=:domain_id"
  | .insertComment =>
      "INSERT INTO comments (domain_id, name, type, modified_at, account, comment) VALUES " ++
      "(:domain_id, :qname, :qtype, :modified_at, :account, :content)"
  | .deleteRecordSetComments =>
      "DELETE FROM comments WHERE domain_id=:domain_id AND name=:qname AND type=:qtype"
  | .deleteComments =>
      "DELETE FROM comments WHERE domain_id=:domain_id"
  | .searchRecords => recordColumns ++
      " name LIKE :value ESCAPE '\\' OR content LIKE :value2 ESCAPE '\\' LIMIT :limit"
  | .searchComments =>
      "SELECT domain_id,name,type,modified_at,account,comment FROM comments WHERE name " ++
      "LIKE :value ESCAPE '\\' OR comment LIKE :value2 ESCAPE '\\' LIMIT :limit"

/-- The statement of a name. -/
def ofName? (name : String) : Option Statement := all.find? (·.name == name)

end Statement

/-- The catalog of every statement of the backend. -/
def Catalog.builtin : Except Fault Catalog :=
  Catalog.ofTemplates (Statement.all.map fun statement => (statement.name, statement.template))

end ZoneStore
