import ZoneStore.Zone.Listing

/-!
# Domain metadata

A domain has lists of values under kinds; kinds that are alike are not told apart. The whole map
lists each kind in the spelling under which it is stored.
-/

set_option autoImplicit false

namespace ZoneStore

/-- Reads the kind and the value of a row; the kind may not be absent. -/
def MetadataRow.entry (row : MetadataRow) : Except DatabaseFault (String × String) :=
  match row.kind with
  | some kind => .ok (kind, row.content.getD "")
  | none => .error (.nullColumn 0 "kind")

/-- Collects the values under each kind, in the order of the rows. -/
def collectKinds (entries : List (String × String)) : TextMap (List String) :=
  entries.foldl (fun m e => m.insert e.1 ((m.find? e.1).getD [] ++ [e.2])) .empty

namespace Backend

/-- Every metadata kind of a domain with its values. -/
def allDomainMetadata (name : String) : BackendM (TextMap (List String)) := do
  return collectKinds (← readRows MetadataRow.entry (← fetch (.allMetadata (some name))))

/-- The values of one metadata kind of a domain. -/
def domainMetadata (name kind : String) : BackendM (List String) := do
  return (← fetch (.metadataOfKind (some name) (some kind))).map fun row => row.content.getD ""

/-- Puts the given values in place of those of one metadata kind of a domain. -/
def metadataReplacement (name kind : String) (values : List String) : List Mutation :=
  .clearMetadataOfKind (some name) (some kind) ::
    values.map fun value => .addMetadata (some name) (some kind) (some value)

/-- Replaces the values of one metadata kind of a domain. -/
def setDomainMetadata (name kind : String) (values : List String) : BackendM Unit := do
  requireDnssec
  onStore (Store.atomically (Work.performAll (metadataReplacement name kind values)))

end Backend

end ZoneStore
