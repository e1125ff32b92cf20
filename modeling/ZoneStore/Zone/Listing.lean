import ZoneStore.Domain.Administration
import ZoneStore.Pattern.Glob
import ZoneStore.Zone.Update

/-!
# Reading records and comments

Looking records up by name and type, listing a zone or the part of it below a name, and searching
records and comments by pattern. Only a zone listing that asks for them gives disabled records; a
search gives them too.
-/

set_option autoImplicit false

namespace ZoneStore.Backend

/-- Reads rows one after another; the first that cannot be read is reported. -/
def readRows {ρ σ : Type} (read : ρ → Except DatabaseFault σ) (rows : List ρ) : BackendM (List σ) :=
  Action.ofDatabase (rows.mapM read)

/-- The enabled records of a name and type, in one zone or in all of them. -/
def lookup (qtype qname : String) (zone : Option Int) : BackendM (List ResourceRecord) := do
  let scope : Scope Int := match zone with
    | none => .any
    | some z => .only (some z)
  let rows ← fetch (.lookup (typeScope qtype) (some qname) scope)
  return ResourceRecord.sort (← readRows ResourceRecord.ofRow rows)

/-- The records of a zone by name and type, the enabled ones or all of them. The zone is given by
its id, or else by its name. -/
def list (name : String) (zone : Option Int) (includeDisabled : Bool) :
    BackendM (List ResourceRecord) := do
  let zone ← match zone with
    | some z => pure z
    | none => match ← domainId? name with
      | some z => pure z
      | none => throw (.domainNotFound name)
  let rows ← fetch (.zoneListing (some zone) (some (storedBool includeDisabled)))
  return ResourceRecord.sortSets (← readRows ResourceRecord.ofListingRow rows)

/-- The like pattern of the names below a name. -/
def namesBelow (name : String) : String := "%." ++ name

/-- The enabled records of a zone at or below a name. -/
def listSubzone (name : String) (zone : Int) : BackendM (List ResourceRecord) := do
  let rows ← fetch (.subzoneListing (some name) (some (namesBelow name)) (some zone))
  return ResourceRecord.sort (← readRows ResourceRecord.ofRow rows)

/-- The first records, in the order of insertion, whose name or content matches a search pattern. -/
def searchRecords (pattern : String) (limit : UInt32) : BackendM (List ResourceRecord) := do
  let like := Glob.toLike pattern
  readRows ResourceRecord.ofRow
    (← fetch (.searchRecords (some like) (some like) (some limit.toNat)))

/-- The comments of a zone. -/
def listComments (zone : Int) : BackendM (List Comment) := do
  return Comment.sort ((← fetch (.zoneComments (some zone))).map Comment.ofRow)

/-- The first comments, in the order of insertion, whose name or text matches a search pattern. -/
def searchComments (pattern : String) (limit : UInt32) : BackendM (List Comment) := do
  let like := Glob.toLike pattern
  return (← fetch (.searchComments (some like) (some like) (some limit.toNat))).map Comment.ofRow

end ZoneStore.Backend
