import ZoneStore.Table.Rows
import ZoneStore.Text.Collation

/-!
# Conditions on rows

A comparison with an absent value never holds, on either side. Domain names, nameservers, metadata
kinds, TSIG names and TSIG algorithms are compared by the collation (`Text.alike`), every other text
exactly.
-/

set_option autoImplicit false

namespace ZoneStore

/-- Whether a column holds the value asked for; nothing equals an absent value. -/
def holds {α : Type} [BEq α] (column asked : Option α) : Bool :=
  match column, asked with
  | some a, some b => a == b
  | _, _ => false

/-- Whether a column holds a text like the one asked for; nothing is like an absent value. -/
def holdsAnyCase (column asked : Option String) : Bool :=
  match column, asked with
  | some a, some b => Text.alike a b
  | _, _ => false

/-- Whether a stored or given truth value counts as true: any integer but zero. -/
def isTrue (value : Option Int) : Bool := value.any (· != 0)

/-- The stored form of a truth value. -/
def storedBool (b : Bool) : Int := if b then 1 else 0

@[simp] theorem isTrue_storedBool (b : Bool) : isTrue (some (storedBool b)) = b := by
  cases b <;> rfl

@[simp] theorem holds_some_some {α : Type} [BEq α] (a b : α) :
    holds (some a) (some b) = (a == b) := rfl

@[simp] theorem holds_none_left {α : Type} [BEq α] (asked : Option α) :
    holds none asked = false := rfl

@[simp] theorem holds_none_right {α : Type} [BEq α] (column : Option α) :
    holds column none = false := by
  cases column <;> rfl

/-- A column holds a given value exactly when it is that value. -/
theorem holds_some_iff {α : Type} [DecidableEq α] {column : Option α} {b : α} :
    holds column (some b) = true ↔ column = some b := by
  cases column <;> simp [holds]

/-- Which values of a column a statement admits: all of them, or the one that its parameter gives.
-/
inductive Scope (α : Type) where
  /-- The statement has no condition on the column. -/
  | any
  /-- The column has to hold the given value. -/
  | only (value : Option α)
deriving DecidableEq, Repr

/-- Whether the scope admits what a column holds. -/
def Scope.admits {α : Type} [BEq α] : Scope α → Option α → Bool
  | .any, _ => true
  | .only value, column => holds column value

namespace DomainRow

/-- Whether the domain has a name like the one asked for. -/
def isNamed (d : DomainRow) (name : Option String) : Bool := holdsAnyCase (some d.name) name

end DomainRow

namespace RecordRow

/-- Whether the record belongs to the zone asked for. -/
def isIn (r : RecordRow) (zone : Option Int) : Bool := holds r.domainId zone

/-- Whether the record has the owner name asked for. -/
def isNamed (r : RecordRow) (name : Option String) : Bool := holds r.name name

/-- Whether the record is enabled. A record whose flag is absent is not. -/
def isEnabled (r : RecordRow) : Bool := r.disabled == some 0

/-- Whether the row stands for an empty non-terminal: a name without a type. -/
def isEmptyNonTerminal (r : RecordRow) : Bool := r.type.isNone

end RecordRow

/-- The id of the domain of a name. -/
def Tables.domainId? (tables : Tables) (name : Option String) : Option Int :=
  (tables.domains.find? (·.isNamed name)).map DomainRow.id

end ZoneStore
