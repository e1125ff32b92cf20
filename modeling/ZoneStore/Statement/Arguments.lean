import ZoneStore.Fault
import ZoneStore.Statement.Value

/-!
# Named arguments

The arguments of one statement are pairs of a name and a value. A name may repeat, and then the last
pair counts; a name without a pair stands for `NULL`. `Arguments.bind` gives one value for each name
of a compiled statement, so it gives as many values as the statement has parameters (`length_bind`).
-/

set_option autoImplicit false

namespace ZoneStore

/-- Named arguments, in the order in which they were given. -/
structure Arguments where
  /-- The pairs of a name and a value. -/
  pairs : List (String × Value)
deriving DecidableEq, Repr

namespace Arguments

/-- The number of pairs, repeated names included. -/
def size (args : Arguments) : Nat := args.pairs.length

/-- Whether there is no pair. -/
def isEmpty (args : Arguments) : Bool := args.pairs.isEmpty

/-- The value of the last pair of that name, or `NULL`. -/
def value (args : Arguments) (name : String) : Value :=
  match args.pairs.reverse.find? (·.1 == name) with
  | some pair => pair.2
  | none => .null

/-- One value for each name, in the order of the names. -/
def bind (args : Arguments) (names : List String) : List Value := names.map args.value

/-- There is one value for each name. -/
@[simp] theorem length_bind (args : Arguments) (names : List String) :
    (args.bind names).length = names.length := by
  simp [bind]

/-- The pairs of a list that alternates names and values; a pair whose name is no text is left
out. -/
def flatPairs : List Value → List (String × Value)
  | .text name :: value :: rest => (name, value) :: flatPairs rest
  | _ :: _ :: rest => flatPairs rest
  | _ => []

/-- The arguments held in a list that alternates names and values. A list of odd length is
refused. -/
def ofFlat (flat : List Value) : Except Fault Arguments :=
  if flat.length % 2 = 0 then .ok ⟨flatPairs flat⟩ else .error (.argumentShape flat.length)

/-- The integer bound to a name, if there is one. -/
def integer? (args : Arguments) (name : String) : Option Int := (args.value name).integer?

/-- The text bound to a name, if there is one. -/
def text? (args : Arguments) (name : String) : Option String := (args.value name).text?

end Arguments

end ZoneStore
