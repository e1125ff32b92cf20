import ZoneStore.Fault
import ZoneStore.Text.Blank

/-!
# Serials and masters

Two values that are kept as text: the serial is the third field of the content of an SOA record, and
the masters of a zone are separated by spaces, commas or tabs.
-/

set_option autoImplicit false

namespace ZoneStore

/-- The serial in the content of an SOA record: its third field, or zero if there are fewer. -/
def soaSerial (content : String) : Except Fault Int :=
  match (Text.fields Text.isBlank content)[2]? with
  | none => .ok 0
  | some serial => (Text.Decimal.read .signed64 serial).mapError .integer

/-- Whether a character separates masters. -/
def separatesMasters (c : Char) : Bool := c == ' ' || c == ',' || c == '\t'

/-- The masters in a list of masters. -/
def splitMasters (masters : String) : List String := Text.fields separatesMasters masters

/-- The list of masters as it is stored. -/
def joinMasters (masters : List String) : String := " ".intercalate masters

end ZoneStore
