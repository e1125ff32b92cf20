/-!
# Integers from decimal text

`Decimal.read` reads an optional sign followed by ASCII digits into an integer of a given range. It
consumes the text from the left and reports the first fault it meets: a character that is no digit,
or a digit that takes the value out of the range. A minus sign is a sign only where the range has
negative numbers.
-/

set_option autoImplicit false

namespace ZoneStore.Text

/-- Why a text is not an integer of the range. -/
inductive IntegerFault where
  /-- The text has no character. -/
  | empty
  /-- A character that should be a digit is none, or a sign stands alone. -/
  | invalidDigit
  /-- The digits read so far exceed the greatest integer of the range. -/
  | tooLarge
  /-- The digits read so far fall below the least integer of the range. -/
  | tooSmall
deriving DecidableEq, Repr

/-- The wording of an integer fault. -/
def IntegerFault.message : IntegerFault → String
  | .empty => "cannot parse integer from empty string"
  | .invalidDigit => "invalid digit found in string"
  | .tooLarge => "number too large to fit in target type"
  | .tooSmall => "number too small to fit in target type"

/-- A range of integers, ends included. -/
structure IntegerRange where
  /-- The least integer of the range. -/
  least : Int
  /-- The greatest integer of the range. -/
  greatest : Int

namespace IntegerRange

/-- The integers of 64 bits with sign. -/
def signed64 : IntegerRange := ⟨-0x8000000000000000, 0x7FFFFFFFFFFFFFFF⟩

/-- The integers of 32 bits without sign. -/
def unsigned32 : IntegerRange := ⟨0, 0xFFFFFFFF⟩

/-- Whether an integer lies in the range. -/
def contains (range : IntegerRange) (n : Int) : Bool :=
  decide (range.least ≤ n) && decide (n ≤ range.greatest)

/-- An integer lies in the range exactly when it lies between its ends. -/
theorem contains_iff {range : IntegerRange} {n : Int} :
    range.contains n = true ↔ range.least ≤ n ∧ n ≤ range.greatest := by
  simp [contains]

end IntegerRange

namespace Decimal

/-- The value of an ASCII digit. -/
def digit? (c : Char) : Option Nat :=
  if c.isDigit then some (c.toNat - '0'.toNat) else none

/-- Appends the digits of the text to the value read so far, adding or subtracting each, and fails
at the first character that is no digit or that takes the value out of the range. -/
def accumulate (range : IntegerRange) (negative : Bool) (value : Int) :
    List Char → Except IntegerFault Int
  | [] => .ok value
  | c :: rest =>
    match digit? c with
    | none => .error .invalidDigit
    | some d =>
      -- The digits of a negative number are subtracted, so that the least integer is reached too.
      let next := if negative then value * 10 - d else value * 10 + d
      if next < range.least then .error .tooSmall
      else if range.greatest < next then .error .tooLarge
      else accumulate range negative next rest

/-- Reads a text as an integer of the range: an optional sign and at least one digit. -/
def read (range : IntegerRange) (text : String) : Except IntegerFault Int :=
  match text.toList with
  | [] => .error .empty
  | ['+'] | ['-'] => .error .invalidDigit
  | '+' :: digits => accumulate range false 0 digits
  | '-' :: digits =>
    if range.least < 0 then accumulate range true 0 digits else .error .invalidDigit
  | digits => accumulate range false 0 digits

end Decimal

end ZoneStore.Text
