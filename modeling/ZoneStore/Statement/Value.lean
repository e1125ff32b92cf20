import ZoneStore.Text.Blank
import ZoneStore.Text.Decimal

/-!
# Statement values

The values that a statement takes as parameters and gives back in its rows, and the order in which
rows without an order of their own are listed: `NULL` first, then integers, texts and blobs, each
kind by its own order.

A column of texts takes an integer as its decimal text, and a column of integers takes a text that
is written as one (`integer?`, `text?`). Real numbers are not modelled, neither as values nor in the
form of a text with a point or an exponent.
-/

set_option autoImplicit false

namespace ZoneStore

/-- A value of a statement's parameter or of a selected column. -/
inductive Value where
  /-- The absent value. -/
  | null
  /-- An integer. -/
  | integer (n : Int)
  /-- A text. -/
  | text (s : String)
  /-- A string of bytes. -/
  | blob (bytes : List UInt8)
deriving DecidableEq, Repr, Inhabited

namespace Value

/-- A truth value is stored as the integer one or zero. -/
def ofBool (b : Bool) : Value := .integer (if b then 1 else 0)

/-- An integer, or the absent value. -/
def ofInteger? : Option Int → Value
  | none => .null
  | some n => .integer n

/-- A text, or the absent value. -/
def ofText? : Option String → Value
  | none => .null
  | some s => .text s

/-- The form of the value in a column of integers, if it has one. Blanks around a number do not
count. -/
def integer? : Value → Option Int
  | .integer n => some n
  | .text s => (Text.Decimal.read .signed64 (Text.trimBy Text.isAsciiBlank s)).toOption
  | _ => none

/-- The form of the value in a column of texts, if it has one. -/
def text? : Value → Option String
  | .text s => some s
  | .integer n => some (toString n)
  | _ => none

@[simp] theorem integer?_ofInteger? (n : Option Int) : (ofInteger? n).integer? = n := by
  cases n <;> rfl

@[simp] theorem text?_ofText? (s : Option String) : (ofText? s).text? = s := by
  cases s <;> rfl

/-- The types of columns. Truth values are stored in columns of integers. -/
inductive ColumnType where
  | integer
  | text
deriving DecidableEq, Repr

/-- Whether a column of the type can hold the value, or a form of it. -/
def fits : Value → ColumnType → Bool
  | .null, _ => true
  | v, .integer => v.integer?.isSome
  | v, .text => v.text?.isSome

/-- The position of the value's kind in the order of values. -/
def rank : Value → Nat
  | .null => 0
  | .integer _ => 1
  | .text _ => 2
  | .blob _ => 3

/-- The order of values: by kind, then by the order of the kind. -/
def order : Value → Value → Ordering
  | .integer a, .integer b => compare a b
  | .text a, .text b => compare a b
  | .blob a, .blob b => compare a b
  | a, b => compare a.rank b.rank

/-- The order of rows: by the first column in which they differ. -/
def orderRows : List Value → List Value → Ordering
  | [], [] => .eq
  | [], _ :: _ => .lt
  | _ :: _, [] => .gt
  | a :: as, b :: bs => (order a b).then (orderRows as bs)

/-- Rows in increasing order, column by column. -/
def sortRows (rows : List (List Value)) : List (List Value) :=
  rows.mergeSort fun a b => (orderRows a b).isLE

end Value

end ZoneStore
