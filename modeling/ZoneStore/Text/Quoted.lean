import ZoneStore.Text.Quoted.Unprintable

/-!
# A quoted character

The form in which an error message names a character: between single quotes, with the backslash and
the single quote escaped, the common controls by letter, and every other character without a glyph
of its own by its code point in hexadecimal.
-/

set_option autoImplicit false

namespace ZoneStore.Text

/-- The text between the quotes of a quoted character. -/
def escaped (c : Char) : String :=
  if c = '\x00' then "\\0"
  else if c = '\t' then "\\t"
  else if c = '\r' then "\\r"
  else if c = '\n' then "\\n"
  else if c = '\'' then "\\'"
  else if c = '\\' then "\\\\"
  else if isUnprintable c then
    "\\u\x7b" ++ String.ofList (Nat.toDigits 16 c.toNat) ++ "\x7d"
  else c.toString

/-- A character between single quotes. -/
def quoted (c : Char) : String := "'" ++ escaped c ++ "'"

end ZoneStore.Text
