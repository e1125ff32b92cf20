import ZoneStore.Text.Intervals

/-!
# White space and fields

White space is the property of that name of the character standard, not the ASCII set. A text is cut
into fields at runs of separators, and empty fields are dropped; `trim` removes white space at both
ends. Around the numbers of statements only the ASCII set counts (`isAsciiBlank`).
-/

set_option autoImplicit false

namespace ZoneStore.Text

/-- The code points that count as white space. -/
def blanks : Intervals :=
  [(0x9, 0xD), (0x20, 0x20), (0x85, 0x85), (0xA0, 0xA0), (0x1680, 0x1680), (0x2000, 0x200A),
   (0x2028, 0x2029), (0x202F, 0x202F), (0x205F, 0x205F), (0x3000, 0x3000)]

/-- Whether a character is white space. -/
def isBlank (c : Char) : Bool := blanks.contains c

/-- Cuts a text at every separator; neighbouring separators leave empty pieces between them. -/
def cut (isSeparator : Char → Bool) : List Char → List (List Char)
  | [] => [[]]
  | c :: rest =>
    if isSeparator c then [] :: cut isSeparator rest
    else match cut isSeparator rest with
      | [] => [[c]]
      | piece :: pieces => (c :: piece) :: pieces

/-- The non-empty pieces between separators, in order. -/
def fields (isSeparator : Char → Bool) (text : String) : List String :=
  ((cut isSeparator text.toList).filter (!·.isEmpty)).map String.ofList

/-- Whether a character is white space of the ASCII set. -/
def isAsciiBlank (c : Char) : Bool := c == ' ' || '\t' ≤ c && c ≤ '\r'

/-- Removes the characters that count as blank at both ends. -/
def trimBy (isBlank : Char → Bool) (text : String) : String :=
  String.ofList (((text.toList.dropWhile isBlank).reverse.dropWhile isBlank).reverse)

/-- Removes white space at both ends. -/
def trim (text : String) : String := trimBy isBlank text

end ZoneStore.Text
