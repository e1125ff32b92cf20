import ZoneStore.Fault
import ZoneStore.Text.Collation

/-!
# Like patterns

A like pattern is a text in which `%` stands for any run of characters and `_` for one character; an
escape character, where there is one, makes the character after it stand for itself. ASCII letters
match in either case.

Of a pattern and of a text only what stands in front of the first `U+0000` is seen, and the two
characters `U+FFFE` and `U+FFFF` are seen as the replacement character (`Like.seen`). A pattern is
read into items first (`Like.items`). Matching keeps, for every suffix of the text,
whether the items match it (`Like.suffixes`), so its cost is the length of the pattern times that of
the text, however many runs the pattern has.
-/

set_option autoImplicit false

namespace ZoneStore.Like

/-- What a character is seen as: `U+FFFE` and `U+FFFF` as the replacement character, and every other
one as itself. -/
def seenAs (c : Char) : Char := if c = '\uFFFE' ∨ c = '\uFFFF' then '\uFFFD' else c

/-- What is seen of a pattern or of a text. -/
def seen (cs : List Char) : List Char := (Text.beforeNul cs).map seenAs

/-- One item of a pattern. -/
inductive Item where
  /-- Any run of characters, the empty one included. -/
  | run
  /-- Any one character. -/
  | one
  /-- One given character, an ASCII letter in either case. -/
  | literal (c : Char)
  /-- An escape character with nothing after it, which matches nothing. -/
  | dangling
deriving DecidableEq, Repr

/-- Reads a pattern; `escape` is the escape character, if there is one. -/
def items (escape : Option Char) : List Char → List Item
  | [] => []
  | c :: rest =>
    if escape = some c then
      match rest with
      | [] => [.dangling]
      | d :: after => .literal d :: items escape after
    else if c = '%' then .run :: items escape rest
    else if c = '_' then .one :: items escape rest
    else .literal c :: items escape rest

/-- Whether a character of a pattern and one of a text are equal up to ASCII case. -/
def sameLetter (c d : Char) : Bool := c.toLower == d.toLower

/-- For every suffix of the text, the whole text first and the empty one last, whether the items
match it. -/
def suffixes : List Item → List Char → List Bool
  | [], text => text.map (fun _ => false) ++ [true]
  | .run :: rest, text =>
    -- A run ends where the rest matches, or else takes the next character.
    (suffixes rest text).foldr (fun hit tail => (hit || tail.headD false) :: tail) []
  | .one :: rest, text => (suffixes rest text).tail ++ [false]
  | .literal c :: rest, text =>
    List.zipWith (fun d hit => sameLetter c d && hit) text (suffixes rest text).tail ++ [false]
  | .dangling :: _, text => text.map (fun _ => false) ++ [false]

/-- Whether the items match the whole text. -/
def matchesItems (pattern : List Item) (text : List Char) : Bool :=
  (suffixes pattern text).headD false

/-- Whether a pattern with the given escape character matches a text. -/
def matchesText (escape : Option Char) (pattern text : String) : Bool :=
  matchesItems (items escape (seen pattern.toList)) (seen text.toList)

/-- The greatest length of a pattern, in bytes, that is compared with a text. -/
def greatestLength : Nat := 50000

/-- Compares a column with a pattern, either of which may be absent; an absent one matches
nothing. A pattern that is too long is refused, even where the column is absent. -/
def compare (escape : Option Char) (column pattern : Option String) : Except DatabaseFault Bool :=
  match pattern with
  | none => .ok false
  | some pattern =>
    if greatestLength < pattern.utf8ByteSize then .error .patternTooComplex
    else .ok (column.any (matchesText escape pattern))

end ZoneStore.Like
