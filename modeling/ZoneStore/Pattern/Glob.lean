import ZoneStore.Pattern.Like

/-!
# Search patterns

In a search pattern `*` stands for any run of characters and `?` for one character; every other
character stands for itself. `Glob.toLike` writes a search pattern as a like pattern whose escape
character is the backslash, and escapes the characters that have a meaning there.
-/

set_option autoImplicit false

namespace ZoneStore.Glob

/-- The like pattern of one character of a search pattern. -/
def likeOf (c : Char) : List Char :=
  if c = '*' then ['%']
  else if c = '?' then ['_']
  else if c = '\\' ∨ c = '%' ∨ c = '_' then ['\\', c]
  else [c]

/-- The like pattern, with the backslash as escape character, of a search pattern. -/
def toLike (pattern : String) : String := String.ofList (pattern.toList.flatMap likeOf)

end ZoneStore.Glob
