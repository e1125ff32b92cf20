import ZoneStore.Text.Lowercase.Letters

/-!
# Full lower-casing

`lowercase` maps each character to its small letter by the character standard. Two rules go beyond
a letter by letter mapping: the capital `I` with a dot above becomes `i` followed by the combining
dot, and a capital sigma that ends a word becomes the final sigma.
-/

set_option autoImplicit false

namespace ZoneStore.Text

/-- The small letters of one character, by itself. -/
def smallLetters (c : Char) : List Char :=
  if c = '\u0130' then ['i', '\u0307']
  else match capitals.find? (·.contains c.toNat) with
    | some run => [Char.ofNat (c.toNat + run.shift).toNat]
    | none => [c]

/-- Whether the first character that is not passed over is a letter with case. -/
def startsCased (text : List Char) : Bool :=
  match text.dropWhile caseIgnorables.contains with
  | [] => false
  | c :: _ => casedLetters.contains c

/-- Lower-cases the text; `before` holds the characters already passed, the nearest first. -/
def lowercaseAfter (before : List Char) : List Char → List Char
  | [] => []
  | c :: rest =>
    let small :=
      if c = 'Σ' then if startsCased before && !startsCased rest then ['ς'] else ['σ']
      else smallLetters c
    small ++ lowercaseAfter (c :: before) rest

/-- The text in small letters. -/
def lowercase (text : String) : String := String.ofList (lowercaseAfter [] text.toList)

end ZoneStore.Text
