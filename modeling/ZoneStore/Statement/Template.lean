import ZoneStore.Text.Quoted

/-!
# Statement templates

A template is statement text in which `:name` stands for a parameter. It is a sequence of pieces
(`Piece`): plain characters, a doubled colon for one colon, placeholders, and literals between
single quotes, in which a quote is written twice. Compiling reads the pieces, writes `?` for each
placeholder, and keeps the placeholder names in order of occurrence, repeats included; a literal
is copied as it stands.

The two sides of the format are `Piece.source`, the text of a piece in a template, and
`Template.pieces`, which reads a template back into pieces or reports the first fault with its
byte position.
-/

set_option autoImplicit false

namespace ZoneStore.Template

/-- Why a template has no pieces. -/
inductive Reason where
  /-- A colon is followed by a character that starts no name. -/
  | expectedName (found : Char)
  /-- The last character of the template is a lone colon. -/
  | endsWithColon
  /-- A literal is not closed. -/
  | unterminatedLiteral
deriving DecidableEq, Repr

/-- The wording of a reason. -/
def Reason.message : Reason → String
  | .expectedName found => "expected parameter name after ':', found " ++ Text.quoted found
  | .endsWithColon => "template ends with ':'"
  | .unterminatedLiteral => "unterminated string literal"

/-- Where a template stops being well formed, in bytes from its start, and why. -/
structure Malformed where
  /-- The byte offset of the fault. -/
  position : Nat
  /-- What is wrong there. -/
  reason : Reason
deriving DecidableEq, Repr

/-- One piece of a template. -/
inductive Piece where
  /-- A character other than a colon or a single quote. -/
  | plain (c : Char)
  /-- A doubled colon, which stands for one colon. -/
  | colon
  /-- A parameter of the given name. -/
  | placeholder (name : List Char)
  /-- A literal with the given content. -/
  | literal (content : List Char)
deriving DecidableEq, Repr

/-- The characters of parameter names. -/
def isNameChar (c : Char) : Bool := c.isAlphanum || c == '_'

/-- The content of a literal as it is written: every quote twice. -/
def doubleQuotes : List Char → List Char
  | [] => []
  | c :: rest => if c = '\'' then '\'' :: '\'' :: doubleQuotes rest else c :: doubleQuotes rest

namespace Piece

/-- The text of a literal, in a template and in a compiled statement. -/
def literalText (content : List Char) : List Char := '\'' :: doubleQuotes content ++ ['\'']

/-- The text of a piece in a template. -/
def source : Piece → List Char
  | plain c => [c]
  | colon => [':', ':']
  | placeholder name => ':' :: name
  | literal content => literalText content

/-- The text of a piece in a compiled statement. -/
def sql : Piece → List Char
  | plain c => [c]
  | colon => [':']
  | placeholder _ => ['?']
  | literal content => literalText content

/-- The parameter that a piece names, if it is a placeholder. -/
def name? : Piece → Option String
  | placeholder name => some (String.ofList name)
  | _ => none

end Piece

/-- The number of bytes that a text takes. -/
def byteLength : List Char → Nat
  | [] => 0
  | c :: rest => c.utf8Size + byteLength rest

/-- Reads a literal after its opening quote: the content and the text after the closing quote, or
nothing if the literal is not closed. -/
def literal? : List Char → Option (List Char × List Char)
  | [] => none
  | c :: rest =>
    if c = '\'' then
      match rest with
      | [] => some ([], [])
      | d :: after =>
        if d = '\'' then (literal? after).map fun r => ('\'' :: r.1, r.2)
        else some ([], d :: after)
    else (literal? rest).map fun r => (c :: r.1, r.2)

/-- The text after a literal is shorter than the text that holds it. -/
theorem literal?_length {text content after : List Char}
    (h : literal? text = some (content, after)) : after.length < text.length := by
  fun_induction literal? text generalizing content after with
  | case1 => simp at h
  | case2 => simp_all
  | case3 rest ih =>
    obtain ⟨r, hr, heq⟩ := Option.map_eq_some_iff.1 h
    have hlt := ih hr
    simp only [Prod.mk.injEq] at heq
    simp only [List.length_cons, ← heq.2]
    omega
  | case4 => simp_all
  | case5 c rest hc ih =>
    obtain ⟨r, hr, heq⟩ := Option.map_eq_some_iff.1 h
    have hlt := ih hr
    simp only [Prod.mk.injEq] at heq
    simp only [List.length_cons, ← heq.2]
    omega

/-- Reads the pieces of a template; `position` is the byte offset of the text that is left. -/
def piecesFrom (position : Nat) : List Char → Except Malformed (List Piece)
  | [] => .ok []
  | c :: rest =>
    if c = '\'' then
      match _h : literal? rest with
      -- Only the end of the template shows that a literal is not closed, so the fault lies there.
      | none => .error ⟨position + byteLength (c :: rest), .unterminatedLiteral⟩
      | some (content, after) =>
        (piecesFrom (position + byteLength (Piece.literalText content)) after).map
          (.literal content :: ·)
    else if c = ':' then
      match rest with
      | [] => .error ⟨position, .endsWithColon⟩
      | d :: after =>
        if d = ':' then (piecesFrom (position + 2) after).map (.colon :: ·)
        else if isNameChar d then
          -- A name reaches as far as there are name characters.
          let name := d :: after.takeWhile isNameChar
          (piecesFrom (position + 1 + byteLength name) (after.dropWhile isNameChar)).map
            (.placeholder name :: ·)
        else .error ⟨position, .expectedName d⟩
    else (piecesFrom (position + c.utf8Size) rest).map (.plain c :: ·)
termination_by text => text.length
decreasing_by
  · have := literal?_length _h
    simp only [List.length_cons]
    omega
  · simp only [List.length_cons]
    omega
  · have := (List.dropWhile_suffix (p := isNameChar) (l := after)).length_le
    simp only [List.length_cons]
    omega
  · simp only [List.length_cons]
    omega

/-- The pieces of a template, or its first fault. -/
def pieces (template : String) : Except Malformed (List Piece) := piecesFrom 0 template.toList

end ZoneStore.Template

namespace ZoneStore

/-- A statement whose parameters are positional. -/
structure CompiledStatement where
  /-- The statement text, with a `?` for each parameter. -/
  sql : String
  /-- The parameter names, one for each `?`, in order. -/
  names : List String
deriving DecidableEq, Repr

/-- The compiled statement that a sequence of pieces stands for. -/
def CompiledStatement.ofPieces (pieces : List Template.Piece) : CompiledStatement where
  sql := String.ofList (pieces.flatMap Template.Piece.sql)
  names := pieces.filterMap Template.Piece.name?

/-- Compiles a template, or reports its first fault. -/
def Template.compile (template : String) : Except Template.Malformed CompiledStatement :=
  (Template.pieces template).map CompiledStatement.ofPieces

end ZoneStore
