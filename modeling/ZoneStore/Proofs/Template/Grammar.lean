import ZoneStore.Proofs.Outcome
import ZoneStore.Statement.Template

/-!
# The grammar of templates

`Compiles template sql names` is the grammar of templates together with its meaning: one rule for
each kind of piece, which says what the piece adds to the statement text and to the parameter
names. Main statement: compiling a template succeeds exactly on the templates of the grammar, with
the statement that the grammar assigns to them (`compile_eq_ok_iff`).

A template can be derived in more than one way, since two literals side by side are also one
literal with a quote in it. The compiler reads the longest literal; `literal?_append` says how a
literal that is followed by another one is read, which is the one place where the two readings
part.
-/

set_option autoImplicit false

namespace ZoneStore.Template

/-- The letters, digits and the low line of the ASCII range. -/
def InNameRange (c : Char) : Prop :=
  'A' ≤ c ∧ c ≤ 'Z' ∨ 'a' ≤ c ∧ c ≤ 'z' ∨ '0' ≤ c ∧ c ≤ '9' ∨ c = '_'

/-- The templates with the text and the parameter names of the statements that they stand for. -/
inductive Compiles : List Char → List Char → List String → Prop
  /-- The empty template stands for the empty statement. -/
  | done : Compiles [] [] []
  /-- A character other than a colon and a quote is copied. -/
  | plain {c : Char} {rest sql : List Char} {names : List String} :
      c ≠ ':' → c ≠ '\'' → Compiles rest sql names → Compiles (c :: rest) (c :: sql) names
  /-- Two colons stand for one. -/
  | colon {rest sql : List Char} {names : List String} :
      Compiles rest sql names → Compiles (':' :: ':' :: rest) (':' :: sql) names
  /-- A colon and a name that cannot be extended stand for a parameter. -/
  | placeholder {name rest sql : List Char} {names : List String} :
      name ≠ [] → (∀ c ∈ name, InNameRange c) →
      (∀ c after, rest = c :: after → ¬ InNameRange c) → Compiles rest sql names →
      Compiles (':' :: (name ++ rest)) ('?' :: sql) (String.ofList name :: names)
  /-- A literal, in which every quote is doubled, is copied with its quotes. -/
  | literal (content : List Char) {rest sql : List Char} {names : List String} :
      Compiles rest sql names →
      Compiles (Piece.literalText content ++ rest) (Piece.literalText content ++ sql) names

/-! ## Name characters -/

/-- The characters of parameter names are those of the name range. -/
theorem isNameChar_iff {c : Char} : isNameChar c = true ↔ InNameRange c := by
  have hname : isNameChar c = (c.isUpper || c.isLower || c.isDigit || c == '_') := rfl
  have hupper : c.isUpper = decide ('A' ≤ c ∧ c ≤ 'Z') := rfl
  have hlower : c.isLower = (decide ('a' ≤ c) && decide (c ≤ 'z')) := rfl
  have hdigit : c.isDigit = (decide ('0' ≤ c) && decide (c ≤ '9')) := rfl
  simp only [hname, hupper, hlower, hdigit, Bool.or_eq_true, Bool.and_eq_true, decide_eq_true_eq,
    beq_iff_eq, InNameRange]
  rw [or_assoc, or_assoc]

/-- A name is read up to the first character that is not in the name range. -/
theorem takeWhile_name {name rest : List Char} (hname : ∀ c ∈ name, InNameRange c)
    (hrest : ∀ c after, rest = c :: after → ¬ InNameRange c) :
    (name ++ rest).takeWhile isNameChar = name ∧ (name ++ rest).dropWhile isNameChar = rest := by
  have hall : ∀ c ∈ name, isNameChar c = true := fun c hc => isNameChar_iff.2 (hname c hc)
  have hstop : rest.takeWhile isNameChar = [] ∧ rest.dropWhile isNameChar = rest := by
    cases rest with
    | nil => exact ⟨rfl, rfl⟩
    | cons c after =>
      have hc : isNameChar c = false := by
        rw [Bool.eq_false_iff]
        exact fun h => hrest c after rfl (isNameChar_iff.1 h)
      exact ⟨by simp [hc], by simp [hc]⟩
  rw [List.takeWhile_append_of_pos hall, List.dropWhile_append_of_pos hall, hstop.1, hstop.2]
  exact ⟨List.append_nil name, rfl⟩

theorem inNameRange_of_mem_takeWhile {text : List Char} :
    ∀ c ∈ text.takeWhile isNameChar, InNameRange c :=
  fun c hc => isNameChar_iff.1 (List.all_eq_true.1 List.all_takeWhile c hc)

/-- What stands behind the longest name does not go on with it. -/
theorem not_inNameRange_of_dropWhile {text : List Char} :
    ∀ c rest, text.dropWhile isNameChar = c :: rest → ¬ InNameRange c := by
  intro c rest heq hc
  have hhead := List.head?_dropWhile_not isNameChar text
  rw [heq, List.head?_cons] at hhead
  simp [isNameChar_iff.2 hc] at hhead

/-! ## Literals -/

theorem doubleQuotes_append (a b : List Char) :
    doubleQuotes (a ++ b) = doubleQuotes a ++ doubleQuotes b := by
  induction a with
  | nil => rfl
  | cons c rest ih =>
    by_cases hc : c = '\''
    · simp [doubleQuotes, hc, ih]
    · simp [doubleQuotes, hc, ih]

/-- Two literals side by side have the text of one literal with a quote between their contents. -/
theorem literalText_append (a b : List Char) :
    Piece.literalText a ++ Piece.literalText b = Piece.literalText (a ++ '\'' :: b) := by
  simp [Piece.literalText, doubleQuotes_append, doubleQuotes]

theorem byteLength_append (a b : List Char) :
    byteLength (a ++ b) = byteLength a + byteLength b := by
  induction a with
  | nil => simp [byteLength]
  | cons c rest ih => simp only [List.cons_append, byteLength, ih, Nat.add_assoc]

/-- What is read as a literal is its content with the quotes doubled, and a closing quote. -/
theorem eq_of_literal? {text content after : List Char}
    (h : literal? text = some (content, after)) :
    text = doubleQuotes content ++ '\'' :: after := by
  fun_induction literal? text generalizing content after with
  | case1 => simp at h
  | case2 =>
    simp only [Option.some.injEq, Prod.mk.injEq] at h
    obtain ⟨rfl, rfl⟩ := h
    rfl
  | case3 rest ih =>
    -- A doubled quote is one quote of the content.
    obtain ⟨r, hr, heq⟩ := Option.map_eq_some_iff.1 h
    simp only [Prod.mk.injEq] at heq
    obtain ⟨rfl, rfl⟩ := heq
    rw [ih hr]
    simp [doubleQuotes]
  | case4 d rest hd =>
    simp only [Option.some.injEq, Prod.mk.injEq] at h
    obtain ⟨rfl, rfl⟩ := h
    rfl
  | case5 c rest hc ih =>
    obtain ⟨r, hr, heq⟩ := Option.map_eq_some_iff.1 h
    simp only [Prod.mk.injEq] at heq
    obtain ⟨rfl, rfl⟩ := heq
    rw [ih hr]
    simp [doubleQuotes, hc]

/-- A literal ends at its closing quote, unless another quote follows: then the literal goes on
with the text behind that one. -/
theorem literal?_append (content rest : List Char) :
    literal? (doubleQuotes content ++ '\'' :: rest) =
      match rest with
      | [] => some (content, [])
      | d :: after =>
        if d = '\'' then (literal? after).map fun r => (content ++ '\'' :: r.1, r.2)
        else some (content, d :: after) := by
  induction content with
  | nil =>
    cases rest with
    | nil => rfl
    | cons d after => rfl
  | cons c content ih =>
    -- The first character of the content, doubled or not, is read back as itself.
    have hmap : literal? (doubleQuotes (c :: content) ++ '\'' :: rest) =
        (literal? (doubleQuotes content ++ '\'' :: rest)).map fun r => (c :: r.1, r.2) := by
      by_cases hc : c = '\''
      · subst hc
        simp [doubleQuotes, literal?]
      · rw [doubleQuotes, if_neg hc, List.cons_append, literal?.eq_def]
        simp only [if_neg hc]
    rw [hmap, ih]
    cases rest with
    | nil => rfl
    | cons d after =>
      by_cases hd : d = '\''
      · simp [hd, Function.comp_def]
      · simp [hd]

/-! ## Reading pieces -/

/-- The pieces that are read from a text derive it in the grammar. -/
theorem compiles_of_piecesFrom {position : Nat} {text : List Char} {pieces : List Piece}
    (h : piecesFrom position text = .ok pieces) :
    Compiles text (pieces.flatMap Piece.sql) (pieces.filterMap Piece.name?) := by
  fun_induction piecesFrom position text generalizing pieces with
  | case1 =>
    cases h
    exact .done
  | case2 => simp at h
  | case3 position rest content after hliteral ih =>
    obtain ⟨more, hmore, rfl⟩ := map_eq_ok_iff.1 h
    have hrest : '\'' :: rest = Piece.literalText content ++ after := by
      rw [eq_of_literal? hliteral]
      simp [Piece.literalText]
    rw [hrest]
    exact .literal content (ih hmore)
  | case4 => simp at h
  | case5 position _ after ih =>
    obtain ⟨more, hmore, rfl⟩ := map_eq_ok_iff.1 h
    exact .colon (ih hmore)
  | case6 position d after _ hname name _ =>
    rename_i ih
    obtain ⟨more, hmore, rfl⟩ := map_eq_ok_iff.1 h
    -- The name goes as far as name characters do, so what follows cannot extend it.
    have hsplit : d :: after = name ++ after.dropWhile isNameChar := by
      rw [List.cons_append, List.takeWhile_append_dropWhile]
    have hrange : ∀ c ∈ name, InNameRange c :=
      List.forall_mem_cons.2 ⟨isNameChar_iff.1 hname, inNameRange_of_mem_takeWhile⟩
    rw [hsplit]
    exact .placeholder (List.cons_ne_nil _ _) hrange not_inNameRange_of_dropWhile (ih hmore)
  | case7 => simp at h
  | case8 position c rest hquote hcolon ih =>
    obtain ⟨more, hmore, rfl⟩ := map_eq_ok_iff.1 h
    exact .plain hcolon hquote (ih hmore)

/-- A text that starts with a quote is read as a literal and the pieces behind it. -/
theorem piecesFrom_literal (position : Nat) {rest content after : List Char}
    (h : literal? rest = some (content, after)) :
    piecesFrom position ('\'' :: rest) =
      (piecesFrom (position + byteLength (Piece.literalText content)) after).map
        (.literal content :: ·) := by
  rw [piecesFrom.eq_def]
  simp only [if_true]
  split
  · rename_i hnone
    rw [h] at hnone
    cases hnone
  · rename_i content' after' hsome
    rw [h] at hsome
    cases hsome
    rfl

/-- A text that starts with a quote has pieces only if its first literal is closed. -/
theorem exists_literal_of_piecesFrom {position : Nat} {rest : List Char} {pieces : List Piece}
    (h : piecesFrom position ('\'' :: rest) = .ok pieces) :
    ∃ content after, literal? rest = some (content, after) := by
  rw [piecesFrom.eq_def] at h
  simp only [if_true] at h
  split at h
  · cases h
  · rename_i content after hsome
    exact ⟨content, after, hsome⟩

/-- A literal in front of a text adds its own text to the statement and no name. Where the text
starts with another literal, the two are read as one. -/
theorem piecesFrom_literalText (position : Nat) (content : List Char) {rest : List Char}
    {pieces : List Piece}
    (h : piecesFrom (position + byteLength (Piece.literalText content)) rest = .ok pieces) :
    ∃ more, piecesFrom position (Piece.literalText content ++ rest) = .ok more ∧
      more.flatMap Piece.sql = Piece.literalText content ++ pieces.flatMap Piece.sql ∧
      more.filterMap Piece.name? = pieces.filterMap Piece.name? := by
  have htext : Piece.literalText content ++ rest =
      '\'' :: (doubleQuotes content ++ '\'' :: rest) := by
    simp [Piece.literalText]
  by_cases hquote : ∃ after, rest = '\'' :: after
  · -- The literal at the start of `rest` becomes the second half of the literal that is read.
    obtain ⟨after, rfl⟩ := hquote
    obtain ⟨second, tail, hsecond⟩ := exists_literal_of_piecesFrom h
    rw [piecesFrom_literal _ hsecond] at h
    obtain ⟨more, hmore, rfl⟩ := map_eq_ok_iff.1 h
    have hread : literal? (doubleQuotes content ++ '\'' :: '\'' :: after) =
        some (content ++ '\'' :: second, tail) := by
      rw [literal?_append]
      simp [hsecond]
    have hposition : position + byteLength (Piece.literalText (content ++ '\'' :: second)) =
        position + byteLength (Piece.literalText content) +
          byteLength (Piece.literalText second) := by
      rw [← literalText_append, byteLength_append, Nat.add_assoc]
    refine ⟨.literal (content ++ '\'' :: second) :: more, ?_, ?_, rfl⟩
    · rw [htext, piecesFrom_literal _ hread, hposition, hmore]
      rfl
    · simp only [List.flatMap_cons, Piece.sql]
      rw [← literalText_append, List.append_assoc]
  · -- No quote follows, so the literal ends where its content does.
    have hread : literal? (doubleQuotes content ++ '\'' :: rest) = some (content, rest) := by
      rw [literal?_append]
      cases rest with
      | nil => rfl
      | cons d after =>
        have hd : d ≠ '\'' := by
          rintro rfl
          exact hquote ⟨after, rfl⟩
        simp [hd]
    refine ⟨.literal content :: pieces, ?_, rfl, rfl⟩
    rw [htext, piecesFrom_literal _ hread, h]
    rfl

/-- A text that the grammar derives is read as pieces that stand for the same statement. -/
theorem exists_piecesFrom {text sql : List Char} {names : List String}
    (h : Compiles text sql names) :
    ∀ position, ∃ pieces, piecesFrom position text = .ok pieces ∧
      pieces.flatMap Piece.sql = sql ∧ pieces.filterMap Piece.name? = names := by
  induction h with
  | done => exact fun position => ⟨[], by simp [piecesFrom], rfl, rfl⟩
  | @plain c rest sql names hcolon hquote _ ih =>
    intro position
    obtain ⟨pieces, hpieces, rfl, rfl⟩ := ih (position + c.utf8Size)
    refine ⟨.plain c :: pieces, ?_, rfl, rfl⟩
    rw [piecesFrom.eq_def]
    simp [hcolon, hquote, hpieces, Except.map]
  | @colon rest sql names _ ih =>
    intro position
    obtain ⟨pieces, hpieces, rfl, rfl⟩ := ih (position + 2)
    refine ⟨.colon :: pieces, ?_, rfl, rfl⟩
    rw [piecesFrom.eq_def]
    simp [hpieces, Except.map]
  | @placeholder name rest sql names hne hname hstop _ ih =>
    intro position
    -- The first character of the name tells the placeholder from a pair of colons.
    obtain ⟨d, name, rfl⟩ := List.exists_cons_of_ne_nil hne
    obtain ⟨pieces, hpieces, rfl, rfl⟩ := ih (position + 1 + byteLength (d :: name))
    have hd : InNameRange d := hname d List.mem_cons_self
    have hcolon : d ≠ ':' := by
      rintro rfl
      exact absurd hd (by simp [InNameRange])
    obtain ⟨htake, hdrop⟩ :=
      takeWhile_name (fun c hc => hname c (List.mem_cons_of_mem d hc)) hstop
    refine ⟨.placeholder (d :: name) :: pieces, ?_, rfl, rfl⟩
    rw [piecesFrom.eq_def]
    simp [hcolon, isNameChar_iff.2 hd, htake, hdrop, hpieces, Except.map]
  | @literal content rest sql names _ ih =>
    intro position
    obtain ⟨pieces, hpieces, rfl, rfl⟩ := ih (position + byteLength (Piece.literalText content))
    exact piecesFrom_literalText position content hpieces

/-- Compiling succeeds exactly on the templates of the grammar, and gives the statement text and the
parameter names that the grammar assigns to the template. -/
theorem compile_eq_ok_iff (template : String) (statement : CompiledStatement) :
    compile template = .ok statement ↔
      Compiles template.toList statement.sql.toList statement.names := by
  constructor
  · intro h
    obtain ⟨read, hread, rfl⟩ := map_eq_ok_iff.1 h
    have hcompiles := compiles_of_piecesFrom hread
    rw [← String.toList_ofList (l := read.flatMap Piece.sql)] at hcompiles
    exact hcompiles
  · intro h
    obtain ⟨read, hread, hsql, hnames⟩ := exists_piecesFrom h 0
    have hstatement : CompiledStatement.ofPieces read = statement := by
      obtain ⟨sql, names⟩ := statement
      simp only [CompiledStatement.ofPieces, CompiledStatement.mk.injEq]
      exact ⟨by rw [hsql, String.ofList_toList], hnames⟩
    rw [compile, pieces, hread, ← hstatement]
    rfl

end ZoneStore.Template
