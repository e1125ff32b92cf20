import ZoneStore.Proofs.Template.Grammar

/-!
# Templates in parts

A template that compiles can be cut off in front: what is behind it compiles as it would alone, with
its faults moved by the bytes in front (`compile_append`). The one place where a cut matters is
inside a name, which what follows would go on with.

The pieces of the whole are not always those of the parts, since a literal at the end of the first
part and one at the start of the second are read as one literal. What they stand for is the same, so
everything here is about the statement that is read from a text (`compileFrom`).
-/

set_option autoImplicit false

namespace ZoneStore

/-- Statement texts one after the other, with the parameters of both. -/
instance : Append CompiledStatement := ⟨fun s t => ⟨s.sql ++ t.sql, s.names ++ t.names⟩⟩

namespace CompiledStatement

variable {s t : CompiledStatement}

@[simp] theorem sql_append : (s ++ t).sql = s.sql ++ t.sql := rfl

@[simp] theorem names_append : (s ++ t).names = s.names ++ t.names := rfl

theorem ext_iff : s = t ↔ s.sql = t.sql ∧ s.names = t.names := by
  cases s
  cases t
  exact CompiledStatement.mk.injEq .. ▸ Iff.rfl

theorem empty_append (s : CompiledStatement) : ⟨"", []⟩ ++ s = s :=
  ext_iff.2 ⟨String.empty_append, rfl⟩

theorem append_assoc (s t u : CompiledStatement) : s ++ t ++ u = s ++ (t ++ u) :=
  ext_iff.2 ⟨String.append_assoc, List.append_assoc _ _ _⟩

/-- Pieces one after the other stand for their statements one after the other. -/
theorem ofPieces_append (front back : List Template.Piece) :
    ofPieces (front ++ back) = ofPieces front ++ ofPieces back :=
  ext_iff.2 ⟨by simp [ofPieces], by simp [ofPieces]⟩

end CompiledStatement

namespace Template

/-! ## Pieces in front of a text -/

/-- A text of one or more characters of the name range. -/
def IsName (name : List Char) : Prop := name ≠ [] ∧ ∀ c ∈ name, InNameRange c

/-- The text starts with a character of the name range. -/
def StartsInName (text : List Char) : Prop := ∃ c rest, text = c :: rest ∧ InNameRange c

/-- The piece can stand in front of the text: a placeholder has a name, which the text does not go
on with. -/
def Piece.Precedes : Piece → List Char → Prop
  | plain c, _ => c ≠ ':' ∧ c ≠ '\''
  | colon, _ => True
  | placeholder name, text => IsName name ∧ ¬ StartsInName text
  | literal _, _ => True

theorem Piece.Precedes.mono {piece : Piece} {text text' : List Char} (h : piece.Precedes text)
    (hstart : StartsInName text' → StartsInName text) : piece.Precedes text' := by
  cases piece with
  | placeholder name => exact ⟨h.1, fun hname => h.2 (hstart hname)⟩
  | plain c => exact h
  | colon => exact h
  | literal content => exact h

theorem StartsInName.append {text : List Char} (h : StartsInName text) (more : List Char) :
    StartsInName (text ++ more) := by
  obtain ⟨c, rest, rfl, hc⟩ := h
  exact ⟨c, rest ++ more, rfl, hc⟩

/-- Behind a text with a first character it does not matter what follows. -/
theorem StartsInName.of_append {text more : List Char} (h : StartsInName (text ++ more))
    (hne : text ≠ []) : StartsInName text := by
  obtain ⟨d, rest, rfl⟩ := List.exists_cons_of_ne_nil hne
  obtain ⟨c, after, heq, hc⟩ := h
  exact ⟨d, rest, rfl, (List.cons.inj heq).1 ▸ hc⟩

theorem Compiles.cons {piece : Piece} {rest sql : List Char} {names : List String}
    (hpiece : piece.Precedes rest) (h : Compiles rest sql names) :
    Compiles (piece.source ++ rest) (piece.sql ++ sql) (piece.name?.toList ++ names) := by
  cases piece with
  | plain c => exact .plain hpiece.1 hpiece.2 h
  | colon => exact .colon h
  | literal content => exact .literal content h
  | placeholder name =>
    refine .placeholder hpiece.1.1 hpiece.1.2 ?_ h
    rintro c after rfl hc
    exact hpiece.2 ⟨c, after, rfl, hc⟩

/-- What holds of the empty template, and of a template with one more piece in front, holds of every
template. -/
@[elab_as_elim] theorem Compiles.induction
    {motive : ∀ text sql names, Compiles text sql names → Prop} (nil : motive [] [] [] .done)
    (cons : ∀ (piece : Piece) (rest sql : List Char) (names : List String)
      (hpiece : piece.Precedes rest) (h : Compiles rest sql names), motive rest sql names h →
      motive (piece.source ++ rest) (piece.sql ++ sql) (piece.name?.toList ++ names)
        (h.cons hpiece))
    {text sql : List Char} {names : List String} (h : Compiles text sql names) :
    motive text sql names h := by
  induction h with
  | done => exact nil
  | @plain c rest sql names hcolon hquote h ih =>
    exact cons (.plain c) rest sql names ⟨hcolon, hquote⟩ h ih
  | @colon rest sql names h ih => exact cons .colon rest sql names trivial h ih
  | @literal content rest sql names h ih => exact cons (.literal content) rest sql names trivial h ih
  | @placeholder name rest sql names hne hname hstop h ih =>
    refine cons (.placeholder name) rest sql names ⟨⟨hne, hname⟩, ?_⟩ h ih
    rintro ⟨c, after, hrest, hc⟩
    exact hstop c after hrest hc

/-! ## Reading piece by piece -/

/-- The statement that is read from a text at a byte offset, or the first fault. -/
def compileFrom (position : Nat) (text : List Char) : Except Malformed CompiledStatement :=
  (piecesFrom position text).map CompiledStatement.ofPieces

/-- What the pieces behind a first piece stand for comes behind what that piece stands for. -/
theorem map_ofPieces_cons (piece : Piece) (read : Except Malformed (List Piece)) :
    (read.map (piece :: ·)).map CompiledStatement.ofPieces =
      (read.map CompiledStatement.ofPieces).map (CompiledStatement.ofPieces [piece] ++ ·) := by
  cases read with
  | error fault => rfl
  | ok pieces => exact congrArg Except.ok (CompiledStatement.ofPieces_append [piece] pieces)

/-- A text that starts with a quote and has no closing one is refused at its end. -/
theorem piecesFrom_unclosed (position : Nat) {rest : List Char} (h : literal? rest = none) :
    piecesFrom position ('\'' :: rest) =
      .error ⟨position + byteLength ('\'' :: rest), .unterminatedLiteral⟩ := by
  rw [piecesFrom.eq_def]
  simp only [if_true]
  split
  · rfl
  · rename_i content after hsome
    rw [h] at hsome
    cases hsome

/-- A literal that another one follows is read as one literal with it, which stands for the same. -/
theorem compileFrom_literal_quote (position : Nat) (content after : List Char) :
    compileFrom position (Piece.literalText content ++ '\'' :: after) =
      (compileFrom (position + byteLength (Piece.literalText content)) ('\'' :: after)).map
        (CompiledStatement.ofPieces [.literal content] ++ ·) := by
  have htext : Piece.literalText content ++ '\'' :: after =
      '\'' :: (doubleQuotes content ++ '\'' :: '\'' :: after) := by
    simp [Piece.literalText]
  cases hsecond : literal? after with
  | none =>
    -- Neither text is closed, and both end in the same place.
    have hunclosed : literal? (doubleQuotes content ++ '\'' :: '\'' :: after) = none := by
      rw [literal?_append]
      simp [hsecond]
    rw [compileFrom, compileFrom, piecesFrom_unclosed _ hsecond, htext,
      piecesFrom_unclosed _ hunclosed, ← htext, byteLength_append, Nat.add_assoc]
    rfl
  | some closed =>
    obtain ⟨second, tail⟩ := closed
    have hclosed : literal? (doubleQuotes content ++ '\'' :: '\'' :: after) =
        some (content ++ '\'' :: second, tail) := by
      rw [literal?_append]
      simp [hsecond]
    have hjoined : CompiledStatement.ofPieces [.literal (content ++ '\'' :: second)] =
        CompiledStatement.ofPieces [.literal content] ++
          CompiledStatement.ofPieces [.literal second] := by
      rw [← CompiledStatement.ofPieces_append]
      refine CompiledStatement.ext_iff.2 ⟨?_, rfl⟩
      simp [CompiledStatement.ofPieces, Piece.sql, ← literalText_append]
    rw [compileFrom, compileFrom, htext, piecesFrom_literal _ hclosed, piecesFrom_literal _ hsecond,
      map_ofPieces_cons, map_ofPieces_cons, hjoined, ← literalText_append, byteLength_append,
      Nat.add_assoc]
    cases piecesFrom (position + (byteLength (Piece.literalText content) +
        byteLength (Piece.literalText second))) tail with
    | error fault => rfl
    | ok pieces => exact congrArg Except.ok (CompiledStatement.append_assoc _ _ _)

/-- A piece in front of a text adds what it stands for, and its bytes. -/
theorem compileFrom_source {piece : Piece} {rest : List Char} (h : piece.Precedes rest)
    (position : Nat) : compileFrom position (piece.source ++ rest) =
      (compileFrom (position + byteLength piece.source) rest).map
        (CompiledStatement.ofPieces [piece] ++ ·) := by
  -- Where the piece is read back as itself, the pieces behind it are those of the text.
  have hread (hpieces : piecesFrom position (piece.source ++ rest) =
      (piecesFrom (position + byteLength piece.source) rest).map (piece :: ·)) :
      compileFrom position (piece.source ++ rest) =
        (compileFrom (position + byteLength piece.source) rest).map
          (CompiledStatement.ofPieces [piece] ++ ·) := by
    rw [compileFrom, hpieces, map_ofPieces_cons]
    rfl
  cases piece with
  | plain c =>
    refine hread ?_
    rw [piecesFrom.eq_def]
    simp [Piece.source, h.1, h.2, byteLength]
  | colon =>
    refine hread ?_
    have hbytes : byteLength Piece.colon.source = 2 := rfl
    rw [piecesFrom.eq_def, hbytes]
    simp [Piece.source]
  | placeholder name =>
    obtain ⟨⟨hne, hname⟩, hstop⟩ := h
    obtain ⟨d, name, rfl⟩ := List.exists_cons_of_ne_nil hne
    have hd : InNameRange d := hname d List.mem_cons_self
    have hcolon : d ≠ ':' := by
      rintro rfl
      exact absurd hd (by simp [InNameRange])
    obtain ⟨htake, hdrop⟩ := takeWhile_name (fun c hc => hname c (List.mem_cons_of_mem d hc))
      fun c after hrest hc => hstop ⟨c, after, hrest, hc⟩
    have hbytes : byteLength (Piece.placeholder (d :: name)).source =
        1 + byteLength (d :: name) := rfl
    refine hread ?_
    rw [piecesFrom.eq_def, hbytes, ← Nat.add_assoc]
    simp [Piece.source, hcolon, isNameChar_iff.2 hd, htake, hdrop]
  | literal content =>
    by_cases hquote : ∃ after, rest = '\'' :: after
    · obtain ⟨after, rfl⟩ := hquote
      exact compileFrom_literal_quote position content after
    · have hclosed : literal? (doubleQuotes content ++ '\'' :: rest) = some (content, rest) := by
        rw [literal?_append]
        cases rest with
        | nil => rfl
        | cons d after =>
          have hd : d ≠ '\'' := by
            rintro rfl
            exact hquote ⟨after, rfl⟩
          simp [hd]
      have htext : Piece.literalText content ++ rest =
          '\'' :: (doubleQuotes content ++ '\'' :: rest) := by
        simp [Piece.literalText]
      refine hread ?_
      rw [Piece.source, htext, piecesFrom_literal position hclosed]

/-! ## Faults behind a text -/

/-- A fault with so many bytes in front of the text. -/
def Malformed.behind (bytes : Nat) (fault : Malformed) : Malformed :=
  { fault with position := bytes + fault.position }

/-- Reading at a later offset moves the fault, and nothing else. -/
theorem piecesFrom_add (bytes position : Nat) (text : List Char) :
    piecesFrom (bytes + position) text =
      (piecesFrom position text).mapError (Malformed.behind bytes) := by
  have hmap (piece : Piece) (read : Except Malformed (List Piece)) :
      ((read.map (piece :: ·)).mapError (Malformed.behind bytes)) =
        (read.mapError (Malformed.behind bytes)).map (piece :: ·) := by
    cases read <;> rfl
  fun_induction piecesFrom position text with
  | case1 => rw [piecesFrom.eq_def]; rfl
  | case2 position rest hnone =>
    rw [piecesFrom_unclosed _ hnone, Nat.add_assoc]
    rfl
  | case3 position rest content after hclosed ih =>
    rw [piecesFrom_literal _ hclosed, hmap, ← ih, Nat.add_assoc]
  | case4 position => rw [piecesFrom.eq_def]; simp [Except.mapError, Malformed.behind]
  | case5 position _ after ih =>
    rw [piecesFrom.eq_def, hmap, ← ih, Nat.add_assoc]
    simp
  | case6 position d after hcolon hname name _ ih =>
    rw [piecesFrom.eq_def, hmap, ← ih]
    simp [hcolon, hname, name, Nat.add_assoc]
  | case7 position d after hcolon hname =>
    rw [piecesFrom.eq_def]
    simp [hcolon, hname, Except.mapError, Malformed.behind]
  | case8 position c rest hquote hcolon ih =>
    rw [piecesFrom.eq_def, hmap, ← ih]
    simp [hquote, hcolon, Nat.add_assoc]

theorem compileFrom_add (bytes position : Nat) (text : List Char) :
    compileFrom (bytes + position) text =
      (compileFrom position text).mapError (Malformed.behind bytes) := by
  rw [compileFrom, compileFrom, piecesFrom_add]
  cases piecesFrom position text <;> rfl

/-! ## Templates one behind the other -/

/-- The text ends in a placeholder: what is in front of it is a template. -/
def EndsInPlaceholder (text : List Char) : Prop :=
  ∃ front name sql names, text = front ++ ':' :: name ∧ IsName name ∧ Compiles front sql names

theorem EndsInPlaceholder.cons {piece : Piece} {rest : List Char} (h : EndsInPlaceholder rest)
    (hpiece : piece.Precedes rest) : EndsInPlaceholder (piece.source ++ rest) := by
  obtain ⟨front, name, sql, names, rfl, hname, hfront⟩ := h
  have hstart := hpiece.mono fun hstart : StartsInName front => hstart.append (':' :: name)
  exact ⟨piece.source ++ front, name, _, _, (List.append_assoc _ _ _).symm, hname,
    hfront.cons hstart⟩

/-- A piece that stands in front of a template stands there also if a text follows, unless that goes
on with the name of a placeholder at the end. -/
theorem Piece.Precedes.append {piece : Piece} {text : List Char} (h : piece.Precedes text)
    {rest : List Char} (hcut : ¬ (EndsInPlaceholder (piece.source ++ text) ∧ StartsInName rest)) :
    piece.Precedes (text ++ rest) := by
  cases text with
  | cons c after => exact h.mono fun hstart => hstart.of_append (List.cons_ne_nil c after)
  | nil =>
    cases piece with
    | placeholder name =>
      refine ⟨h.1, fun hstart => hcut ⟨⟨[], name, [], [], ?_, h.1, .done⟩, hstart⟩⟩
      exact List.append_nil _
    | plain c => exact h
    | colon => exact h
    | literal content => exact h

/-- What a template stands for comes in front of what the text behind it stands for. -/
theorem compileFrom_append {text sql : List Char} {names : List String}
    (h : Compiles text sql names) {rest : List Char}
    (hcut : ¬ (EndsInPlaceholder text ∧ StartsInName rest)) (position : Nat) :
    compileFrom position (text ++ rest) =
      (compileFrom (position + byteLength text) rest).map (⟨String.ofList sql, names⟩ ++ ·) := by
  induction h using Compiles.induction generalizing position with
  | nil =>
    show compileFrom position rest = (compileFrom position rest).map (⟨"", []⟩ ++ ·)
    cases compileFrom position rest with
    | error fault => rfl
    | ok statement => exact congrArg Except.ok statement.empty_append.symm
  | cons piece text sql names hpiece _ ih =>
    have htail := ih fun htext => hcut ⟨htext.1.cons hpiece, htext.2⟩
    have hfront : (⟨String.ofList (piece.sql ++ sql), piece.name?.toList ++ names⟩ :
        CompiledStatement) = CompiledStatement.ofPieces [piece] ++ ⟨String.ofList sql, names⟩ := by
      refine CompiledStatement.ext_iff.2 ⟨?_, ?_⟩
      · simp [CompiledStatement.ofPieces]
      · cases hname : piece.name? <;> simp [CompiledStatement.ofPieces, hname]
    rw [List.append_assoc, compileFrom_source (hpiece.append hcut), htail, byteLength_append,
      Nat.add_assoc, hfront]
    cases compileFrom (position + (byteLength piece.source + byteLength text)) rest with
    | error fault => rfl
    | ok statement => exact congrArg Except.ok (CompiledStatement.append_assoc _ _ _).symm

/-- The bytes of a text are those of its characters. -/
theorem utf8ByteSize_ofList (text : List Char) :
    (String.ofList text).utf8ByteSize = byteLength text := by
  induction text with
  | nil => rfl
  | cons c rest ih =>
    rw [String.ofList_cons, String.utf8ByteSize_append, String.utf8ByteSize_singleton, ih]
    rfl

theorem compile_eq_compileFrom (template : String) :
    compile template = compileFrom 0 template.toList := rfl

theorem compiles_of_compile {template : String} {statement : CompiledStatement}
    (h : compile template = .ok statement) :
    Compiles template.toList statement.sql.toList statement.names := by
  obtain ⟨read, hread, rfl⟩ := map_eq_ok_iff.1 h
  have hcompiles := compiles_of_piecesFrom hread
  rw [← String.toList_ofList (l := read.flatMap Piece.sql)] at hcompiles
  exact hcompiles

/-- A text of the grammar compiles to the statement that it stands for. -/
theorem compile_of_compiles {text sql : List Char} {names : List String}
    (h : Compiles text sql names) :
    compile (String.ofList text) = .ok ⟨String.ofList sql, names⟩ := by
  obtain ⟨read, hread, rfl, rfl⟩ := exists_piecesFrom h 0
  rw [compile, pieces, String.toList_ofList, hread]
  rfl

/-- Templates in parts. Behind a template, a text compiles exactly if it does so alone, and then the
statement is that of the template and behind it that of the text, with the parameters of both. If
the text has a fault, the same one is reported of the whole, behind the bytes of the template. The
text may only not go on with the name of a placeholder at the end of the template. -/
theorem compile_append {a b : String} {s : CompiledStatement} (h : compile a = .ok s)
    (hcut : ¬ (EndsInPlaceholder a.toList ∧ StartsInName b.toList)) :
    ((∃ t, compile (a ++ b) = .ok t) ↔ ∃ t, compile b = .ok t) ∧
      (∀ t, compile b = .ok t →
        compile (a ++ b) = .ok ⟨s.sql ++ t.sql, s.names ++ t.names⟩) ∧
      ∀ fault, compile b = .error fault →
        compile (a ++ b) = .error ⟨a.utf8ByteSize + fault.position, fault.reason⟩ := by
  have hsize : byteLength a.toList = a.utf8ByteSize := by
    rw [← utf8ByteSize_ofList, String.ofList_toList]
  have hwhole : compile (a ++ b) =
      ((compile b).mapError (Malformed.behind a.utf8ByteSize)).map (s ++ ·) := by
    rw [compile_eq_compileFrom, String.toList_append,
      compileFrom_append (compiles_of_compile h) hcut, Nat.zero_add, ← Nat.add_zero (byteLength _),
      compileFrom_add, hsize, String.ofList_toList]
    rfl
  rw [hwhole]
  cases compile b with
  | error fault =>
    refine ⟨iff_of_false nofun nofun, nofun, ?_⟩
    rintro _ ⟨⟩
    rfl
  | ok t =>
    refine ⟨iff_of_true ⟨_, rfl⟩ ⟨t, rfl⟩, ?_, nofun⟩
    rintro _ ⟨⟩
    rfl

/-- The cut goes through a doubled quote, behind a character of two bytes. -/
theorem compile_append_quotes :
    compile "é='it'" = .ok ⟨"é='it'", []⟩ ∧
      ¬ (EndsInPlaceholder "é='it'".toList ∧ StartsInName "'s'=:n".toList) ∧
      compile ("é='it'" ++ "'s'=:n") = .ok ⟨"é='it''s'=?", ["n"]⟩ ∧
      compile ("é='it'" ++ "'s'=: n") = .error ⟨11, .expectedName ' '⟩ := by
  have hfront : compile "é='it'" = .ok ⟨"é='it'", []⟩ := by decide +kernel
  have hquote (text : List Char) : ¬ StartsInName ('\'' :: text) := by
    rintro ⟨c, rest, heq, hc⟩
    obtain rfl := (List.cons.inj heq).1
    exact absurd hc (by simp [InNameRange])
  have hcut := fun h : EndsInPlaceholder "é='it'".toList ∧ StartsInName "'s'=:n".toList =>
    hquote _ h.2
  obtain ⟨-, hok, -⟩ := compile_append hfront hcut
  obtain ⟨-, -, herror⟩ := compile_append (b := "'s'=: n") hfront fun h => hquote _ h.2
  exact ⟨hfront, hcut, hok ⟨"'s'=?", ["n"]⟩ (by decide +kernel),
    herror ⟨4, .expectedName ' '⟩ (by decide +kernel)⟩

end Template

end ZoneStore
