import ZoneStore.Proofs.Template.Composition

/-!
# Faults of templates

A text that is no template is one up to a certain place, where it goes on with a colon that neither
a colon nor a name follows, or with a literal that is not closed (`FailsAt`). So a colon is reported
at its own place, and everything in front of it is a template; what stands behind the character that
was found there is never looked at. A literal that is not closed is reported at the end of the text,
and one more quote closes it (`compile_eq_error_iff`).

Every text that is not empty starts with a piece or fails at once (`startsWithPiece_or_failsAt`),
and the pieces in front of a fault make it lie further behind (`FailsAt.cons`). So by induction on
its length a text is a template or fails, and not both.
-/

set_option autoImplicit false

namespace ZoneStore.Template

/-! ## Literals that are not closed -/

/-- The text of a content does not close its literal. -/
theorem literal?_doubleQuotes (content : List Char) : literal? (doubleQuotes content) = none := by
  induction content with
  | nil => rfl
  | cons c content ih =>
    by_cases hc : c = '\''
    · rw [doubleQuotes, if_pos hc, literal?.eq_def]
      simp [ih]
    · rw [doubleQuotes, if_neg hc, literal?.eq_def]
      simp [hc, ih]

/-- What does not close a literal is the text of a content. -/
theorem eq_doubleQuotes_of_literal? {text : List Char} (h : literal? text = none) :
    ∃ content, text = doubleQuotes content := by
  fun_induction literal? text with
  | case1 => exact ⟨[], rfl⟩
  | case2 => cases h
  | case3 rest ih =>
    obtain ⟨content, rfl⟩ := ih (Option.map_eq_none_iff.1 h)
    exact ⟨'\'' :: content, rfl⟩
  | case4 => cases h
  | case5 c rest hc ih =>
    obtain ⟨content, rfl⟩ := ih (Option.map_eq_none_iff.1 h)
    exact ⟨c :: content, by rw [doubleQuotes, if_neg hc]⟩

/-! ## Where a text fails -/

/-- The text is a template up to a place where it cannot go on as one, and this is its fault. -/
inductive FailsAt : List Char → Malformed → Prop
  /-- Behind a colon there is neither a colon nor a name. -/
  | unnamed {front sql : List Char} {names : List String} {found : Char} (back : List Char) :
      Compiles front sql names → found ≠ ':' → ¬ InNameRange found →
      FailsAt (front ++ ':' :: found :: back) ⟨byteLength front, .expectedName found⟩
  /-- Behind a colon there is nothing. -/
  | bare {front sql : List Char} {names : List String} : Compiles front sql names →
      FailsAt (front ++ [':']) ⟨byteLength front, .endsWithColon⟩
  /-- Behind a quote there is the content of a literal, and nothing else. -/
  | unclosed {front sql : List Char} {names : List String} (content : List Char) :
      Compiles front sql names →
      FailsAt (front ++ '\'' :: doubleQuotes content)
        ⟨byteLength (front ++ '\'' :: doubleQuotes content), .unterminatedLiteral⟩

/-- A piece in front of a text makes its fault lie further behind. -/
theorem FailsAt.cons {piece : Piece} {text : List Char} {fault : Malformed} (h : FailsAt text fault)
    (hpiece : piece.Precedes text) :
    FailsAt (piece.source ++ text) (fault.behind (byteLength piece.source)) := by
  have hfront {front back : List Char} (htext : text = front ++ back) : piece.Precedes front :=
    hpiece.mono fun hstart => htext ▸ hstart.append back
  cases h with
  | unnamed back h hcolon hname =>
    have hmore := FailsAt.unnamed back (h.cons (hfront rfl)) hcolon hname
    rwa [List.append_assoc, byteLength_append] at hmore
  | bare h =>
    have hmore := FailsAt.bare (h.cons (hfront rfl))
    rwa [List.append_assoc, byteLength_append] at hmore
  | unclosed content h =>
    have hmore := FailsAt.unclosed content (h.cons (hfront rfl))
    rwa [List.append_assoc, byteLength_append] at hmore

/-- A text that is not empty starts with a piece, or fails with nothing in front of the fault. -/
theorem startsWithPiece_or_failsAt (c : Char) (rest : List Char) :
    (∃ piece after, c :: rest = Piece.source piece ++ after ∧ piece.Precedes after) ∨
      ∃ fault, FailsAt (c :: rest) fault := by
  by_cases hquote : c = '\''
  · subst hquote
    cases hliteral : literal? rest with
    | none =>
      obtain ⟨content, rfl⟩ := eq_doubleQuotes_of_literal? hliteral
      exact Or.inr ⟨_, .unclosed content .done⟩
    | some read =>
      refine Or.inl ⟨.literal read.1, read.2, ?_, trivial⟩
      rw [eq_of_literal? hliteral]
      simp [Piece.source, Piece.literalText]
  · by_cases hcolon : c = ':'
    · subst hcolon
      cases rest with
      | nil => exact Or.inr ⟨_, .bare .done⟩
      | cons d after =>
        by_cases hd : d = ':'
        · subst hd
          exact Or.inl ⟨.colon, after, rfl, trivial⟩
        · by_cases hname : isNameChar d = true
          · -- The piece has the longest name, so what follows does not go on with it.
            refine Or.inl ⟨.placeholder (d :: after.takeWhile isNameChar),
              after.dropWhile isNameChar, ?_, ⟨List.cons_ne_nil _ _, ?_⟩, ?_⟩
            · simp [Piece.source]
            · exact List.forall_mem_cons.2 ⟨isNameChar_iff.1 hname, inNameRange_of_mem_takeWhile⟩
            · rintro ⟨e, back, heq, he⟩
              exact not_inNameRange_of_dropWhile e back heq he
          · exact Or.inr ⟨_, .unnamed after .done hd (fun h => hname (isNameChar_iff.2 h))⟩
    · exact Or.inl ⟨.plain c, rest, rfl, hcolon, hquote⟩

theorem Piece.source_ne_nil (piece : Piece) : piece.source ≠ [] := by
  cases piece <;> exact List.cons_ne_nil _ _

/-- A text is a template, or it fails somewhere. -/
theorem compiles_or_failsAt (text : List Char) :
    (∃ sql names, Compiles text sql names) ∨ ∃ fault, FailsAt text fault := by
  induction hlength : text.length using Nat.strongRecOn generalizing text with
  | ind n ih =>
    cases text with
    | nil => exact Or.inl ⟨[], [], .done⟩
    | cons c rest =>
      rcases startsWithPiece_or_failsAt c rest with ⟨piece, after, htext, hpiece⟩ | hfault
      · have hsource := List.length_pos_iff.2 piece.source_ne_nil
        have hshorter : after.length < n := by
          rw [← hlength, htext, List.length_append]
          omega
        rw [htext]
        rcases ih _ hshorter after rfl with ⟨sql, names, hafter⟩ | ⟨fault, hafter⟩
        · exact Or.inl ⟨_, _, hafter.cons hpiece⟩
        · exact Or.inr ⟨_, hafter.cons hpiece⟩
      · exact Or.inr hfault

/-! ## What is reported -/

theorem not_startsInName {c : Char} (hc : ¬ InNameRange c) (rest : List Char) :
    ¬ StartsInName (c :: rest) := by
  rintro ⟨d, after, heq, hd⟩
  exact hc ((List.cons.inj heq).1 ▸ hd)

theorem not_inNameRange_colon : ¬ InNameRange ':' := by simp [InNameRange]

theorem not_inNameRange_quote : ¬ InNameRange '\'' := by simp [InNameRange]

/-- What is behind a template has the fault of the whole, unless it goes on with a name. -/
theorem compileFrom_error_append {front sql : List Char} {names : List String}
    (h : Compiles front sql names) {c : Char} {rest : List Char} (hc : ¬ InNameRange c)
    {fault : Malformed} (hrest : compileFrom (byteLength front) (c :: rest) = .error fault) :
    compileFrom 0 (front ++ c :: rest) = .error fault := by
  rw [compileFrom_append h (fun hcut => not_startsInName hc _ hcut.2), Nat.zero_add, hrest]
  rfl

theorem FailsAt.reported {text : List Char} {fault : Malformed} (h : FailsAt text fault) :
    compileFrom 0 text = .error fault := by
  cases h with
  | @unnamed front _ _ found back h hcolon hname =>
    have hread : isNameChar found = false := Bool.eq_false_iff.2 (mt isNameChar_iff.1 hname)
    apply compileFrom_error_append h not_inNameRange_colon
    rw [compileFrom, piecesFrom.eq_def]
    simp [hcolon, hread, Except.map]
  | bare h =>
    apply compileFrom_error_append h not_inNameRange_colon
    rw [compileFrom, piecesFrom.eq_def]
    simp [Except.map]
  | unclosed content h =>
    apply compileFrom_error_append h not_inNameRange_quote
    rw [compileFrom, piecesFrom_unclosed _ (literal?_doubleQuotes content), byteLength_append]
    rfl

/-- The places where a text fails are the ones that are reported. -/
theorem compileFrom_eq_error_iff {text : List Char} {fault : Malformed} :
    compileFrom 0 text = .error fault ↔ FailsAt text fault := by
  constructor
  · intro h
    rcases compiles_or_failsAt text with ⟨sql, names, htext⟩ | ⟨fault', htext⟩
    · obtain ⟨pieces, hpieces, -⟩ := exists_piecesFrom htext 0
      rw [compileFrom, hpieces] at h
      cases h
    · obtain rfl := Except.error.inj (h.symm.trans htext.reported)
      exact htext
  · exact FailsAt.reported

/-- A text has a literal that is not closed exactly if it is a template with one more quote. -/
theorem failsAt_unterminated_iff {text : List Char} {position : Nat} :
    FailsAt text ⟨position, .unterminatedLiteral⟩ ↔
      position = byteLength text ∧ ∃ s, compileFrom 0 (text ++ ['\'']) = .ok s := by
  constructor
  · intro h
    cases h with
    | @unclosed front _ _ content h =>
      refine ⟨rfl, ?_⟩
      have hclosed : front ++ '\'' :: doubleQuotes content ++ ['\''] =
          front ++ ((Piece.literal content).source ++ []) := by
        simp [Piece.source, Piece.literalText]
      have hnil (position : Nat) : compileFrom position [] = .ok ⟨"", []⟩ := by
        rw [compileFrom, piecesFrom.eq_def]
        rfl
      have hcut : ¬ StartsInName ((Piece.literal content).source ++ []) :=
        not_startsInName not_inNameRange_quote _
      have hpiece : (Piece.literal content).Precedes [] := trivial
      rw [hclosed, compileFrom_append h (fun h => hcut h.2), compileFrom_source hpiece, hnil]
      exact ⟨_, rfl⟩
  · rintro ⟨rfl, s, hs⟩
    have not_failsAt {fault : Malformed} (h : FailsAt (text ++ ['\'']) fault) : False := by
      cases hs.symm.trans h.reported
    rcases compiles_or_failsAt text with ⟨sql, names, htext⟩ | ⟨fault, htext⟩
    · -- A quote behind a template opens a literal.
      exact (not_failsAt (FailsAt.unclosed [] htext)).elim
    · cases htext with
      | unnamed back h hcolon hname =>
        have hmore := FailsAt.unnamed (back ++ ['\'']) h hcolon hname
        rw [← List.cons_append, ← List.cons_append, ← List.append_assoc] at hmore
        exact (not_failsAt hmore).elim
      | bare h =>
        have hmore := FailsAt.unnamed [] h (by decide) not_inNameRange_quote
        rw [← List.singleton_append, ← List.append_assoc] at hmore
        exact (not_failsAt hmore).elim
      | unclosed content h => exact .unclosed content h

/-- A fault of the template that is in a placeholder behind `front`, with `rest` behind its colon.
-/
structure FaultyPlaceholder (template : String) (fault : Malformed) (front rest : String) :
    Prop where
  /-- The fault is at a colon. -/
  split : template = front ++ ":" ++ rest
  /-- Its position is that of the colon. -/
  position : fault.position = front.utf8ByteSize
  /-- No character goes across the position. -/
  boundary : String.Pos.Raw.IsValid template ⟨fault.position⟩
  /-- What is in front of the colon compiles. -/
  compiles : ∃ s, compile front = .ok s
  /-- The colon is the last character, or followed by the one that the reason quotes, which neither
  is a colon nor starts a name; then every text that goes on like this one up to there has the same
  fault. -/
  reason : (rest = "" ∧ fault.reason = .endsWithColon ∧
      fault.reason.message = "template ends with ':'") ∨
    ∃ found back, rest = String.singleton found ++ back ∧ found ≠ ':' ∧ ¬ InNameRange found ∧
      fault.reason = .expectedName found ∧
      fault.reason.message = "expected parameter name after ':', found " ++ Text.quoted found ∧
      ∀ other, compile (front ++ ":" ++ String.singleton found ++ other) = .error fault

/-- The place of a colon is one between characters. -/
theorem isValid_colon (front rest : String) :
    String.Pos.Raw.IsValid (front ++ ":" ++ rest) ⟨front.utf8ByteSize⟩ := by
  have hend : front.rawEndPos.IsValid front := String.Pos.Raw.isValid_rawEndPos
  exact (hend.append_right ":").append_right rest

theorem compile_eq_error_iff_failsAt {text : String} {fault : Malformed} :
    compile text = .error fault ↔ FailsAt text.toList fault := compileFrom_eq_error_iff

/-- A colon that neither a colon nor a name follows is a fault in a placeholder. -/
theorem faultyPlaceholder_unnamed {front sql : List Char} {names : List String} {found : Char}
    (back : List Char) (h : Compiles front sql names) (hcolon : found ≠ ':')
    (hname : ¬ InNameRange found) :
    FaultyPlaceholder (.ofList (front ++ ':' :: found :: back))
      ⟨byteLength front, .expectedName found⟩ (.ofList front) (.ofList (found :: back)) := by
  have hsplit : String.ofList (front ++ ':' :: found :: back) =
      String.ofList front ++ ":" ++ String.ofList (found :: back) := by
    simp [← String.toList_inj]
  refine ⟨hsplit, (utf8ByteSize_ofList front).symm, ?_, ⟨_, compile_of_compiles h⟩, Or.inr ?_⟩
  · rw [hsplit, ← utf8ByteSize_ofList]
    exact isValid_colon _ _
  · refine ⟨found, .ofList back, String.ofList_cons, hcolon, hname, rfl, rfl, fun other => ?_⟩
    -- What stands behind the character that was found is looked at by neither of the two.
    have hother : (String.ofList front ++ ":" ++ String.singleton found ++ other).toList =
        front ++ ':' :: found :: other.toList := by simp
    rw [compile_eq_error_iff_failsAt, hother]
    exact .unnamed other.toList h hcolon hname

/-- A colon at the end is a fault in a placeholder. -/
theorem faultyPlaceholder_bare {front sql : List Char} {names : List String}
    (h : Compiles front sql names) :
    FaultyPlaceholder (.ofList (front ++ [':'])) ⟨byteLength front, .endsWithColon⟩
      (.ofList front) "" := by
  have hsplit : String.ofList (front ++ [':']) = String.ofList front ++ ":" ++ "" := by simp
  refine ⟨hsplit, (utf8ByteSize_ofList front).symm, ?_, ⟨_, compile_of_compiles h⟩,
    Or.inl ⟨rfl, rfl, rfl⟩⟩
  rw [hsplit, ← utf8ByteSize_ofList]
  exact isValid_colon _ _

/-- A fault in a placeholder is reported. -/
theorem FaultyPlaceholder.compile_eq {template front rest : String} {fault : Malformed}
    (h : FaultyPlaceholder template fault front rest) : compile template = .error fault := by
  obtain ⟨rfl, hposition, -, ⟨s, hs⟩, hreason⟩ := h
  rcases hreason with ⟨rfl, hreason, -⟩ | ⟨found, back, rfl, -, -, -, -, hother⟩
  · obtain ⟨position, reason⟩ := fault
    obtain rfl : position = front.utf8ByteSize := hposition
    obtain rfl : reason = .endsWithColon := hreason
    have hbare := FailsAt.bare (compiles_of_compile hs)
    rw [compile_eq_error_iff_failsAt, String.append_empty, String.toList_append]
    rwa [← utf8ByteSize_ofList, String.ofList_toList] at hbare
  · rw [← String.append_assoc]
    exact hother back

/-- A template is refused for a literal that is not closed, which one more quote would close, or
else at the first colon that is no part of a piece. -/
theorem compile_eq_error_iff (template : String) (fault : Malformed) :
    compile template = .error fault ↔
      (fault = ⟨template.utf8ByteSize, .unterminatedLiteral⟩ ∧
        ∃ s, compile (template ++ "'") = .ok s) ∨
      ∃ front rest, FaultyPlaceholder template fault front rest := by
  obtain ⟨text, rfl⟩ : ∃ text, template = String.ofList text := ⟨_, String.ofList_toList.symm⟩
  have hunclosed : FailsAt text ⟨(String.ofList text).utf8ByteSize, .unterminatedLiteral⟩ ↔
      ∃ s, compile (String.ofList text ++ "'") = .ok s := by
    rw [failsAt_unterminated_iff, compile_eq_compileFrom, String.toList_append,
      String.toList_ofList]
    exact and_iff_right (utf8ByteSize_ofList text)
  constructor
  · intro h
    rw [compile_eq_error_iff_failsAt, String.toList_ofList] at h
    cases h with
    | unnamed back h hcolon hname =>
      exact Or.inr ⟨_, _, faultyPlaceholder_unnamed back h hcolon hname⟩
    | bare h => exact Or.inr ⟨_, _, faultyPlaceholder_bare h⟩
    | unclosed content h =>
      rw [← utf8ByteSize_ofList]
      refine Or.inl ⟨rfl, hunclosed.1 ?_⟩
      rw [utf8ByteSize_ofList]
      exact .unclosed content h
  · rintro (⟨rfl, hclosed⟩ | ⟨front, rest, hfault⟩)
    · rw [compile_eq_error_iff_failsAt, String.toList_ofList]
      exact hunclosed.2 hclosed
    · exact hfault.compile_eq

/-- Neither the colons in a literal nor a pair of them is a fault. -/
example : compile "é='::'::x : b" = .error ⟨11, .expectedName ' '⟩ := by decide +kernel

end ZoneStore.Template
