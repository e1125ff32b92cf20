import ZoneStore.Proofs.Template.Composition
import ZoneStore.Statement.Arguments

/-!
# Markers of parameters

The markers of a statement are the question marks of its text that lie outside literals (`markers`).
Each placeholder of a template gives one. But a question mark that the template has itself outside
its literals is copied, and is a marker then which no value is meant for: the markers are those of
the placeholders and those of the template (`Template.markers_compiled`), so the values that are
bound are as many as the markers exactly if the template has none.
-/

set_option autoImplicit false

namespace ZoneStore.Template

/-! ## Markers of a text -/

/-- The places of the question marks outside literals in a text that starts at the given place,
inside a literal or not. -/
def markersFrom (quoted : Bool) (place : Nat) : List Char → List Nat
  | [] => []
  | c :: rest =>
    if c = '\'' then markersFrom (!quoted) (place + 1) rest
    else if c = '?' ∧ quoted = false then place :: markersFrom quoted (place + 1) rest
    else markersFrom quoted (place + 1) rest

/-- The places of the question marks of a text that lie outside its literals. -/
def markers (text : String) : List Nat := markersFrom false 0 text.toList

/-- Between the quotes of a literal there is no marker. -/
theorem markersFrom_doubleQuotes (content rest : List Char) (place : Nat) :
    markersFrom true place (doubleQuotes content ++ rest) =
      markersFrom true (place + (doubleQuotes content).length) rest := by
  induction content generalizing place with
  | nil => rfl
  | cons c content ih =>
    by_cases hc : c = '\''
    · simp only [doubleQuotes, if_pos hc, List.cons_append, markersFrom, Bool.not_true,
        Bool.not_false, if_true, List.length_cons]
      rw [ih]
      congr 1
      omega
    · simp only [doubleQuotes, if_neg hc, List.cons_append, markersFrom, List.length_cons]
      simp only [Bool.true_eq_false, and_false, if_false]
      rw [ih]
      congr 1
      omega

theorem markersFrom_literalText (content rest : List Char) (place : Nat) :
    markersFrom false place (Piece.literalText content ++ rest) =
      markersFrom false (place + (Piece.literalText content).length) rest := by
  have htext : Piece.literalText content ++ rest =
      '\'' :: (doubleQuotes content ++ '\'' :: rest) := by
    simp [Piece.literalText]
  rw [htext, markersFrom, if_pos rfl, Bool.not_false, markersFrom_doubleQuotes, markersFrom,
    if_pos rfl, Bool.not_true]
  congr 1
  simp only [Piece.literalText, List.length_append, List.length_cons, List.length_nil]
  omega

/-- Names have no marker. -/
theorem markersFrom_name {name : List Char} (hname : ∀ c ∈ name, InNameRange c) (rest : List Char)
    (place : Nat) :
    markersFrom false place (name ++ rest) = markersFrom false (place + name.length) rest := by
  induction name generalizing place with
  | nil => rfl
  | cons c name ih =>
    have hc := hname c List.mem_cons_self
    have hquote : c ≠ '\'' := by
      rintro rfl
      exact absurd hc (by simp [InNameRange])
    have hmark : c ≠ '?' := by
      rintro rfl
      exact absurd hc (by simp [InNameRange])
    rw [List.cons_append, markersFrom, if_neg hquote, if_neg fun h => hmark h.1,
      ih fun c hc => hname c (List.mem_cons_of_mem _ hc), List.length_cons]
    congr 1
    omega

/-! ## Markers of templates and their statements -/

/-- The places of the markers that a piece gives at the given place. -/
def Piece.markersAt (place : Nat) (piece : Piece) : List Nat :=
  match piece with
  | plain c => if c = '?' then [place] else []
  | placeholder _ => [place]
  | _ => []

/-- The place of the marker that a piece is in its template, if it is one. -/
def Piece.ownMarkersAt (place : Nat) (piece : Piece) : List Nat :=
  match piece with
  | plain c => if c = '?' then [place] else []
  | _ => []

theorem markersFrom_plain {c : Char} (hc : c ≠ '\'') (rest : List Char) (place : Nat) :
    markersFrom false place (c :: rest) =
      (if c = '?' then [place] else []) ++ markersFrom false (place + 1) rest := by
  rw [markersFrom, if_neg hc]
  by_cases hmark : c = '?'
  · rw [if_pos ⟨hmark, rfl⟩, if_pos hmark]
    rfl
  · rw [if_neg fun h => hmark h.1, if_neg hmark]
    rfl

theorem markersFrom_sql {piece : Piece} {text : List Char} (h : piece.Precedes text)
    (rest : List Char) (place : Nat) :
    markersFrom false place (piece.sql ++ rest) =
      piece.markersAt place ++ markersFrom false (place + piece.sql.length) rest := by
  cases piece with
  | plain c => exact markersFrom_plain h.2 rest place
  | colon => rfl
  | placeholder name => rfl
  | literal content => exact markersFrom_literalText content rest place

theorem markersFrom_source {piece : Piece} {text : List Char} (h : piece.Precedes text)
    (rest : List Char) (place : Nat) :
    markersFrom false place (piece.source ++ rest) =
      piece.ownMarkersAt place ++ markersFrom false (place + piece.source.length) rest := by
  cases piece with
  | plain c => exact markersFrom_plain h.2 rest place
  | colon => rfl
  | literal content => exact markersFrom_literalText content rest place
  | placeholder name =>
    have hname := markersFrom_name h.1.2 rest (place + 1)
    rw [Nat.add_assoc, Nat.add_comm 1] at hname
    exact hname

theorem length_markersAt (piece : Piece) (place place' : Nat) :
    (piece.markersAt place).length =
      piece.name?.toList.length + (piece.ownMarkersAt place').length := by
  cases piece with
  | plain c => by_cases hc : c = '?' <;> simp [Piece.markersAt, Piece.ownMarkersAt, Piece.name?, hc]
  | colon => rfl
  | placeholder name => rfl
  | literal content => rfl

section Compiles

variable {text sql : List Char} {names : List String}

/-- Behind a template the markers are those of what follows. -/
theorem Compiles.markersFrom_append (h : Compiles text sql names) (rest : List Char)
    (place : Nat) : markersFrom false place (text ++ rest) =
      markersFrom false place text ++ markersFrom false (place + text.length) rest := by
  induction h using Compiles.induction generalizing place with
  | nil => rfl
  | cons piece text sql names hpiece _ ih =>
    rw [List.append_assoc, markersFrom_source hpiece, markersFrom_source hpiece, ih,
      List.append_assoc, List.length_append, Nat.add_assoc]

/-- Behind a statement the markers are those of what follows. -/
theorem Compiles.markersFrom_sql_append (h : Compiles text sql names) (rest : List Char)
    (place : Nat) : markersFrom false place (sql ++ rest) =
      markersFrom false place sql ++ markersFrom false (place + sql.length) rest := by
  induction h using Compiles.induction generalizing place with
  | nil => rfl
  | cons piece text sql names hpiece _ ih =>
    rw [List.append_assoc, markersFrom_sql hpiece, markersFrom_sql hpiece, ih,
      List.append_assoc, List.length_append, Nat.add_assoc]

/-- The markers of a statement are as many as its parameters and the markers of its template. -/
theorem Compiles.length_markersFrom (h : Compiles text sql names) (place place' : Nat) :
    (markersFrom false place sql).length =
      names.length + (markersFrom false place' text).length := by
  induction h using Compiles.induction generalizing place place' with
  | nil => rfl
  | cons piece text sql names hpiece _ ih =>
    have htail := ih (place + piece.sql.length) (place' + piece.source.length)
    have hfront := length_markersAt piece place place'
    rw [markersFrom_sql hpiece, markersFrom_source hpiece]
    simp only [List.length_append]
    omega

/-- A template with a parameter is composed of two templates and the placeholder between them. -/
theorem Compiles.exists_placeholder (h : Compiles text sql names) {i : Nat} {name : String}
    (hname : names[i]? = some name) :
    ∃ front back frontSql backSql frontNames backNames,
      text = front ++ ':' :: (name.toList ++ back) ∧ sql = frontSql ++ '?' :: backSql ∧
        Compiles front frontSql frontNames ∧ Compiles back backSql backNames ∧
        frontNames.length = i := by
  induction h using Compiles.induction generalizing i with
  | nil => cases hname
  | cons piece text sql names hpiece htext ih =>
    by_cases hfirst : piece.name?.toList.length ≤ i
    · -- The parameter is one of those behind the piece.
      rw [List.getElem?_append_right hfirst] at hname
      obtain ⟨front, back, frontSql, backSql, frontNames, backNames, rfl, rfl, hfront, hback,
        hlength⟩ := ih hname
      have hfront := hfront.cons (hpiece.mono fun hstart => hstart.append _)
      refine ⟨_, back, _, backSql, _, backNames, (List.append_assoc _ _ _).symm,
        (List.append_assoc _ _ _).symm, hfront, hback, ?_⟩
      rw [List.length_append]
      omega
    · -- The piece is the placeholder itself.
      cases piece with
      | plain | colon | literal => exact absurd (Nat.zero_le i) hfirst
      | placeholder given =>
        obtain rfl : i = 0 := by
          have hlength : (Piece.placeholder given).name?.toList.length = 1 := rfl
          omega
        obtain rfl := Option.some.inj hname
        refine ⟨[], text, [], sql, [], names, ?_, rfl, .done, htext, rfl⟩
        rw [String.toList_ofList]
        rfl

end Compiles

/-! ## Values for the markers -/

/-- How the markers of a statement come from its template. -/
structure MarkedBy (template : String) (statement : CompiledStatement) : Prop where
  /-- They are as many as the parameters and the markers that the template has itself. -/
  count : (markers statement.sql).length = statement.names.length + (markers template).length
  /-- A parameter comes from a placeholder, and its marker is where the placeholder was. In front of
  it are the markers of the parameters before it, and those of the template. -/
  placed : ∀ (i : Nat) (name : String), statement.names[i]? = some name → ∃ front back s t,
    template = front ++ ":" ++ name ++ back ∧ compile front = .ok s ∧ compile back = .ok t ∧
      statement.sql = s.sql ++ "?" ++ t.sql ∧ s.names.length = i ∧
      markers front <+: markers template ∧
      (markers statement.sql)[i + (markers front).length]? = some s.sql.length
  /-- The values that are bound are those of the parameters, one by one. -/
  bound : ∀ (args : Arguments) (i : Nat) (name : String), statement.names[i]? = some name →
    (args.bind statement.names)[i]? = some (args.value name)
  /-- They are as many as the markers exactly if the template has none itself. -/
  matched : ∀ args : Arguments,
    (args.bind statement.names).length = (markers statement.sql).length ↔ markers template = []

/-- The markers of a compiled statement. Each parameter has the one that its placeholder was
replaced by, in their order, with the markers among them that the template has itself; those get no
value. -/
theorem markers_compiled {template : String} {statement : CompiledStatement}
    (h : compile template = .ok statement) : MarkedBy template statement := by
  have hcompiles := compiles_of_compile h
  have hcount : (markers statement.sql).length =
      statement.names.length + (markers template).length := hcompiles.length_markersFrom 0 0
  refine ⟨hcount, ?_, ?_, ?_⟩
  · intro i name hname
    obtain ⟨front, back, frontSql, backSql, frontNames, backNames, htext, hsql, hfront, hback,
      hlength⟩ := hcompiles.exists_placeholder hname
    refine ⟨.ofList front, .ofList back, _, _, ?_, compile_of_compiles hfront,
      compile_of_compiles hback, ?_, hlength, ?_, ?_⟩
    · rw [← String.toList_inj, htext]
      simp
    · rw [← String.toList_inj, hsql]
      simp
    · rw [markers, markers, String.toList_ofList, htext, hfront.markersFrom_append]
      exact List.prefix_append _ _
    · have hcount := hfront.length_markersFrom 0 0
      rw [markers, markers, hsql, hfront.markersFrom_sql_append, String.toList_ofList,
        ← hlength, ← hcount, List.getElem?_append_right (Nat.le_refl _), Nat.sub_self]
      simp [markersFrom]
  · intro args i name hname
    rw [Arguments.bind, List.getElem?_map, hname]
    rfl
  · intro args
    rw [Arguments.length_bind, hcount, List.eq_nil_iff_length_eq_zero]
    omega

/-- A marker in a literal and two others, one of them of the template. -/
theorem markers_compiled_condition :
    compile "a='?' and b=? and c=:c" = .ok ⟨"a='?' and b=? and c=?", ["c"]⟩ ∧
      MarkedBy "a='?' and b=? and c=:c" ⟨"a='?' and b=? and c=?", ["c"]⟩ := by
  have h : compile "a='?' and b=? and c=:c" = .ok ⟨"a='?' and b=? and c=?", ["c"]⟩ := by
    decide +kernel
  exact ⟨h, markers_compiled h⟩

/-- The markers of a statement need not be as many as its parameters: the first one here has no
name, and the value of the only parameter would be bound to it. -/
theorem markers_unnamed :
    ¬ ∀ template statement, compile template = .ok statement →
      (markers statement.sql).length = statement.names.length := by
  intro h
  have hcompile : compile "select ?, :x" = .ok ⟨"select ?, ?", ["x"]⟩ := by decide +kernel
  have hmarkers : markers "select ?, ?" = [7, 10] := by decide +kernel
  have hlength := h _ _ hcompile
  rw [hmarkers] at hlength
  cases hlength

end ZoneStore.Template
