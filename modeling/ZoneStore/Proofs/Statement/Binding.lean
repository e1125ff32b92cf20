import Mathlib.Data.Finset.Card
import Mathlib.Data.Finset.Dedup
import Mathlib.Data.List.Forall2
import ZoneStore.Proofs.Outcome
import ZoneStore.Statement.Catalog

/-!
# Binding arguments to the statements of a catalog

A catalog is built exactly when all of its templates compile, and otherwise the first malformed one
is reported. Where a name repeats the last entry counts, in a list of templates as in a list that
alternates names and values: `Catalog.LastListed` and `Arguments.LastGiven` say this on the lists as
they were given. The main statement `Catalog.prepared_from_last` puts both together: a prepared
statement is compiled from the last template of its name, and each of its parameters has the last
value of its own name.
-/

set_option autoImplicit false

namespace ZoneStore

/-! ## The last of several -/

section Last

variable {α : Type} {p : α → Bool} {l : List α} {a x : α}

/-- The search from the end finds the last element that satisfies the condition. -/
theorem find?_reverse_eq_some_iff :
    l.reverse.find? p = some a ↔
      p a = true ∧ ∃ front back, l = front ++ a :: back ∧ ∀ b ∈ back, p b = false := by
  rw [List.find?_eq_some_iff_append]
  constructor
  · rintro ⟨ha, back, front, hl, hback⟩
    refine ⟨ha, front.reverse, back.reverse, ?_, ?_⟩
    · rw [← List.reverse_reverse l, hl]
      simp
    · intro b hb
      simpa using hback b (List.mem_reverse.1 hb)
  · rintro ⟨ha, front, back, rfl, hback⟩
    refine ⟨ha, back.reverse, front.reverse, by simp, ?_⟩
    intro b hb
    simp [hback b (List.mem_reverse.1 hb)]

theorem find?_reverse_cons :
    (x :: l).reverse.find? p = (l.reverse.find? p).or (if p x then some x else none) := by
  rw [List.reverse_cons, List.find?_append, List.find?_singleton]

end Last

/-- What is left without duplicates is as long as there are different elements. -/
theorem length_eraseDups {α : Type} [DecidableEq α] (l : List α) :
    l.eraseDups.length = l.toFinset.card := by
  induction h : l.length using Nat.strongRecOn generalizing l with
  | ind n ih =>
    cases l with
    | nil => simp
    | cons a rest =>
      have hlength := List.length_filter_le (fun b => !b == a) rest
      have hrest := ih _ (by simp only [List.length_cons] at h; omega)
        (rest.filter fun b => !b == a) rfl
      have hfilter : (rest.filter fun b => !b == a).toFinset = rest.toFinset.erase a := by
        ext b
        simp [and_comm]
      rw [List.eraseDups_cons, List.length_cons, hrest, hfilter, List.toFinset_cons,
        Finset.card_insert_eq_ite]
      split
      · rename_i hmem
        exact Finset.card_erase_add_one hmem
      · rename_i hmem
        rw [Finset.erase_eq_of_notMem hmem]

/-! ## Templates of a name -/

namespace Catalog

variable {templates : List (String × String)} {catalog : Catalog} {name template : String}

/-- The template is listed under the name, and no other one after it is. -/
def LastListed (templates : List (String × String)) (name template : String) : Prop :=
  ∃ before after, templates = before ++ (name, template) :: after ∧
    ∀ entry ∈ after, entry.1 ≠ name

theorem compileEntry_eq_ok_iff {entry : String × String} {compiled : String × CompiledStatement} :
    compileEntry entry = .ok compiled ↔
      compiled.1 = entry.1 ∧ Template.compile entry.2 = .ok compiled.2 := by
  unfold compileEntry
  cases Template.compile entry.2 with
  | error cause => simp
  | ok statement =>
    rw [Except.ok.injEq, Except.ok.injEq, Prod.ext_iff]
    simp only [eq_comm]

theorem compileEntry_eq_error_iff {entry : String × String} {fault : Fault} :
    compileEntry entry = .error fault ↔
      ∃ cause, Template.compile entry.2 = .error cause ∧ fault = .malformedTemplate cause := by
  unfold compileEntry
  cases Template.compile entry.2 with
  | error cause => simp [eq_comm]
  | ok statement => simp

/-- A catalog is built of the compiled entries. -/
theorem ofTemplates_eq_ok_iff_mapM :
    ofTemplates templates = .ok catalog ↔ templates.mapM compileEntry = .ok catalog.entries := by
  obtain ⟨entries⟩ := catalog
  unfold ofTemplates
  cases templates.mapM compileEntry with
  | error fault => simp [Except.map]
  | ok compiled => simp [Except.map]

/-- A catalog holds the listed templates one by one, each under its name. -/
theorem ofTemplates_eq_ok_iff :
    ofTemplates templates = .ok catalog ↔
      List.Forall₂ (fun entry compiled =>
        compiled.1 = entry.1 ∧ Template.compile entry.2 = .ok compiled.2)
        templates catalog.entries := by
  rw [ofTemplates_eq_ok_iff_mapM, mapM_eq_ok_iff]
  simp only [compileEntry_eq_ok_iff]

/-- A catalog is built exactly when each template compiles. -/
theorem ofTemplates_succeeds_iff :
    (∃ catalog, ofTemplates templates = .ok catalog) ↔
      ∀ entry ∈ templates, ∃ statement, Template.compile entry.2 = .ok statement := by
  constructor
  · rintro ⟨catalog, h⟩ entry hentry
    obtain ⟨compiled, hcompiled⟩ :=
      mapM_succeeds_iff.1 ⟨_, ofTemplates_eq_ok_iff_mapM.1 h⟩ entry hentry
    exact ⟨compiled.2, (compileEntry_eq_ok_iff.1 hcompiled).2⟩
  · intro h
    obtain ⟨entries, hentries⟩ := mapM_succeeds_iff.2 fun entry hentry => by
      obtain ⟨statement, hstatement⟩ := h entry hentry
      exact ⟨(entry.1, statement), compileEntry_eq_ok_iff.2 ⟨rfl, hstatement⟩⟩
    exact ⟨⟨entries⟩, ofTemplates_eq_ok_iff_mapM.2 hentries⟩

/-- The first malformed template is reported. -/
theorem ofTemplates_eq_error_iff {fault : Fault} :
    ofTemplates templates = .error fault ↔
      ∃ before name template after cause, templates = before ++ (name, template) :: after ∧
        (∀ entry ∈ before, ∃ statement, Template.compile entry.2 = .ok statement) ∧
        Template.compile template = .error cause ∧ fault = .malformedTemplate cause := by
  have hmap : ofTemplates templates = .error fault ↔
      templates.mapM compileEntry = .error fault := by
    unfold ofTemplates
    cases templates.mapM compileEntry with
    | error fault => simp [Except.map]
    | ok compiled => simp [Except.map]
  rw [hmap, mapM_eq_error_iff]
  simp only [compileEntry_eq_error_iff, compileEntry_eq_ok_iff, Prod.exists]
  constructor
  · rintro ⟨before, name, template, after, rfl, hbefore, cause, hcause, hfault⟩
    refine ⟨before, name, template, after, cause, rfl, ?_, hcause, hfault⟩
    intro entry hentry
    obtain ⟨_, statement, -, hstatement⟩ := hbefore entry hentry
    exact ⟨statement, hstatement⟩
  · rintro ⟨before, name, template, after, cause, rfl, hbefore, hcause, hfault⟩
    refine ⟨before, name, template, after, rfl, ?_, cause, hcause, hfault⟩
    intro entry hentry
    obtain ⟨statement, hstatement⟩ := hbefore entry hentry
    exact ⟨entry.1, statement, rfl, hstatement⟩

/-- The names of a catalog are those of the templates. -/
theorem map_fst_of_ofTemplates (h : ofTemplates templates = .ok catalog) :
    catalog.entries.map Prod.fst = templates.map Prod.fst := by
  have hentries := ofTemplates_eq_ok_iff.1 h
  have hnames : List.Forall₂ (fun name name' => name = name')
      (catalog.entries.map Prod.fst) (templates.map Prod.fst) := by
    rw [List.forall₂_map_left_iff, List.forall₂_map_right_iff]
    exact hentries.flip.imp fun _ _ hentry => hentry.1
  rwa [List.forall₂_eq_eq_eq] at hnames

/-- The number of different names. -/
theorem size_of_ofTemplates (h : ofTemplates templates = .ok catalog) :
    catalog.size = (templates.map Prod.fst).toFinset.card := by
  rw [size, map_fst_of_ofTemplates h, length_eraseDups]

/-- The statement of a name is compiled from the last template that is listed under it. -/
theorem statement_eq_ok_iff (h : ofTemplates templates = .ok catalog)
    {statement : CompiledStatement} :
    catalog.statement name = .ok statement ↔
      ∃ template, LastListed templates name template ∧
        Template.compile template = .ok statement := by
  have hentries := ofTemplates_eq_ok_iff.1 h
  have hfind : catalog.statement name = .ok statement ↔
      catalog.entries.reverse.find? (·.1 == name) = some (name, statement) := by
    unfold Catalog.statement
    cases hfound : catalog.entries.reverse.find? (·.1 == name) with
    | none => simp
    | some entry =>
      obtain rfl : entry.1 = name := by simpa using List.find?_some hfound
      simp [Prod.ext_iff]
  rw [hfind, find?_reverse_eq_some_iff]
  -- A split of the entries is one of the templates, with the same names on either side.
  constructor
  · rintro ⟨-, front, back, heq, hback⟩
    rw [heq] at hentries
    obtain ⟨before, entry, after, rfl, -, hentry, hafter⟩ := exists_of_append_cons hentries
    obtain ⟨rfl, hstatement⟩ : name = entry.1 ∧ Template.compile entry.2 = .ok statement := hentry
    refine ⟨entry.2, ⟨before, after, rfl, ?_⟩, hstatement⟩
    intro later hlater
    obtain ⟨compiled, hcompiled, hname, -⟩ := exists_of_mem_left hafter hlater
    simpa [← hname] using hback compiled hcompiled
  · rintro ⟨template, ⟨before, after, rfl, hafter⟩, hstatement⟩
    obtain ⟨front, compiled, back, heq, -, hcompiled, hback⟩ :=
      exists_of_append_cons hentries.flip
    obtain rfl : compiled = (name, statement) := by
      rw [hcompiled.2, Except.ok.injEq] at hstatement
      exact Prod.ext hcompiled.1 hstatement
    refine ⟨by simp, front, back, heq, ?_⟩
    intro later hlater
    obtain ⟨entry, hentry, hname, -⟩ := exists_of_mem_left hback hlater
    simpa [hname] using hafter entry hentry

/-- A name under which no template is listed has no statement. -/
theorem statement_eq_error_iff (h : ofTemplates templates = .ok catalog) {fault : Fault} :
    catalog.statement name = .error fault ↔
      name ∉ templates.map Prod.fst ∧ fault = .unknownStatement name := by
  rw [← map_fst_of_ofTemplates h]
  unfold Catalog.statement
  cases hfound : catalog.entries.reverse.find? (·.1 == name) with
  | none =>
    have hnone : name ∉ catalog.entries.map Prod.fst := by
      intro hmem
      obtain ⟨entry, hentry, hname⟩ := List.mem_map.1 hmem
      have := List.find?_eq_none.1 hfound entry (List.mem_reverse.2 hentry)
      simp [hname] at this
    simp [hnone, eq_comm]
  | some entry =>
    have hmem : name ∈ catalog.entries.map Prod.fst := by
      obtain rfl : entry.1 = name := by simpa using List.find?_some hfound
      exact List.mem_map_of_mem (List.mem_reverse.1 (List.mem_of_find?_eq_some hfound))
    simp [hmem]

end Catalog

/-! ## Values of a name -/

namespace Arguments

variable {flat rest : List Value} {name : String} {v w : Value}

/-- The name stands in the place of a name with the value behind it, and in no later such place. -/
def LastGiven (flat : List Value) (name : String) (v : Value) : Prop :=
  ∃ k, flat[2 * k]? = some (.text name) ∧ flat[2 * k + 1]? = some v ∧
    ∀ l, k < l → flat[2 * l]? ≠ some (.text name)

/-- The name stands in no place of a name. -/
def NotGiven (flat : List Value) (name : String) : Prop :=
  ∀ k, flat[2 * k]? ≠ some (.text name)

/-- What a list that alternates names and values binds a name to. -/
def BoundTo (flat : List Value) (name : String) (v : Value) : Prop :=
  LastGiven flat name v ∨ NotGiven flat name ∧ v = .null

theorem LastGiven.cons {n : Value} (h : LastGiven rest name v) :
    LastGiven (n :: w :: rest) name v := by
  obtain ⟨k, hname, hvalue, hlast⟩ := h
  refine ⟨k + 1, hname, hvalue, ?_⟩
  intro l hl
  obtain ⟨l, rfl⟩ : ∃ l', l = l' + 1 := ⟨l - 1, by omega⟩
  exact hlast l (by omega)

theorem NotGiven.lastGiven_cons (h : NotGiven rest name) :
    LastGiven (.text name :: v :: rest) name v := by
  refine ⟨0, rfl, rfl, ?_⟩
  intro l hl
  obtain ⟨l, rfl⟩ : ∃ l', l = l' + 1 := ⟨l - 1, by omega⟩
  exact h l

theorem NotGiven.cons {n : Value} (h : NotGiven rest name) (hn : n ≠ .text name) :
    NotGiven (n :: w :: rest) name := by
  intro k
  cases k with
  | zero => simpa using hn
  | succ k => exact h k

/-- The search from the end of the pairs finds the last value of the name. -/
theorem find?_flatPairs (name : String) (heven : flat.length % 2 = 0) :
    match (flatPairs flat).reverse.find? (·.1 == name) with
    | some pair => LastGiven flat name pair.2
    | none => NotGiven flat name := by
  induction flat using flatPairs.induct with
  | case1 n value rest ih =>
    have hrest := ih (by simp only [List.length_cons] at heven; omega)
    rw [flatPairs, find?_reverse_cons]
    cases hfound : (flatPairs rest).reverse.find? (·.1 == name) with
    | some pair =>
      rw [hfound] at hrest
      exact hrest.cons
    | none =>
      rw [hfound] at hrest
      -- No later pair has the name, so this one counts if it has it.
      by_cases hn : n = name
      · subst hn
        simpa using hrest.lastGiven_cons
      · have hne : Value.text n ≠ .text name := by simpa using hn
        simpa [hn] using hrest.cons hne
  | case2 n value rest hn ih =>
    have hrest := ih (by simp only [List.length_cons] at heven; omega)
    -- The name is no text, so its pair is left out and the others keep their places.
    rw [flatPairs]
    · cases hfound : (flatPairs rest).reverse.find? (·.1 == name) with
      | some pair =>
        rw [hfound] at hrest
        exact hrest.cons
      | none =>
        rw [hfound] at hrest
        exact hrest.cons (hn name)
    · exact hn
  | case3 flat hpair hskip =>
    match flat, heven with
    | [], _ => simp [flatPairs, NotGiven]
    | n :: value :: rest, _ => exact absurd rfl (hskip n value rest)

/-- A name is bound to its last value, and to `NULL` where it has none. -/
theorem boundTo_value (heven : flat.length % 2 = 0) :
    BoundTo flat name (value ⟨flatPairs flat⟩ name) := by
  have hfound := find?_flatPairs name heven
  unfold value
  split
  · rename_i pair hpair
    rw [hpair] at hfound
    exact .inl hfound
  · rename_i hnone
    rw [hnone] at hfound
    exact .inr ⟨hfound, rfl⟩

theorem ofFlat_eq_error_iff {fault : Fault} :
    ofFlat flat = .error fault ↔ flat.length % 2 = 1 ∧ fault = .argumentShape flat.length := by
  unfold ofFlat
  split
  · simp; omega
  · rw [Except.error.injEq]
    constructor
    · rintro rfl
      exact ⟨by omega, rfl⟩
    · rintro ⟨-, rfl⟩
      rfl

/-- The parameters are bound name by name. -/
theorem forall₂_bind {args : Arguments} (h : ofFlat flat = .ok args) (names : List String) :
    List.Forall₂ (BoundTo flat) names (args.bind names) := by
  unfold ofFlat at h
  split at h
  · rename_i heven
    cases h
    rw [bind, List.forall₂_map_right_iff, List.forall₂_same]
    intro name _
    exact boundTo_value heven
  · cases h

end Arguments

/-! ## Prepared statements -/

namespace Catalog

/-- The catalog reads its templates with the last entry of a name as the one that counts. -/
structure HoldsLast (templates : List (String × String)) (catalog : Catalog) : Prop where
  size_eq : catalog.size = (templates.map Prod.fst).toFinset.card
  statement_ok : ∀ name statement, catalog.statement name = .ok statement ↔
    ∃ template, LastListed templates name template ∧ Template.compile template = .ok statement
  statement_error : ∀ name fault, catalog.statement name = .error fault ↔
    name ∉ templates.map Prod.fst ∧ fault = .unknownStatement name

theorem holdsLast_of_ofTemplates {templates : List (String × String)} {catalog : Catalog}
    (h : ofTemplates templates = .ok catalog) : HoldsLast templates catalog := by
  constructor
  · exact size_of_ofTemplates h
  · intro name statement
    exact statement_eq_ok_iff h
  · intro name fault
    exact statement_eq_error_iff h

theorem prepare_of_statement_eq_error {catalog : Catalog} {name : String} {fault : Fault}
    (h : catalog.statement name = .error fault) (args : Arguments) :
    catalog.prepare name args = .error fault := by
  rw [prepare, h]
  rfl

theorem prepare_of_statement_eq_ok {catalog : Catalog} {name : String}
    {statement : CompiledStatement} (h : catalog.statement name = .ok statement)
    (args : Arguments) :
    catalog.prepare name args = .ok (statement.sql, args.bind statement.names) := by
  rw [prepare, h]
  rfl

/-- Templates are compiled all or none, and the first malformed one is reported. The last template
of a name is the one that a catalog holds. Arguments that alternate names and values are refused
exactly when one is missing; otherwise a prepared statement has the text of the last template of its
name and one parameter for each of that template's names, which is the last value that was given
under it. -/
theorem prepared_from_last (templates : List (String × String)) (flat : List Value) :
    ((∃ catalog, ofTemplates templates = .ok catalog) ↔
      ∀ entry ∈ templates, ∃ statement, Template.compile entry.2 = .ok statement) ∧
    (∀ fault, ofTemplates templates = .error fault ↔
      ∃ before name template after cause, templates = before ++ (name, template) :: after ∧
        (∀ entry ∈ before, ∃ statement, Template.compile entry.2 = .ok statement) ∧
        Template.compile template = .error cause ∧ fault = .malformedTemplate cause) ∧
    (∀ fault, Arguments.ofFlat flat = .error fault ↔
      flat.length % 2 = 1 ∧ fault = .argumentShape flat.length) ∧
    ∀ catalog, ofTemplates templates = .ok catalog →
      HoldsLast templates catalog ∧
      ∀ args, Arguments.ofFlat flat = .ok args → ∀ name,
        (∀ fault, catalog.statement name = .error fault →
          catalog.prepare name args = .error fault) ∧
        ∀ statement, catalog.statement name = .ok statement →
          ∃ params, catalog.prepare name args = .ok (statement.sql, params) ∧
            params.length = statement.names.length ∧
            List.Forall₂ (Arguments.BoundTo flat) statement.names params := by
  refine ⟨ofTemplates_succeeds_iff, fun _ => ofTemplates_eq_error_iff,
    fun _ => Arguments.ofFlat_eq_error_iff, ?_⟩
  intro catalog hcatalog
  refine ⟨holdsLast_of_ofTemplates hcatalog, ?_⟩
  intro args hargs name
  constructor
  · intro fault hfault
    exact prepare_of_statement_eq_error hfault args
  · intro statement hstatement
    refine ⟨args.bind statement.names, prepare_of_statement_eq_ok hstatement args, ?_, ?_⟩
    · exact Arguments.length_bind args statement.names
    · exact Arguments.forall₂_bind hargs statement.names

/-- Two templates of one name and a repeated argument: both times the last one counts. The pair with
a number for its name is left out, and the pairs behind it keep their values. -/
theorem prepared_from_last_repeated :
    ∃ catalog, ofTemplates [("q", "select :a"), ("q", "select :b, :a")] = .ok catalog ∧
      catalog.size = 1 ∧
      ∃ args, Arguments.ofFlat
          [.text "a", .integer 1, .integer 5, .integer 6, .text "a", .integer 2] = .ok args ∧
        catalog.prepare "q" args = .ok ("select ?, ?", [.null, .integer 2]) ∧
        List.Forall₂ (Arguments.BoundTo
          [.text "a", .integer 1, .integer 5, .integer 6, .text "a", .integer 2])
          ["b", "a"] [.null, .integer 2] := by
  have hcatalog : ofTemplates [("q", "select :a"), ("q", "select :b, :a")] =
      .ok ⟨[("q", ⟨"select ?", ["a"]⟩), ("q", ⟨"select ?, ?", ["b", "a"]⟩)]⟩ := by decide +kernel
  obtain ⟨-, -, -, hbuilt⟩ := prepared_from_last [("q", "select :a"), ("q", "select :b, :a")]
    [.text "a", .integer 1, .integer 5, .integer 6, .text "a", .integer 2]
  obtain ⟨hholds, hprepared⟩ := hbuilt _ hcatalog
  obtain ⟨params, hparams, -, hbound⟩ :=
    (hprepared ⟨[("a", .integer 1), ("a", .integer 2)]⟩ (by decide) "q").2
      ⟨"select ?, ?", ["b", "a"]⟩ (by decide)
  have hvalue : Catalog.prepare
      ⟨[("q", ⟨"select ?", ["a"]⟩), ("q", ⟨"select ?, ?", ["b", "a"]⟩)]⟩ "q"
      ⟨[("a", .integer 1), ("a", .integer 2)]⟩ = .ok ("select ?, ?", [.null, .integer 2]) := by
    decide
  obtain rfl : params = [.null, .integer 2] := by
    rw [hvalue, Except.ok.injEq, Prod.mk.injEq] at hparams
    exact hparams.2.symm
  refine ⟨_, hcatalog, ?_, _, by decide, hparams, hbound⟩
  rw [hholds.size_eq]
  decide

end Catalog

end ZoneStore
