import ZoneStore.Proofs.Backend.Operations
import ZoneStore.Proofs.Pattern.Matching
import ZoneStore.Proofs.Zone.ReadBack

/-!
# Listing the part of a zone below a name

The listing compares names with a like pattern that is the given name behind `%.`, without an escape
character. It gives the records at the name and those whose names the pattern matches
(`subzone_listed`). Where names are verbatim, every name at or below the given one is among them,
and no other if the given name has neither `%` nor `_` in it. An underscore in it, though, stands
for any character, so names beside the given one are listed as well (`subzone_underscore`).
-/

set_option autoImplicit false

namespace ZoneStore

/-! ## Names below a name -/

/-- The name ends, up to ASCII case, in a dot and the given name. -/
def Text.IsBelow (top name : String) : Prop :=
  ('.' :: top.toList).map Char.toLower <:+ name.toList.map Char.toLower

instance (top name : String) : Decidable (Text.IsBelow top name) :=
  inferInstanceAs (Decidable (_ <:+ _))

/-- The name is matched by the pattern of the names below the given one, both as they are seen. -/
def Like.Reaches (top name : String) : Prop :=
  Like.Matches (Like.items none (Like.seen (Backend.namesBelow top).toList)) (Like.seen name.toList)

instance (top name : String) : Decidable (Like.Reaches top name) :=
  decidable_of_iff (Like.matchesText none (Backend.namesBelow top) name = true)
    Like.matchesItems_iff

/-- The record has the given name, or one below it. -/
def RecordRow.IsAtOrBelow (top : String) (r : RecordRow) : Prop :=
  ∃ name ∈ r.name, name = top ∨ Text.IsBelow top name

/-- The record has the given name, or one that its pattern matches. -/
def RecordRow.IsReached (top : String) (r : RecordRow) : Prop :=
  ∃ name ∈ r.name, name = top ∨ Like.Reaches top name

instance (top : String) : DecidablePred (RecordRow.IsAtOrBelow top) :=
  fun _ => inferInstanceAs (Decidable (∃ _ ∈ _, _))

instance (top : String) : DecidablePred (RecordRow.IsReached top) :=
  fun _ => inferInstanceAs (Decidable (∃ _ ∈ _, _))

/-- The record has no name, or a verbatim one. -/
def RecordRow.HasVerbatimName (r : RecordRow) : Prop := ∀ name ∈ r.name, Like.IsVerbatim name

/-- A dot is the only character that is a dot up to case. -/
theorem eq_dot_of_toLower {c : Char} (h : c.toLower = '.') : c = '.' :=
  Text.eq_of_toLower (by decide) h

/-- A text that is verbatim is so in every case of its letters. -/
theorem Like.IsVerbatim.of_map_eq {top : String} {tail : List Char}
    (htail : ∀ c ∈ tail, c ≠ '\x00' ∧ c ≠ '\uFFFE' ∧ c ≠ '\uFFFF')
    (h : tail.map Char.toLower = top.toList.map Char.toLower) : IsVerbatim top := by
  intro c hc
  obtain ⟨d, hd, hcase⟩ := List.mem_map.1 (h ▸ List.mem_map_of_mem hc)
  obtain ⟨hnul, hfirst, hsecond⟩ := htail d hd
  -- None of the three characters is a letter, so each is the only one of its case.
  refine ⟨?_, ?_, ?_⟩
  · rintro rfl
    exact hnul (Text.eq_of_toLower (by decide) hcase)
  · rintro rfl
    exact hfirst (Text.eq_of_toLower (by decide) hcase)
  · rintro rfl
    exact hsecond (Text.eq_of_toLower (by decide) hcase)

/-- A name below another one is that one, up to case, behind a dot. -/
theorem isBelow_iff {top name : String} :
    Text.IsBelow top name ↔ ∃ front tail, name.toList = front ++ '.' :: tail ∧
      tail.map Char.toLower = top.toList.map Char.toLower := by
  constructor
  · rintro ⟨_, h⟩
    obtain ⟨front, back, hname, -, hback⟩ := List.map_eq_append_iff.1 h.symm
    obtain ⟨d, tail, rfl, hd, htail⟩ := List.map_eq_cons_iff.1 hback
    -- What is a dot in the folded name is one in the name itself.
    obtain rfl := eq_dot_of_toLower hd
    exact ⟨front, tail, hname, htail⟩
  · rintro ⟨front, tail, hname, htail⟩
    refine ⟨front.map Char.toLower, ?_⟩
    rw [hname, List.map_append, List.map_cons, List.map_cons, htail]

namespace Like

variable {top tail : List Char}

/-- A name is matched by itself as a pattern, up to case. -/
theorem matches_of_map_eq (h : tail.map Char.toLower = top.map Char.toLower) :
    Matches (items none top) tail := by
  induction top generalizing tail with
  | nil =>
    obtain rfl := List.map_eq_nil_iff.1 h
    exact .nil
  | cons c rest ih =>
    obtain ⟨d, tail, rfl, hcase, htail⟩ := List.map_eq_cons_iff.1 h
    rw [items_cons (by simp)]
    -- A run may take just the one character, so no item needs more than it.
    split
    · exact .run [d] (ih htail)
    · split
      · exact .one d (ih htail)
      · exact .literal hcase.symm (ih htail)

/-- A name without the characters of patterns is matched by nothing else. -/
theorem map_eq_of_matches (hplain : ∀ c ∈ top, c ≠ '%' ∧ c ≠ '_')
    (h : Matches (items none top) tail) : tail.map Char.toLower = top.map Char.toLower := by
  induction top generalizing tail with
  | nil => rw [matches_nil_iff.1 h]
  | cons c rest ih =>
    obtain ⟨⟨hrun, hone⟩, hrest⟩ := List.forall_mem_cons.1 hplain
    rw [items_cons (by simp), if_neg hrun, if_neg hone] at h
    cases h with
    | literal hcase h =>
      rw [List.map_cons, List.map_cons, hcase, ih hrest h]

/-- The pattern of the names below a name is the name as a pattern behind a dot. -/
theorem reaches_iff {top name : String} : Reaches top name ↔
    ∃ front tail, seen name.toList = front ++ '.' :: tail ∧
      Matches (items none (seen top.toList)) tail := by
  have hitems : items none (seen (Backend.namesBelow top).toList) =
      .run :: .literal '.' :: items none (seen top.toList) := by
    rw [Backend.namesBelow, String.toList_append, seen_append (by decide)]
    exact (items_cons (by simp) _).trans (congrArg _ (items_cons (by simp) _))
  rw [Reaches, hitems]
  constructor
  · intro h
    generalize hname : seen name.toList = text at h
    cases h with
    | run front h =>
      cases h with
      | literal hcase h =>
        obtain rfl := eq_dot_of_toLower hcase.symm
        exact ⟨front, _, rfl, h⟩
  · rintro ⟨front, tail, hname, h⟩
    rw [hname]
    exact .run front (.literal rfl h)

/-- The pattern of the names below a name matches every verbatim name below it. -/
theorem reaches_of_isBelow {top name : String} (hverbatim : IsVerbatim name)
    (h : Text.IsBelow top name) : Reaches top name := by
  obtain ⟨front, tail, hname, htail⟩ := isBelow_iff.1 h
  have htop : IsVerbatim top := .of_map_eq (fun c hc => hverbatim c (by simp [hname, hc])) htail
  refine reaches_iff.2 ⟨front, tail, hverbatim.seen_eq.trans hname, ?_⟩
  rw [htop.seen_eq]
  exact matches_of_map_eq htail

theorem isBelow_of_reaches {top name : String} (hplain : ∀ c ∈ top.toList, c ≠ '%' ∧ c ≠ '_')
    (htop : IsVerbatim top) (hname : IsVerbatim name) (h : Reaches top name) :
    Text.IsBelow top name := by
  obtain ⟨front, tail, hsplit, htail⟩ := reaches_iff.1 h
  rw [hname.seen_eq] at hsplit
  rw [htop.seen_eq] at htail
  exact isBelow_iff.2 ⟨front, tail, hsplit, map_eq_of_matches hplain htail⟩

end Like

namespace RecordRow

variable {top : String} {r : RecordRow}

theorem IsAtOrBelow.isReached (hname : r.HasVerbatimName) (h : r.IsAtOrBelow top) :
    r.IsReached top := by
  obtain ⟨name, hmem, hbelow⟩ := h
  exact ⟨name, hmem, hbelow.imp_right (Like.reaches_of_isBelow (hname name hmem))⟩

theorem IsReached.isAtOrBelow (hplain : ∀ c ∈ top.toList, c ≠ '%' ∧ c ≠ '_')
    (htop : Like.IsVerbatim top) (hname : r.HasVerbatimName) (h : r.IsReached top) :
    r.IsAtOrBelow top := by
  obtain ⟨name, hmem, hreached⟩ := h
  exact ⟨name, hmem,
    hreached.imp_right (Like.isBelow_of_reaches hplain htop (hname name hmem))⟩

end RecordRow

/-! ## The rows of the listing -/

/-- The enabled rows of a zone. -/
def Tables.enabledRows (tables : Tables) (zone : Int) : List RecordRow :=
  tables.records.filter fun r => r.disabled = some 0 ∧ r.domainId = some zone

/-- The pattern of the names below a name is short enough to be compared with a text. -/
def Backend.HasShortPattern (top : String) : Prop :=
  (namesBelow top).utf8ByteSize ≤ Like.greatestLength

instance (top : String) : Decidable (Backend.HasShortPattern top) :=
  inferInstanceAs (Decidable (_ ≤ _))

section Rows

variable {top : String}

theorem filter_enabled (tables : Tables) (zone : Int) :
    (tables.records.filter fun r => r.isEnabled && r.isIn (some zone)) =
      tables.enabledRows zone := by
  refine List.filter_congr fun r _ => ?_
  rw [Bool.eq_iff_iff, Bool.and_eq_true, decide_eq_true_iff, RecordRow.isIn, holds_some_iff,
    RecordRow.isEnabled, beq_iff_eq]

/-- With a pattern that is short enough the condition tells whether the row is reached. -/
theorem condition_of_short (hshort : Backend.HasShortPattern top) (r : RecordRow) :
    (if r.isNamed (some top) then .ok true
      else Like.compare none r.name (some (Backend.namesBelow top))) =
      .ok (decide (r.IsReached top)) := by
  have hlength : ¬ Like.greatestLength < (Backend.namesBelow top).utf8ByteSize :=
    Nat.not_lt.2 hshort
  split
  · rename_i hname
    have hreached : r.IsReached top := ⟨top, holds_some_iff.1 hname, .inl rfl⟩
    rw [decide_eq_true hreached]
  · rename_i hname
    rw [RecordRow.isNamed, holds_some_iff] at hname
    rw [Like.compare, if_neg hlength, Except.ok.injEq, Bool.eq_iff_iff, Option.any_eq_true,
      decide_eq_true_iff]
    constructor
    · rintro ⟨name, hcolumn, hmatch⟩
      exact ⟨name, hcolumn, .inr (Like.matchesItems_iff.1 hmatch)⟩
    · rintro ⟨name, hcolumn, rfl | hreaches⟩
      · exact absurd hcolumn hname
      · exact ⟨name, hcolumn, Like.matchesItems_iff.2 hreaches⟩

/-- So the rows of the listing are those that are reached. -/
theorem subzoneRows_of_short (hshort : Backend.HasShortPattern top) (tables : Tables)
    (zone : Int) :
    (Query.subzoneListing (some top) (some (Backend.namesBelow top)) (some zone)).rows tables =
      .ok (RecordRow.sortByKey ((tables.enabledRows zone).filter fun r => r.IsReached top)) := by
  simp only [Query.subzoneListing, filter_enabled]
  rw [filterM_eq_ok fun r _ => condition_of_short hshort r]
  rfl

/-- With one that is too long a row of another name cannot be compared. -/
theorem condition_of_long (hlong : ¬ Backend.HasShortPattern top) (r : RecordRow) :
    (if r.isNamed (some top) then .ok true
      else Like.compare none r.name (some (Backend.namesBelow top))) =
      if r.name = some top then .ok true else .error .patternTooComplex := by
  have hlength : Like.greatestLength < (Backend.namesBelow top).utf8ByteSize :=
    Nat.not_le.1 hlong
  simp only [RecordRow.isNamed, holds_some_iff, Like.compare, if_pos hlength]

/-- So the listing fails, unless all records of the zone have the very name. -/
theorem subzoneRows_of_long (hlong : ¬ Backend.HasShortPattern top) (tables : Tables)
    (zone : Int) :
    (Query.subzoneListing (some top) (some (Backend.namesBelow top)) (some zone)).rows tables =
      if ∀ r ∈ tables.enabledRows zone, r.name = some top then
        .ok (RecordRow.sortByKey (tables.enabledRows zone))
      else .error .patternTooComplex := by
  simp only [Query.subzoneListing, filter_enabled, condition_of_long hlong]
  split
  · rename_i hall
    rw [filterM_eq_ok (p := fun _ => true) fun r hr => if_pos (hall r hr), List.filter_true]
    rfl
  · rename_i hother
    rw [filterM_eq_error (e := .patternTooComplex)]
    · rfl
    · intro r _
      by_cases hname : r.name = some top
      · exact .inl (if_pos hname)
      · exact .inr (if_neg hname)
    · obtain ⟨r, hr⟩ := not_forall.1 hother
      obtain ⟨hr, hname⟩ := Classical.not_imp.1 hr
      exact ⟨r, hr, if_neg hname⟩

/-- The rows of the listing in either case. A row of the very name is reached by every pattern. -/
theorem subzoneRows (top : String) (tables : Tables) (zone : Int) :
    (Query.subzoneListing (some top) (some (Backend.namesBelow top)) (some zone)).rows tables =
      if Backend.HasShortPattern top ∨ ∀ r ∈ tables.enabledRows zone, r.name = some top then
        .ok (RecordRow.sortByKey ((tables.enabledRows zone).filter fun r => r.IsReached top))
      else .error .patternTooComplex := by
  by_cases hshort : Backend.HasShortPattern top
  · rw [subzoneRows_of_short hshort, if_pos (.inl hshort)]
  · rw [subzoneRows_of_long hshort]
    by_cases hall : ∀ r ∈ tables.enabledRows zone, r.name = some top
    · have hreached : ((tables.enabledRows zone).filter fun r => r.IsReached top) =
          tables.enabledRows zone := by
        rw [List.filter_eq_self]
        intro r hr
        exact decide_eq_true ⟨top, hall r hr, .inl rfl⟩
      rw [if_pos hall, if_pos (.inr hall), hreached]
    · rw [if_neg hall, if_neg (not_or.2 ⟨hshort, hall⟩)]

end Rows

/-! ## The listing -/

namespace Backend

variable {b : Backend} {tables : Tables}

/-- Where every record can be read, the listing is what the rows that are reached are read as. -/
theorem exists_listed {top : String} {zone : Int} {outcome : Except Fault (List ResourceRecord)}
    (hread : ∀ r ∈ tables.records, ∃ record, ResourceRecord.ofRow r = .ok record)
    (h : outcome = (((RecordRow.sortByKey ((tables.enabledRows zone).filter fun r =>
      r.IsReached top)).mapM ResourceRecord.ofRow).mapError .database).map ResourceRecord.sort) :
    ∃ listed records, outcome = .ok listed ∧ listed.Perm records ∧
      List.Forall₂ (fun row record => ResourceRecord.ofRow row = .ok record)
        ((tables.enabledRows zone).filter fun r => r.IsReached top) records := by
  obtain ⟨records, hrecords⟩ := mapM_succeeds_iff.2 fun r
      (hr : r ∈ (tables.enabledRows zone).filter fun r => r.IsReached top) =>
    hread r (List.mem_of_mem_filter (List.mem_of_mem_filter hr))
  rw [mapM_eq_ok_iff] at hrecords
  -- The rows come in the order of their keys, and the records are sorted once more.
  obtain ⟨sorted, hsorted, hperm⟩ := List.perm_comp_forall₂ (List.mergeSort_perm _ _) hrecords
  refine ⟨ResourceRecord.sort sorted, records, ?_,
    (List.mergeSort_perm sorted _).trans hperm, hrecords⟩
  rw [h, RecordRow.sortByKey, mapM_eq_ok_iff.2 hsorted]
  rfl

theorem run_listSubzone_fst (hb : b.store.Calm) (hfree : b.HasFree)
    (htables : b.store.database.tables = some tables) (top : String) (zone : Int) :
    ((listSubzone top zone).run b).1 =
      if HasShortPattern top ∨ ∀ r ∈ tables.enabledRows zone, r.name = some top then
        (((RecordRow.sortByKey ((tables.enabledRows zone).filter fun r =>
          r.IsReached top)).mapM ResourceRecord.ofRow).mapError .database).map ResourceRecord.sort
      else .error (.database .patternTooComplex) := by
  refine (run_readRows_fst hb hfree htables _ ResourceRecord.ofRow ResourceRecord.sort).trans ?_
  rw [subzoneRows]
  split <;> rfl

/-- After every run of operations that leaves a connection free the listing below a name gives the
enabled records of the zone that have the name or one that its pattern reaches, in some order; it
fails only where the pattern is too long and there is another name to compare with it. The pattern
reaches every verbatim name below the given one, and no other one if the given name is verbatim and
has neither `%` nor `_` in it: where all names of the zone are verbatim, the listing is then that of
the part of the zone below the name. -/
theorem subzone_listed (connections : Nat) (dnssec : Bool) (hasher : Option Hasher)
    (ops : List AnyOperation) (top : String) (zone : Int) :
    let reached := operated connections dnssec hasher ops
    ∃ tables, reached.store.database.tables = some tables ∧
      (reached.HasFree →
        HasShortPattern top ∨ (∀ r ∈ tables.enabledRows zone, r.name = some top) →
        ∃ listed records, ((listSubzone top zone).run reached).1 = .ok listed ∧
          listed.Perm records ∧
          List.Forall₂ (fun row record => ResourceRecord.ofRow row = .ok record)
            ((tables.enabledRows zone).filter fun r => r.IsReached top) records) ∧
      (reached.HasFree →
        ¬ (HasShortPattern top ∨ ∀ r ∈ tables.enabledRows zone, r.name = some top) →
        ((listSubzone top zone).run reached).1 = .error (.database .patternTooComplex)) ∧
      (∀ r : RecordRow, r.HasVerbatimName → r.IsAtOrBelow top → r.IsReached top) ∧
      ((∀ c ∈ top.toList, c ≠ '%' ∧ c ≠ '_') → Like.IsVerbatim top →
        (∀ r : RecordRow, r.HasVerbatimName → (r.IsReached top ↔ r.IsAtOrBelow top)) ∧
        (reached.HasFree → HasShortPattern top →
          (∀ r ∈ tables.enabledRows zone, r.HasVerbatimName) →
          ∃ listed records, ((listSubzone top zone).run reached).1 = .ok listed ∧
            listed.Perm records ∧
            List.Forall₂ (fun row record => ResourceRecord.ofRow row = .ok record)
              ((tables.enabledRows zone).filter fun r => r.IsAtOrBelow top) records)) := by
  intro reached
  obtain ⟨j, hj⟩ := (reachable_operated connections dnssec hasher ops).matches
  obtain ⟨tables, htables, -⟩ := hj.committed
  have hrun (hfree : reached.HasFree) := run_listSubzone_fst hj.calm hfree htables top zone
  have hlisted (hfree : reached.HasFree) (hcompared : HasShortPattern top ∨
      ∀ r ∈ tables.enabledRows zone, r.name = some top) :=
    exists_listed (fun r hr => (whole_of_operated htables r hr).exists_ofRow)
      ((hrun hfree).trans (if_pos hcompared))
  have hsame (hplain : ∀ c ∈ top.toList, c ≠ '%' ∧ c ≠ '_') (htop : Like.IsVerbatim top)
      (r : RecordRow) (hname : r.HasVerbatimName) : r.IsReached top ↔ r.IsAtOrBelow top :=
    ⟨RecordRow.IsReached.isAtOrBelow hplain htop hname, RecordRow.IsAtOrBelow.isReached hname⟩
  refine ⟨tables, htables, hlisted, fun hfree hlong => (hrun hfree).trans (if_neg hlong),
    fun _ => RecordRow.IsAtOrBelow.isReached, fun hplain htop => ⟨hsame hplain htop, ?_⟩⟩
  intro hfree hshort hnames
  have hrows : ((tables.enabledRows zone).filter fun r => r.IsReached top) =
      (tables.enabledRows zone).filter fun r => r.IsAtOrBelow top := by
    refine List.filter_congr fun r hr => ?_
    rw [Bool.eq_iff_iff, decide_eq_true_iff, decide_eq_true_iff]
    exact hsame hplain htop r (hnames r hr)
  exact hrows ▸ hlisted hfree (.inl hshort)

/-- A backend that holds one record, of a name below `xtcp.example.org`. -/
def besides : Backend :=
  operated 8 false none
    [⟨Unit, .startTransaction 7 0⟩,
     ⟨Unit, .feedRecord 7 (.plain 1 "sip.xtcp.example.org" "A" "192.0.2.1" 60) ""⟩,
     ⟨Unit, .commitTransaction 7⟩]

/-- The record is listed below a name that it is not below: the underscore stands for the letter. -/
theorem subzone_underscore :
    besides.Reachable ∧
      ((listSubzone "_tcp.example.org" 1).run besides).1 =
        .ok [.plain 1 "sip.xtcp.example.org" "A" "192.0.2.1" 60] ∧
      "sip.xtcp.example.org" ≠ "_tcp.example.org" ∧
      ¬ Text.IsBelow "_tcp.example.org" "sip.xtcp.example.org" := by
  refine ⟨⟨8, false, none, _, rfl⟩, ?_, by decide, by decide⟩
  decide +kernel

end Backend

end ZoneStore
