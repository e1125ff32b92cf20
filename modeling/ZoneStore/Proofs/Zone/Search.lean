import ZoneStore.Proofs.Backend.Operations
import ZoneStore.Proofs.Pattern.Matching
import ZoneStore.Proofs.Zone.ReadBack

/-!
# Searching records and comments

A search gives the first rows, in the order of their ids, one of whose two columns is matched by the
search pattern (`Backend.search_agrees`). Pattern and column are compared as they are seen, so a
pattern may find what it does not match as it stands; and while the rows that the operations of a
backend store can always be read, a single statement may store one that cannot, and then a search
that comes upon it fails (`Backend.search_seen_or_unreadable`).
-/

set_option autoImplicit false

namespace ZoneStore

/-! ## Hits -/

/-- The column holds a text that the search pattern matches, both as they are seen. An absent one is
matched by no pattern. -/
def Glob.MatchesColumn (pattern : String) (column : Option String) : Prop :=
  ∃ text, column = some text ∧ Glob.Matches (Like.seen pattern.toList) (Like.seen text.toList)

instance (pattern : String) (column : Option String) :
    Decidable (Glob.MatchesColumn pattern column) :=
  match column with
  | none => .isFalse fun ⟨_, h, _⟩ => nomatch h
  | some text => decidable_of_iff (Glob.Matches (Like.seen pattern.toList) (Like.seen text.toList))
      ⟨fun h => ⟨text, rfl, h⟩, fun ⟨_, heq, h⟩ => Option.some.inj heq ▸ h⟩

/-- The search pattern matches the name or the content of the record. -/
abbrev RecordRow.IsHit (pattern : String) (r : RecordRow) : Prop :=
  Glob.MatchesColumn pattern r.name ∨ Glob.MatchesColumn pattern r.content

/-- The search pattern matches the name or the text of the comment. -/
abbrev CommentRow.IsHit (pattern : String) (c : CommentRow) : Prop :=
  Glob.MatchesColumn pattern (some c.name) ∨ Glob.MatchesColumn pattern (some c.comment)

namespace Glob

/-- Whether the like pattern of a search pattern is short enough to be compared with a text. -/
def IsShort (pattern : String) : Prop := (toLike pattern).utf8ByteSize ≤ Like.greatestLength

instance (pattern : String) : Decidable (IsShort pattern) := inferInstanceAs (Decidable (_ ≤ _))

variable {pattern : String}

/-- Comparing a column with the like pattern of a search pattern tells whether the search pattern
matches it. -/
theorem compare_toLike (h : IsShort pattern) (column : Option String) :
    Like.compare (some '\\') column (some (toLike pattern)) =
      .ok (decide (MatchesColumn pattern column)) := by
  have hlength : ¬ Like.greatestLength < (toLike pattern).utf8ByteSize := Nat.not_lt.2 h
  simp only [Like.compare, if_neg hlength]
  refine congrArg Except.ok ?_
  rw [Bool.eq_iff_iff, Option.any_eq_true, decide_eq_true_iff]
  constructor
  · rintro ⟨text, rfl, hmatch⟩
    exact ⟨text, rfl, (matchesText_toLike pattern text).1 hmatch⟩
  · rintro ⟨text, rfl, hmatch⟩
    exact ⟨text, rfl, (matchesText_toLike pattern text).2 hmatch⟩

/-- A like pattern that is too long is refused, whatever it is compared with. -/
theorem compare_toLike_of_not_isShort (h : ¬ IsShort pattern) (column : Option String) :
    Like.compare (some '\\') column (some (toLike pattern)) = .error .patternTooComplex := by
  have hlength : Like.greatestLength < (toLike pattern).utf8ByteSize := Nat.not_le.1 h
  simp only [Like.compare, if_pos hlength]

end Glob

/-! ## The first hits -/

section Rows

variable {α : Type} {first second : α → Option String} {pattern : String}

theorem firstHits_succ_cons (hit : α → Except DatabaseFault Bool) (n : Nat) (r : α)
    (rest : List α) :
    firstHits hit (some (n + 1)) (r :: rest) = (do
      if ← hit r then
        let more ← firstHits hit (some n) rest
        .ok (r :: more)
      else firstHits hit (some (n + 1)) rest) := rfl

/-- Where the condition never fails, the first hits are the first rows that satisfy it. -/
theorem firstHits_eq_take {hit : α → Except DatabaseFault Bool} {p : α → Bool}
    (h : ∀ r, hit r = .ok (p r)) (n : Nat) (rows : List α) :
    firstHits hit (some n) rows = .ok ((rows.filter p).take n) := by
  induction rows generalizing n with
  | nil => cases n <;> rfl
  | cons r rest ih =>
    cases n with
    | zero => rfl
    | succ n =>
      rw [firstHits_succ_cons, h r, List.filter_cons]
      cases p r with
      | true =>
        -- The row takes one place of the limit.
        show (firstHits hit (some n) rest >>= fun more => .ok (r :: more)) = _
        rw [ih n]
        rfl
      | false => exact ih (n + 1)

/-- Where the condition always fails, so does the search, unless no row is looked at. -/
theorem firstHits_of_error {hit : α → Except DatabaseFault Bool} {fault : DatabaseFault}
    (h : ∀ r, hit r = .error fault) (n : Nat) (rows : List α) :
    firstHits hit (some n) rows = if n = 0 ∨ rows = [] then .ok [] else .error fault := by
  cases rows with
  | nil => cases n <;> simp [firstHits]
  | cons r rest =>
    cases n with
    | zero => simp [firstHits]
    | succ n =>
      rw [firstHits_succ_cons, h r, if_neg (by simp)]
      rfl

theorem limitOf_natCast (n : Nat) : limitOf (some (n : Int)) = .ok (some n) := by
  have hn : ¬ (n : Int) < 0 := by omega
  simp only [limitOf, if_neg hn, Int.toNat_natCast]

/-- A search with a short pattern gives the first rows that it matches. -/
theorem searchRows_of_isShort (h : Glob.IsShort pattern) (n : Nat) (rows : List α) :
    searchRows first second (some (Glob.toLike pattern)) (some (Glob.toLike pattern))
        (some (n : Int)) rows =
      .ok ((rows.filter fun r => decide (Glob.MatchesColumn pattern (first r) ∨
        Glob.MatchesColumn pattern (second r))).take n) := by
  rw [searchRows, limitOf_natCast]
  refine firstHits_eq_take (fun r => ?_) n rows
  rw [Glob.compare_toLike h, Glob.compare_toLike h, Bool.decide_or]
  cases decide (Glob.MatchesColumn pattern (first r)) <;> rfl

/-- A search with a pattern that is too long fails as soon as a row is looked at. -/
theorem searchRows_of_not_isShort (h : ¬ Glob.IsShort pattern) (n : Nat) (rows : List α) :
    searchRows first second (some (Glob.toLike pattern)) (some (Glob.toLike pattern))
        (some (n : Int)) rows =
      if n = 0 ∨ rows = [] then .ok [] else .error .patternTooComplex := by
  rw [searchRows, limitOf_natCast]
  refine firstHits_of_error (fun r => ?_) n rows
  rw [Glob.compare_toLike_of_not_isShort h]
  rfl

end Rows

/-! ## Searching -/

namespace Backend

variable {b : Backend} {tables : Tables}

theorem run_searchRecords_fst (hb : b.store.Calm) (hfree : b.HasFree)
    (htables : b.store.database.tables = some tables) (pattern : String) (limit : UInt32) :
    ((searchRecords pattern limit).run b).1 =
      (searchRows RecordRow.name RecordRow.content (some (Glob.toLike pattern))
        (some (Glob.toLike pattern)) (some limit.toNat) tables.records >>= fun rows =>
          rows.mapM ResourceRecord.ofRow).mapError .database := by
  obtain ⟨b', hsearch⟩ := run_fetch_bind_fst hb hfree htables
    (.searchRecords (some (Glob.toLike pattern)) (some (Glob.toLike pattern)) (some limit.toNat))
    (readRows ResourceRecord.ofRow)
  refine hsearch.trans ?_
  simp only [Query.searchRecords]
  cases searchRows RecordRow.name RecordRow.content (some (Glob.toLike pattern))
      (some (Glob.toLike pattern)) (some limit.toNat) tables.records with
  | error fault => rfl
  | ok rows => simp only [readRows, Action.run_ofDatabase, bind, Except.bind]

theorem run_searchComments_fst (hb : b.store.Calm)
    (hfree : b.HasFree) (htables : b.store.database.tables = some tables) (pattern : String)
    (limit : UInt32) :
    ((searchComments pattern limit).run b).1 =
      ((searchRows (fun c => some c.name) (fun c => some c.comment) (some (Glob.toLike pattern))
        (some (Glob.toLike pattern)) (some limit.toNat) tables.comments).map fun rows =>
          rows.map Comment.ofRow).mapError .database := by
  obtain ⟨b', hsearch⟩ := run_fetch_bind_fst hb hfree htables
    (.searchComments (some (Glob.toLike pattern)) (some (Glob.toLike pattern)) (some limit.toNat))
    fun rows => return rows.map Comment.ofRow
  refine hsearch.trans ?_
  simp only [Query.searchComments]
  cases searchRows (fun c : CommentRow => some c.name) (fun c => some c.comment)
      (some (Glob.toLike pattern)) (some (Glob.toLike pattern)) (some limit.toNat)
      tables.comments <;> rfl

/-- In every state that a run leads to, records and comments are in the order of their ids. -/
theorem Reachable.inOrder (h : b.Reachable) :
    ∃ tables, b.store.database.tables = some tables ∧ tables.InOrder := by
  obtain ⟨j, hj⟩ := h.matches
  obtain ⟨tables, htables, hrun⟩ := hj.committed
  refine ⟨tables, htables, ?_⟩
  exact Tables.runAll_induction (fun _ _ _ _ ht hm => ht.alters hm) Tables.inOrder_empty hrun

/-- After every run of operations that leaves a connection free, and for every pattern whose like
pattern is not too long, a search for records gives the first records in the order of their ids,
disabled ones included, whose name or content the pattern matches, and a search for comments the
first comments whose name or text it matches. A pattern that is too long is refused once a row is
looked at. Without a free connection every search fails for the lack of one. The like pattern of any
pattern matches exactly the texts that the pattern matches, as they are seen, and so as they are if
both are verbatim. -/
theorem search_agrees (connections : Nat) (dnssec : Bool) (hasher : Option Hasher)
    (ops : List AnyOperation) (pattern : String) (limit : UInt32) :
    let reached := operated connections dnssec hasher ops
    ∃ tables, reached.store.database.tables = some tables ∧
      (tables.records.map RecordRow.id).Pairwise (· < ·) ∧
      (tables.comments.map CommentRow.id).Pairwise (· < ·) ∧
      (reached.HasFree → Glob.IsShort pattern → ∃ records,
        List.Forall₂ (fun row record => ResourceRecord.ofRow row = .ok record)
          ((tables.records.filter fun r => r.IsHit pattern).take limit.toNat) records ∧
        ((searchRecords pattern limit).run reached).1 = .ok records) ∧
      (reached.HasFree → Glob.IsShort pattern →
        ((searchComments pattern limit).run reached).1 =
          .ok (((tables.comments.filter fun c => c.IsHit pattern).take limit.toNat).map
            Comment.ofRow)) ∧
      (reached.HasFree → ¬ Glob.IsShort pattern →
        ((searchRecords pattern limit).run reached).1 =
          (if limit = 0 ∨ tables.records = [] then .ok []
          else .error (.database .patternTooComplex)) ∧
        ((searchComments pattern limit).run reached).1 =
          if limit = 0 ∨ tables.comments = [] then .ok []
          else .error (.database .patternTooComplex)) ∧
      (¬ reached.HasFree →
        ((searchRecords pattern limit).run reached).1 = .error (.database .noConnection) ∧
        ((searchComments pattern limit).run reached).1 = .error (.database .noConnection)) ∧
      (∀ text, Like.matchesText (some '\\') (Glob.toLike pattern) text = true ↔
        Glob.Matches (Like.seen pattern.toList) (Like.seen text.toList)) ∧
      ∀ text, Like.IsVerbatim pattern → Like.IsVerbatim text →
        (Like.matchesText (some '\\') (Glob.toLike pattern) text = true ↔
          Glob.Matches pattern.toList text.toList) := by
  intro reached
  have hreachable : reached.Reachable := reachable_operated connections dnssec hasher ops
  obtain ⟨tables, htables, horder⟩ := hreachable.inOrder
  obtain ⟨j, hj⟩ := hreachable.matches
  have hlimit : limit.toNat = 0 ↔ limit = 0 := by
    rw [← UInt32.toNat_inj]
    rfl
  refine ⟨tables, htables, horder.records, horder.comments, fun hfree hshort => ?_,
    fun hfree hshort => ?_, fun hfree hlong => ⟨?_, ?_⟩, fun hnone => ⟨?_, ?_⟩,
    Glob.matchesText_toLike pattern,
    fun text hpattern htext => Glob.matchesText_of_isVerbatim hpattern htext⟩
  · obtain ⟨records, hrecords⟩ := mapM_succeeds_iff.2 fun r
        (hr : r ∈ (tables.records.filter fun r => r.IsHit pattern).take limit.toNat) =>
      (whole_of_operated htables r (List.mem_of_mem_filter (List.mem_of_mem_take hr))).exists_ofRow
    refine ⟨records, mapM_eq_ok_iff.1 hrecords, ?_⟩
    rw [run_searchRecords_fst hj.calm hfree htables, searchRows_of_isShort hshort]
    exact congrArg (Except.mapError Fault.database) hrecords
  · rw [run_searchComments_fst hj.calm hfree htables, searchRows_of_isShort hshort]
    rfl
  · rw [run_searchRecords_fst hj.calm hfree htables, searchRows_of_not_isShort hlong]
    simp only [hlimit]
    split <;> rfl
  · rw [run_searchComments_fst hj.calm hfree htables, searchRows_of_not_isShort hlong]
    simp only [hlimit]
    split <;> rfl
  · rw [searchRecords, Action.run_bind, run_fetch_of_none hnone]
  · rw [searchComments, Action.run_bind, run_fetch_of_none hnone]

/-- A backend on which a single statement has stored a record whose time to live has more than 32
bits. -/
def overlong : Backend :=
  (on (.on .empty 8) false none).after
    [.statement (.perform "insert-record-query"
      ⟨[("domain_id", .integer 1), ("qname", .text "example.org"), ("qtype", .text "A"),
        ("content", .text "192.0.2.1"), ("ttl", .integer 4294967296), ("disabled", .integer 0)]⟩)]

/-- A backend that holds one record, whose content is the replacement character. -/
def replaced : Backend :=
  operated 8 false none
    [⟨Unit, .startTransaction 7 0⟩,
     ⟨Unit, .feedRecord 7 (.plain 1 "example.org" "TXT" "\uFFFD" 60) ""⟩,
     ⟨Unit, .commitTransaction 7⟩]

/-- A record is found, though the pattern does not match it: it is another character that is seen as
the one in its content. And a record that the pattern matches is not found: it cannot be read, and
the search fails. -/
theorem search_seen_or_unreadable :
    (¬ Glob.Matches "\uFFFE".toList "example.org".toList ∧
      ¬ Glob.Matches "\uFFFE".toList "\uFFFD".toList ∧
      ((searchRecords "\uFFFE" 10).run replaced).1 =
        .ok [.plain 1 "example.org" "TXT" "\uFFFD" 60]) ∧
    ∃ tables row, overlong.store.database.tables = some tables ∧ tables.records = [row] ∧
      row.IsHit "*.org" ∧
      ((searchRecords "*.org" 10).run overlong).1 =
        .error (.database (.outOfRange 1 4294967296)) := by
  refine ⟨⟨by decide, by decide, rfl⟩, _, _, rfl, rfl, ?_, ?_⟩
  · decide
  · rfl

end Backend

end ZoneStore
