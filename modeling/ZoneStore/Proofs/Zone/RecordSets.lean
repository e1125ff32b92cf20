import ZoneStore.Proofs.Backend.Operations
import ZoneStore.Proofs.Zone.Replacement

/-!
# Replacing a record set

What replacing the records of a name and type does to the tables that the transaction sees
(`Tables.Replaces`): the rows of the set go, with the wildcard those of every type, and the given
records are appended. The comments change only where no record is given, and then those of the very
name and type that were asked for go. Once the transaction is committed, the zone is listed with the
given records as its records of that name and type (`record_set_replaced`).

The wildcard reaches the rows of every type but only the comments that bear it as their type, so the
comments of a name outlive its records (`comments_of_removed_sets`, `any_keeps_comments`).
-/

set_option autoImplicit false

namespace ZoneStore

/-! ## Record sets -/

/-- The row belongs to the set of a name and type in a zone. The wildcard stands for every type, and
for rows without one. -/
def RecordRow.InSet (zone : Int) (qname qtype : String) (r : RecordRow) : Prop :=
  r.domainId = some zone ∧ r.name = some qname ∧
    (Text.agree qtype anyType = true ∨ r.type = some qtype)

/-- The row is listed under the name and type, with the empty text for what it does not have. -/
def RecordRow.ShownUnder (zone : Int) (qname qtype : String) (r : RecordRow) : Prop :=
  r.domainId = some zone ∧ r.name.getD "" = qname ∧
    (Text.agree qtype anyType = true ∨ r.type.getD "" = qtype)

/-- The record has the name and type in the zone. -/
def ResourceRecord.InSet (zone : Int) (qname qtype : String) (r : ResourceRecord) : Prop :=
  r.domainId = zone ∧ r.qname = qname ∧ (Text.agree qtype anyType = true ∨ r.qtype = qtype)

/-- The comment is about the record set of the name and type, with the wildcard about any of the
name. -/
def CommentRow.InSet (zone : Int) (qname qtype : String) (c : CommentRow) : Prop :=
  c.domainId = zone ∧ c.name = qname ∧ (Text.agree qtype anyType = true ∨ c.type = qtype)

/-- The comment has the name and the very type in the zone. -/
def CommentRow.IsOf (zone : Int) (qname qtype : String) (c : CommentRow) : Prop :=
  c.domainId = zone ∧ c.name = qname ∧ c.type = qtype

section Sets

variable {zone : Int} {qname qtype : String}

instance : DecidablePred (RecordRow.InSet zone qname qtype) :=
  fun _ => inferInstanceAs (Decidable (_ ∧ _ ∧ _))

instance : DecidablePred (RecordRow.ShownUnder zone qname qtype) :=
  fun _ => inferInstanceAs (Decidable (_ ∧ _ ∧ _))

instance : DecidablePred (ResourceRecord.InSet zone qname qtype) :=
  fun _ => inferInstanceAs (Decidable (_ ∧ _ ∧ _))

instance : DecidablePred (CommentRow.InSet zone qname qtype) :=
  fun _ => inferInstanceAs (Decidable (_ ∧ _ ∧ _))

instance : DecidablePred (CommentRow.IsOf zone qname qtype) :=
  fun _ => inferInstanceAs (Decidable (_ ∧ _ ∧ _))

/-- The condition under which the rows of a set are deleted. -/
theorem deletes_iff_inSet (r : RecordRow) :
    (r.isIn (some zone) && r.isNamed (some qname) && (typeScope qtype).admits r.type) = true ↔
      r.InSet zone qname qtype := by
  have htype : (typeScope qtype).admits r.type = true ↔
      Text.agree qtype anyType = true ∨ r.type = some qtype := by
    unfold typeScope
    split
    · simp [Scope.admits, *]
    · simp [Scope.admits, holds_some_iff, *]
  rw [Bool.and_eq_true, Bool.and_eq_true, htype, RecordRow.isIn, RecordRow.isNamed, holds_some_iff,
    holds_some_iff, and_assoc]
  rfl

/-- The condition under which the comments of a set are deleted. -/
theorem deletes_iff_isOf (c : CommentRow) :
    (holds (some c.domainId) (some zone) && holds (some c.name) (some qname) &&
        holds (some c.type) (some qtype)) = true ↔ c.IsOf zone qname qtype := by
  rw [Bool.and_eq_true, Bool.and_eq_true, holds_some_some, holds_some_some, holds_some_some,
    beq_iff_eq, beq_iff_eq, beq_iff_eq, and_assoc]
  rfl

/-- A row of the set is listed under its name and type. -/
theorem RecordRow.InSet.shownUnder {r : RecordRow} (h : r.InSet zone qname qtype) :
    r.ShownUnder zone qname qtype := by
  obtain ⟨hzone, hname, htype⟩ := h
  refine ⟨hzone, by rw [hname]; rfl, htype.imp_right fun htype => by rw [htype]; rfl⟩

/-- Only rows without a name or without a type are listed under a name and type of which they are
not. -/
theorem RecordRow.ShownUnder.inSet {r : RecordRow} (h : r.ShownUnder zone qname qtype)
    (hname : qname ≠ "") (htype : qtype ≠ "") : r.InSet zone qname qtype := by
  obtain ⟨hzone, hshown, hshown'⟩ := h
  refine ⟨hzone, ?_, ?_⟩
  · cases hcolumn : r.name with
    | none => simp [hcolumn, hname.symm] at hshown
    | some name => simpa [hcolumn] using hshown
  · refine hshown'.imp_right fun hshown => ?_
    cases hcolumn : r.type with
    | none => simp [hcolumn, htype.symm] at hshown
    | some type => simpa [hcolumn] using hshown

/-- A row that is read has a zone, and its name and type are the empty text where it has none. -/
theorem key_of_ofListingRow {row : RecordRow} {r : ResourceRecord}
    (h : ResourceRecord.ofListingRow row = .ok r) :
    row.domainId = some r.domainId ∧ row.name.getD "" = r.qname ∧ row.type.getD "" = r.qtype := by
  obtain ⟨read, hread, rfl⟩ := map_eq_ok_iff.1 h
  obtain ⟨ttl, -, hread⟩ := bind_eq_ok_iff.1 hread
  cases hzone : row.domainId with
  | none => simp [hzone] at hread
  | some domainId =>
    simp only [hzone, Except.ok.injEq] at hread
    subst hread
    exact ⟨rfl, rfl, rfl⟩

/-- A row is read as a record of the name and type under which it is listed. -/
theorem shownUnder_iff_inSet {row : RecordRow} {r : ResourceRecord}
    (h : ResourceRecord.ofListingRow row = .ok r) :
    row.ShownUnder zone qname qtype ↔ r.InSet zone qname qtype := by
  obtain ⟨hzone, hname, htype⟩ := key_of_ofListingRow h
  rw [RecordRow.ShownUnder, ResourceRecord.InSet, hzone, hname, htype, Option.some.injEq]

end Sets

/-! ## The tables after a replacement -/

/-- The row holds the record: without an ordering key, and authoritative outside the signing
mode. -/
structure RecordRow.Holds (dnssec : Bool) (row : RecordRow) (r : ResourceRecord) : Prop where
  domainId : row.domainId = some r.domainId
  name : row.name = some r.qname
  type : row.type = some r.qtype
  content : row.content = some r.content
  ttl : row.ttl = some r.ttl.toNat
  prio : row.prio = some r.priority
  disabled : row.disabled = some (storedBool r.disabled)
  ordername : row.ordername = none
  auth : row.auth = some (storedBool (!dnssec || r.auth))

theorem RecordRow.Holds.unnumbered {dnssec : Bool} {row : RecordRow} {r : ResourceRecord}
    (h : row.Holds dnssec r) : row.unnumbered = r.toRow dnssec "" := by
  obtain ⟨id, domainId, name, type, content, ttl, prio, disabled, ordername, auth⟩ := row
  obtain ⟨rfl, rfl, rfl, rfl, rfl, rfl, rfl, rfl, rfl⟩ := h
  rfl

/-- The row belongs to the set to which the record belongs. -/
theorem RecordRow.Holds.inSet {dnssec : Bool} {row : RecordRow} {r : ResourceRecord} {zone : Int}
    {qname qtype : String} (h : row.Holds dnssec r) (hr : r.InSet zone qname qtype) :
    row.InSet zone qname qtype := by
  obtain ⟨hzone, hname, htype⟩ := hr
  refine ⟨by rw [h.domainId, hzone], by rw [h.name, hname], ?_⟩
  exact htype.imp_right fun htype => by rw [h.type, htype]

theorem RecordRow.holds_of_unnumbered {dnssec : Bool} {row : RecordRow} {r : ResourceRecord}
    (h : row.unnumbered = r.toRow dnssec "") : row.Holds dnssec r := by
  constructor
  · exact congrArg RecordRow.domainId h
  · exact congrArg RecordRow.name h
  · exact congrArg RecordRow.type h
  · exact congrArg RecordRow.content h
  · exact congrArg RecordRow.ttl h
  · exact congrArg RecordRow.prio h
  · exact congrArg RecordRow.disabled h
  · exact congrArg RecordRow.ordername h
  · exact congrArg RecordRow.auth h

/-- Replacing the set of a name and type in a zone by the given records leads from the one tables to
the others. -/
structure Tables.Replaces (dnssec : Bool) (zone : Int) (qname qtype : String)
    (given : List ResourceRecord) (before after : Tables) : Prop where
  records : ∃ added,
    after.records = (before.records.filter fun r => ¬ r.InSet zone qname qtype) ++ added ∧
      List.Forall₂ (RecordRow.Holds dnssec) added given
  comments : given ≠ [] → after.comments = before.comments
  orphaned : given = [] →
    after.comments = before.comments.filter fun c => ¬ c.IsOf zone qname qtype
  others : { after with records := before.records, comments := before.comments } = before

section Replacing

variable {dnssec : Bool} {zone : Int} {qname qtype : String} {given : List ResourceRecord}
  {before after : Tables}

/-- Replacing a set is never refused, and does what it is to do. -/
theorem Tables.exists_replaces (dnssec : Bool) (zone : Int) (qname qtype : String)
    (given : List ResourceRecord) (before : Tables) :
    ∃ after, before.runAll (Update.recordSet dnssec zone qname qtype given) = .ok after ∧
      Replaces dnssec zone qname qtype given before after := by
  -- Without a record to put there the comments go too, so the two lists of mutations differ.
  cases given with
  | nil =>
    refine ⟨_, rfl, ⟨[], ?_, .nil⟩, fun h => absurd rfl h, fun _ => ?_, rfl⟩
    · rw [List.append_nil]
      exact without_eq_filter deletes_iff_inSet before.records
    · exact without_eq_filter deletes_iff_isOf before.comments
  | cons r rest =>
    obtain ⟨added, hrun, hadded⟩ := exists_runAll_insertions
      { before with records := before.records.filter fun r => ¬ r.InSet zone qname qtype }
      ((r :: rest).map fun r => r.toRow dnssec "")
    rw [List.map_map] at hrun
    rw [List.forall₂_map_right_iff] at hadded
    rw [← without_eq_filter deletes_iff_inSet before.records] at hrun
    refine ⟨_, hrun, ⟨added, ?_, ?_⟩, fun _ => rfl, fun h => absurd h (List.cons_ne_nil _ _), rfl⟩
    · rw [without_eq_filter deletes_iff_inSet]
    · exact hadded.imp fun row r hrow => RecordRow.holds_of_unnumbered hrow

/-- The rows that a replacement leaves or adds and that are listed under its name and type. -/
theorem Tables.Replaces.filter_shownUnder (h : Replaces dnssec zone qname qtype given before after)
    (hgiven : ∀ r ∈ given, r.InSet zone qname qtype) :
    ∃ added, List.Forall₂ (RecordRow.Holds dnssec) added given ∧
      (after.zoneRows zone).filter (fun r => r.ShownUnder zone qname qtype) =
        (before.records.filter fun r =>
          r.ShownUnder zone qname qtype ∧ ¬ r.InSet zone qname qtype) ++ added := by
  obtain ⟨added, hrecords, hadded⟩ := h.records
  refine ⟨added, hadded, ?_⟩
  have hshown : ∀ row ∈ added, row.ShownUnder zone qname qtype := by
    intro row hrow
    obtain ⟨r, hr, hholds⟩ := exists_of_mem_left hadded hrow
    exact (hholds.inSet (hgiven r hr)).shownUnder
  have hzone : (after.zoneRows zone).filter (fun r => r.ShownUnder zone qname qtype) =
      after.records.filter fun r => r.ShownUnder zone qname qtype := by
    rw [Tables.zoneRows, List.filter_filter]
    refine List.filter_congr fun r _ => ?_
    rw [Bool.eq_iff_iff, Bool.and_eq_true, decide_eq_true_iff, RecordRow.isIn, holds_some_iff]
    exact ⟨And.left, fun hr => ⟨hr, hr.1⟩⟩
  rw [hzone, hrecords, List.filter_append, List.filter_filter]
  -- Of the old rows those outside of the set count, of the new ones all.
  congr 1
  · refine List.filter_congr fun r _ => ?_
    rw [Bool.decide_and]
  · rw [List.filter_eq_self]
    intro row hrow
    exact decide_eq_true (hshown row hrow)

end Replacing

/-! ## Listings after a replacement -/

namespace Backend

variable {b : Backend} {dnssec : Bool} {zone : Int} {qname qtype : String}
  {given : List ResourceRecord} {before after : Tables}

/-- Where the rows of the zone can be read, the zone is listed with the given records as those of
the name and type, and with what the replacement missed. -/
theorem list_replaced (hb : b.store.Calm) (hfree : b.HasFree)
    (hafter : b.store.database.tables = some after)
    (h : Tables.Replaces dnssec zone qname qtype given before after)
    (hgiven : ∀ r ∈ given, r.InSet zone qname qtype)
    (hread : ∀ row ∈ after.records, row.domainId = some zone →
      ∃ r, ResourceRecord.ofListingRow row = .ok r) (name : String) :
    ∃ listed missed, ((list name (some zone) true).run b).1 = .ok listed ∧
      (listed.filter fun r => r.InSet zone qname qtype).Perm
        (missed ++ given.map fun r => r.fed dnssec "") ∧
      List.Forall₂ (fun row r => ResourceRecord.ofListingRow row = .ok r)
        (before.records.filter fun r =>
          r.ShownUnder zone qname qtype ∧ ¬ r.InSet zone qname qtype) missed := by
  obtain ⟨added, hadded, hrows⟩ := h.filter_shownUnder hgiven
  obtain ⟨records, hrecords⟩ := mapM_succeeds_iff.2 fun row (hrow : row ∈ after.zoneRows zone) => by
    obtain ⟨hmem, hzone⟩ := List.mem_filter.1 hrow
    exact hread row hmem (holds_some_iff.1 hzone)
  rw [mapM_eq_ok_iff] at hrecords
  obtain ⟨listed, hlisted, hperm⟩ := list_of_forall₂ hb hfree hafter name hrecords
  -- The rows that are listed under the key are read as the records that have it.
  have hkey : List.Forall₂ (fun row r => ResourceRecord.ofListingRow row = .ok r)
      ((after.zoneRows zone).filter fun r => r.ShownUnder zone qname qtype)
      (records.filter fun r => r.InSet zone qname qtype) := by
    refine List.rel_filter (fun {row r} hrow => ?_) hrecords
    simp only [decide_eq_true_iff]
    exact shownUnder_iff_inSet hrow
  rw [hrows] at hkey
  -- They are composed like their rows, and the new rows can only be read as what was given.
  obtain ⟨missed, fed, heq, hmissed, hfed⟩ := exists_of_append hkey.flip
  have hread' : List.Forall₂ (fun row r => ResourceRecord.ofListingRow row = .ok r) added
      (given.map fun r => r.fed dnssec "") := by
    rw [List.forall₂_map_right_iff]
    exact hadded.imp fun row r hrow => ofListingRow_of_unnumbered hrow.unnumbered
  obtain rfl := eq_of_forall₂_ok hfed.flip hread'
  refine ⟨listed, missed, hlisted, ?_, hmissed.flip⟩
  rw [← heq]
  exact hperm.filter _

/-! ## The theorems -/

variable {id : Int} {committed : Tables}

/-- Replacing a record set in a transaction that can write. -/
theorem Working.replaceRecordSet (h : b.Working id committed before) (zone : Int)
    (qname qtype : String) (given : List ResourceRecord) :
    ∃ after, ((Backend.replaceRecordSet id zone qname qtype given).run b).1 = .ok () ∧
      Working ((Backend.replaceRecordSet id zone qname qtype given).run b).2 id committed after ∧
      Tables.Replaces b.dnssec zone qname qtype given before after := by
  obtain ⟨after, hrun, hok, hworking⟩ :=
    h.update (Update.neverRefused_recordSet b.dnssec zone qname qtype given)
  obtain ⟨after', hrun', hreplaces⟩ :=
    Tables.exists_replaces b.dnssec zone qname qtype given before
  obtain rfl := Except.ok.inj (hrun.symm.trans hrun')
  exact ⟨after, hok, hworking, hreplaces⟩

/-- Replacing the records of a name and type, in every state that a run can reach and in every open
transaction that can write. The call succeeds, the transaction then sees the tables with the set
replaced, and a commit makes these the committed ones. If the given records are of that name and
type and the rows of the zone can be read, as they always can be after operations alone, the zone
is then listed with them as its records of the name and type, besides rows without a name or type
that are listed under the empty text. -/
theorem record_set_replaced (b : Backend) (hreachable : b.Reachable) (id : Int)
    (hwritable : b.Writable id) (zone : Int) (qname qtype : String)
    (given : List ResourceRecord) :
    ∃ before after, b.view? id = some before ∧
      b.AllSucceed [.replaceRecordSet id zone qname qtype given, .commitTransaction id] ∧
      (b.afterAll [.replaceRecordSet id zone qname qtype given]).view? id = some after ∧
      Tables.Replaces b.dnssec zone qname qtype given before after ∧
      (b.afterAll [.replaceRecordSet id zone qname qtype given,
        .commitTransaction id]).store.database.tables = some after ∧
      (∀ connections dnssec hasher ops, b = operated connections dnssec hasher ops →
        ∀ row ∈ after.records, ∃ r, ResourceRecord.ofListingRow row = .ok r) ∧
      ((∀ r ∈ given, r.InSet zone qname qtype) →
        (∀ row ∈ after.records, row.domainId = some zone →
          ∃ r, ResourceRecord.ofListingRow row = .ok r) →
        ∀ name, ∃ listed missed,
          ((list name (some zone) true).run (b.afterAll
            [.replaceRecordSet id zone qname qtype given, .commitTransaction id])).1 =
              .ok listed ∧
          (listed.filter fun r => r.InSet zone qname qtype).Perm
            (missed ++ given.map fun r => r.fed b.dnssec "") ∧
          List.Forall₂ (fun row r => ResourceRecord.ofListingRow row = .ok r)
            (before.records.filter fun r =>
              r.ShownUnder zone qname qtype ∧ ¬ r.InSet zone qname qtype) missed ∧
          (qname ≠ "" → qtype ≠ "" → missed = [])) := by
  obtain ⟨committed, before, hworking⟩ := hreachable.working hwritable
  obtain ⟨after, hok, hafter, hreplaces⟩ := hworking.replaceRecordSet zone qname qtype given
  obtain ⟨hcommit, hcalm, hfree, htables⟩ := hafter.commit
  refine ⟨before, after, hworking.view?_eq, ⟨hok, hcommit, trivial⟩, hafter.view?_eq, hreplaces,
    htables, ?_, ?_⟩
  · rintro connections dnssec hasher ops rfl row hrow
    -- The two operations make the run one of operations that is longer.
    have hlonger : (operated connections dnssec hasher
        (ops ++ [⟨Unit, .replaceRecordSet id zone qname qtype given⟩,
          ⟨Unit, .commitTransaction id⟩])).store.database.tables = some after := by
      rw [operated_append]
      exact htables
    exact (whole_of_operated hlonger row hrow).exists_ofListingRow
  · intro hgiven hread name
    obtain ⟨listed, missed, hlisted, hperm, hmissed⟩ :=
      list_replaced hcalm hfree htables hreplaces hgiven hread name
    refine ⟨listed, missed, hlisted, hperm, hmissed, ?_⟩
    intro hname htype
    have hnone : (before.records.filter fun r =>
        r.ShownUnder zone qname qtype ∧ ¬ r.InSet zone qname qtype) = [] := by
      rw [List.filter_eq_nil_iff]
      intro r _ hr
      obtain ⟨hshown, hout⟩ := of_decide_eq_true hr
      exact hout (hshown.inSet hname htype)
    rw [hnone] at hmissed
    exact List.forall₂_nil_left_iff.1 hmissed

/-- A backend on which a record was fed with a comment on it, in a transaction that is open. -/
def annotated : Backend :=
  operated 8 false none
    [⟨Unit, .startTransaction 7 0⟩,
     ⟨Unit, .feedRecord 7 (.plain 1 "www.example.org" "A" "192.0.2.1" 60) ""⟩,
     ⟨Unit, .feedComment 7 ⟨1, "www.example.org", "A", 1700000000, "admin", "in use"⟩⟩]

theorem reachable_annotated : annotated.Reachable := ⟨8, false, none, _, rfl⟩

theorem writable_annotated : annotated.Writable 7 := ⟨_, rfl, by decide, by decide⟩

/-- The record is replaced by another one. -/
theorem record_set_replaced_annotated :
    ∃ listed,
      ((list "example.org" (some 1) true).run (annotated.afterAll
        [.replaceRecordSet 7 1 "www.example.org" "A"
          [.plain 1 "www.example.org" "A" "192.0.2.2" 60], .commitTransaction 7])).1 =
            .ok listed ∧
      (listed.filter fun r => r.InSet 1 "www.example.org" "A").Perm
        [.plain 1 "www.example.org" "A" "192.0.2.2" 60] := by
  obtain ⟨before, after, -, -, -, -, -, hreadable, hlist⟩ := record_set_replaced annotated
    reachable_annotated 7 writable_annotated 1 "www.example.org" "A"
    [.plain 1 "www.example.org" "A" "192.0.2.2" 60]
  obtain ⟨listed, missed, hlisted, hperm, -, hmissed⟩ :=
    hlist (by decide) (fun row hrow _ => hreadable _ _ _ _ rfl row hrow) "example.org"
  obtain rfl := hmissed (by decide) (by decide)
  exact ⟨listed, hlisted, hperm⟩

/-- A backend on which an empty non-terminal was added, in a transaction that is open. -/
def hollow : Backend :=
  operated 8 false none
    [⟨Unit, .startTransaction 7 0⟩,
     ⟨Unit, .feedEmptyNonTerminals 7 1 (TextMap.empty.insert "www.example.org" true)⟩]

/-- The empty text as a type does not reach the empty non-terminal, but it is listed with it. -/
theorem untyped_set_remains :
    hollow.Reachable ∧ hollow.Writable 7 ∧
      hollow.AllSucceed [.replaceRecordSet 7 1 "www.example.org" "" [], .commitTransaction 7] ∧
      ((list "example.org" (some 1) true).run (hollow.afterAll
          [.replaceRecordSet 7 1 "www.example.org" "" [], .commitTransaction 7])).1 =
        .ok [.plain 1 "www.example.org" "" "" 0] ∧
      (ResourceRecord.plain 1 "www.example.org" "" "" 0).InSet 1 "www.example.org" "" := by
  refine ⟨⟨8, false, none, _, rfl⟩, ⟨_, rfl, by decide, by decide⟩, ⟨rfl, rfl, trivial⟩, ?_, by decide⟩
  decide +kernel

/-- Removing record sets, in every state that a run can reach and in every open transaction that can
write. The call succeeds and leaves no record of the sets; of the comments it removes those of the
very type asked for. So it leaves no comment on the removed sets exactly if the type asked for is
not the wildcard, or no comment of the name bears another type than the wildcard as it was
spelled. -/
theorem comments_of_removed_sets (b : Backend) (hreachable : b.Reachable) (id : Int)
    (hwritable : b.Writable id) (zone : Int) (qname qtype : String) :
    ∃ before after, b.view? id = some before ∧
      ((replaceRecordSet id zone qname qtype []).run b).1 = .ok () ∧
      ((replaceRecordSet id zone qname qtype []).run b).2.view? id = some after ∧
      (∀ r ∈ after.records, ¬ r.InSet zone qname qtype) ∧
      (after.comments = before.comments.filter fun c => ¬ c.IsOf zone qname qtype) ∧
      ((∀ c ∈ after.comments, ¬ c.InSet zone qname qtype) ↔
        (Text.agree qtype anyType = true →
          ∀ c ∈ before.comments, c.domainId = zone → c.name = qname → c.type = qtype)) := by
  obtain ⟨committed, before, hworking⟩ := hreachable.working hwritable
  obtain ⟨after, hok, hafter, hreplaces⟩ := hworking.replaceRecordSet zone qname qtype []
  have hcomments := hreplaces.orphaned rfl
  refine ⟨before, after, hworking.view?_eq, hok, hafter.view?_eq, ?_, hcomments, ?_⟩
  · obtain ⟨added, hrecords, hadded⟩ := hreplaces.records
    obtain rfl := List.forall₂_nil_right_iff.1 hadded
    intro r hr
    rw [hrecords, List.append_nil] at hr
    exact of_decide_eq_true (List.mem_filter.1 hr).2
  · rw [hcomments]
    constructor
    · -- A comment of another type stays, and under the wildcard it is on a removed set.
      intro h hany c hc hzone hname
      by_contra htype
      refine h c (List.mem_filter.2 ⟨hc, decide_eq_true ?_⟩) ⟨hzone, hname, .inl hany⟩
      exact fun hof => htype hof.2.2
    · intro h c hc hset
      obtain ⟨hc, hkept⟩ := List.mem_filter.1 hc
      obtain ⟨hzone, hname, hany | htype⟩ := hset
      · exact of_decide_eq_true hkept ⟨hzone, hname, h hany c hc hzone hname⟩
      · exact of_decide_eq_true hkept ⟨hzone, hname, htype⟩

/-- With a type the comments go with the records. -/
theorem comments_of_removed_sets_annotated :
    ∃ after, ((replaceRecordSet 7 1 "www.example.org" "A" []).run annotated).1 = .ok () ∧
      ((replaceRecordSet 7 1 "www.example.org" "A" []).run annotated).2.view? 7 = some after ∧
      (∀ r ∈ after.records, ¬ r.InSet 1 "www.example.org" "A") ∧
      ∀ c ∈ after.comments, ¬ c.InSet 1 "www.example.org" "A" := by
  obtain ⟨before, after, -, hok, hafter, hrecords, -, hiff⟩ := comments_of_removed_sets annotated
    reachable_annotated 7 writable_annotated 1 "www.example.org" "A"
  exact ⟨after, hok, hafter, hrecords, hiff.2 fun hany => absurd hany (by decide)⟩

/-- With the wildcard the records go and their comment stays. -/
theorem any_keeps_comments :
    annotated.Reachable ∧ annotated.Writable 7 ∧
      ((replaceRecordSet 7 1 "www.example.org" "ANY" []).run annotated).1 = .ok () ∧
      ∃ after c,
        ((replaceRecordSet 7 1 "www.example.org" "ANY" []).run annotated).2.view? 7 = some after ∧
        after.records = [] ∧ c ∈ after.comments ∧ c.InSet 1 "www.example.org" "ANY" := by
  refine ⟨reachable_annotated, writable_annotated, rfl, _, _, rfl, rfl,
    List.mem_singleton.2 rfl, ?_⟩
  decide

end Backend

end ZoneStore
