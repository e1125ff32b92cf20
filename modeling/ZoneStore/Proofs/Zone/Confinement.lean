import ZoneStore.Proofs.Backend.Issued
import ZoneStore.Proofs.Zone.Attempts
import ZoneStore.Proofs.Zone.Content

/-!
# Updates that keep to a zone

An update of a zone removes and revises rows of that zone only (`Mutation.KeepsTo`), and empty
non-terminals are added to it. So of the rows of other zones nothing changes but that the records
and comments that the update gives are added, those of them that are of other zones
(`Tables.Confines`): what one mutation does (`Mutation.KeepsTo.confines`) and what a list of them
does (`Tables.confines_runAll`). In the open transactions of all states that a run can reach this is
what the updates of a zone do, and the deletion at the start of a transaction adds nothing
(`Backend.zone_updates_confined`).
-/

set_option autoImplicit false

namespace ZoneStore

/-! ## Rows of other zones -/

/-- The record belongs to another zone, or to none. -/
def RecordRow.isOutside (zone : Int) (r : RecordRow) : Bool := !r.isIn (some zone)

/-- The comment belongs to another zone. -/
def CommentRow.isOutside (zone : Int) (c : CommentRow) : Bool := decide (c.domainId ≠ zone)

namespace Tables

/-- The records of other zones. -/
def recordsOutside (tables : Tables) (zone : Int) : List RecordRow :=
  tables.records.filter (RecordRow.isOutside zone)

/-- The comments of other zones. -/
def commentsOutside (tables : Tables) (zone : Int) : List CommentRow :=
  tables.comments.filter (CommentRow.isOutside zone)

end Tables

/-- Revising rows leaves those of a kind that is not revised, if a row keeps its kind. -/
theorem filter_revise {α : Type} {p q : α → Bool} {f : α → α} (h : ∀ a, p a = true → q a = false)
    (hf : ∀ a, q (f a) = q a) (rows : List α) :
    (revise p f rows).filter q = rows.filter q := by
  induction rows with
  | nil => rfl
  | cons a rest ih =>
    rw [revise, List.map_cons, ← revise]
    cases hp : p a with
    | false => simp only [Bool.false_eq_true, if_false, List.filter_cons, ih]
    | true =>
      -- The row is not of the kind, neither before nor after.
      simp only [if_true, List.filter_cons, hf, h a hp, Bool.false_eq_true, if_false, ih]

/-! ## What an update does to other zones -/

/-- Of the rows of other zones nothing changes, but for those of the given records and comments
that are of other zones and are added. -/
structure Tables.Confines (zone : Int) (records : List RecordRow) (comments : List CommentRow)
    (before after : Tables) : Prop where
  records : ∃ added, after.recordsOutside zone = before.recordsOutside zone ++ added ∧
    added.map RecordRow.unnumbered =
      (records.filter (RecordRow.isOutside zone)).map RecordRow.unnumbered
  comments : ∃ added, after.commentsOutside zone = before.commentsOutside zone ++ added ∧
    added.map CommentRow.unnumbered =
      (comments.filter (CommentRow.isOutside zone)).map CommentRow.unnumbered

namespace Mutation

/-- The comment that a mutation adds, before it has an id. -/
def newComment? : Mutation → Option CommentRow
  | insertComment (some zone) (some name) (some type) (some modifiedAt) account (some comment) =>
    some ⟨0, zone, name, type, modifiedAt, account, comment⟩
  | _ => none

/-- The mutation adds a record or a comment, or it removes or revises rows of the zone only. The
empty non-terminals that it adds are in the zone. -/
inductive KeepsTo (zone : Int) : Mutation → Prop where
  /-- A record is added. -/
  | insertRecord (row : RecordRow) : KeepsTo zone (.insertRecord row)
  /-- An empty non-terminal of the zone is added. -/
  | insertEmptyNonTerminal (name key : Option String) (auth : Option Int) :
      KeepsTo zone (.insertEmptyNonTerminal (some zone) name key auth)
  /-- A comment is added. -/
  | insertComment (c : Comment) : KeepsTo zone c.insertion
  /-- The empty non-terminals of the zone are removed. -/
  | removeEmptyNonTerminals : KeepsTo zone (.removeEmptyNonTerminals (some zone))
  /-- The empty non-terminals of a name in the zone are removed. -/
  | removeEmptyNonTerminal (name : Option String) :
      KeepsTo zone (.removeEmptyNonTerminal (some zone) name)
  /-- The records of the zone are removed. -/
  | deleteZone : KeepsTo zone (.deleteZone (some zone))
  /-- The records of a name in the zone are removed. -/
  | deleteRecords (name : Option String) (type : Scope String) :
      KeepsTo zone (.deleteRecords (some zone) name type)
  /-- The records of a name in the zone are ordered. -/
  | order (name : Option String) (type : Scope String) (change : KeyChange) (auth : Option Int) :
      KeepsTo zone (.order (some zone) name type change auth)
  /-- The comments on a set in the zone are removed. -/
  | deleteRecordSetComments (name type : Option String) :
      KeepsTo zone (.deleteRecordSetComments (some zone) name type)

end Mutation

namespace Tables

variable {zone : Int} {records records' : List RecordRow} {comments comments' : List CommentRow}
  {t t' t'' : Tables}

theorem Confines.refl (zone : Int) (t : Tables) : t.Confines zone [] [] t :=
  ⟨⟨[], (List.append_nil _).symm, rfl⟩, ⟨[], (List.append_nil _).symm, rfl⟩⟩

theorem Confines.trans (h : Confines zone records comments t t')
    (h' : Confines zone records' comments' t' t'') :
    Confines zone (records ++ records') (comments ++ comments') t t'' := by
  obtain ⟨⟨rows, hrows, hgiven⟩, ⟨notes, hnotes, hsaid⟩⟩ := h
  obtain ⟨⟨rows', hrows', hgiven'⟩, ⟨notes', hnotes', hsaid'⟩⟩ := h'
  refine ⟨⟨rows ++ rows', ?_, ?_⟩, ⟨notes ++ notes', ?_, ?_⟩⟩
  · rw [hrows', hrows, List.append_assoc]
  · rw [List.map_append, hgiven, hgiven', List.filter_append, List.map_append]
  · rw [hnotes', hnotes, List.append_assoc]
  · rw [List.map_append, hsaid, hsaid', List.filter_append, List.map_append]

/-- A new row comes after the others, if it is of another zone. -/
theorem confines_insertRecord (zone : Int) (t : Tables) (row : RecordRow) :
    t.Confines zone [row] [] (t.insertRecord row).tables := by
  refine ⟨⟨_, List.filter_append _ _, ?_⟩, (Confines.refl zone t).comments⟩
  -- Its id does not decide on which side it is.
  have hside : RecordRow.isOutside zone { row with id := nextId RecordRow.id t.records } =
      row.isOutside zone := rfl
  simp only [List.filter_cons, hside, List.filter_nil]
  split <;> rfl

theorem confines_insertComment (zone : Int) (t : Tables) (c : Comment) {change : Change}
    (h : c.insertion.apply t = .ok change) : t.Confines zone [] [c.toRow] change.tables := by
  obtain rfl := Except.ok.inj h
  refine ⟨(Confines.refl zone t).records, ⟨_, List.filter_append _ _, ?_⟩⟩
  have hside : CommentRow.isOutside zone { c.toRow with id := nextId CommentRow.id t.comments } =
      c.toRow.isOutside zone := rfl
  show ([{ c.toRow with id := nextId CommentRow.id t.comments }].filter _).map _ = _
  simp only [List.filter_cons, hside, List.filter_nil]
  split <;> rfl

/-- Rows outside of the zone survive a deletion in it. -/
theorem confines_deleteRecords {p : RecordRow → Bool}
    (h : ∀ r, p r = true → r.isIn (some zone) = true) (t : Tables) :
    t.Confines zone [] [] (t.deleteRecords p).tables := by
  refine ⟨⟨[], ?_, rfl⟩, (Confines.refl zone t).comments⟩
  rw [List.append_nil]
  exact filter_without (fun r hr => by rw [RecordRow.isOutside, h r hr]; rfl) t.records

theorem confines_deleteComments {p : CommentRow → Bool}
    (h : ∀ c, p c = true → c.domainId = zone) (t : Tables) :
    t.Confines zone [] [] (t.deleteComments p).tables := by
  refine ⟨(Confines.refl zone t).records, ⟨[], ?_, rfl⟩⟩
  rw [List.append_nil]
  exact filter_without (fun c hc => by simp [CommentRow.isOutside, h c hc]) t.comments

/-- They keep everything where records of the zone get another key and authority. -/
theorem confines_reorderRecords {p : RecordRow → Bool}
    (h : ∀ r, p r = true → r.isIn (some zone) = true) (key : Option String) (auth : Option Int)
    (t : Tables) :
    t.Confines zone [] []
      (t.reorderRecords p fun r => { r with ordername := key, auth := auth }).tables := by
  have hout : ∀ r, p r = true → r.isOutside zone = false := fun r hr => by
    rw [RecordRow.isOutside, h r hr]
    rfl
  refine ⟨⟨[], ?_, rfl⟩, (Confines.refl zone t).comments⟩
  rw [List.append_nil]
  exact filter_revise (f := fun r => { r with ordername := key, auth := auth }) hout (fun _ => rfl)
    t.records

end Tables

variable {zone : Int} {t t' : Tables} {m : Mutation} {ms : List Mutation} {change : Change}

/-- What one mutation does: no row of another zone changes, and what it adds is added. -/
theorem Mutation.KeepsTo.confines (h : m.KeepsTo zone) (hm : m.apply t = .ok change) :
    t.Confines zone m.newRecord?.toList m.newComment?.toList change.tables := by
  cases h with
  | insertRecord row =>
    cases hm
    exact Tables.confines_insertRecord zone t row
  | insertEmptyNonTerminal name key auth =>
    cases hm
    exact Tables.confines_insertRecord zone t _
  | insertComment c => exact Tables.confines_insertComment zone t c hm
  | removeEmptyNonTerminals =>
    cases hm
    exact Tables.confines_deleteRecords (fun r hr => (Bool.and_eq_true_iff.1 hr).1) t
  | removeEmptyNonTerminal name | deleteRecords name type =>
    cases hm
    refine Tables.confines_deleteRecords (fun r hr => ?_) t
    exact (Bool.and_eq_true_iff.1 (Bool.and_eq_true_iff.1 hr).1).1
  | deleteZone =>
    cases hm
    exact Tables.confines_deleteRecords (fun _ hr => hr) t
  | order name type change auth =>
    cases hm
    refine Tables.confines_reorderRecords (fun r hr => ?_) _ _ t
    simp only [Bool.and_eq_true] at hr
    exact hr.1.1.1
  | deleteRecordSetComments name type =>
    cases hm
    refine Tables.confines_deleteComments (fun c hc => ?_) t
    simp only [Bool.and_eq_true, holds_some_some, beq_iff_eq] at hc
    exact hc.1.1

/-- What a list of mutations does. -/
theorem Tables.confines_runAll (h : ∀ m ∈ ms, m.KeepsTo zone) (hrun : t.runAll ms = .ok t') :
    t.Confines zone (ms.filterMap Mutation.newRecord?) (ms.filterMap Mutation.newComment?) t' := by
  induction ms generalizing t with
  | nil =>
    cases hrun
    exact .refl zone _
  | cons m rest ih =>
    rw [runAll_cons] at hrun
    obtain ⟨change, hchange, hrest⟩ := bind_eq_ok_iff.1 hrun
    have hstep := (h m List.mem_cons_self).confines hchange
    have hconfines := hstep.trans (ih (fun m hm => h m (List.mem_cons_of_mem _ hm)) hrest)
    cases hrecord : m.newRecord? <;> cases hcomment : m.newComment? <;>
      simpa [List.filterMap_cons, hrecord, hcomment] using hconfines

/-! ## The updates of a zone -/

/-- The operation updates a zone in a numbered transaction. -/
inductive Operation.UpdatesZone (id zone : Int) : Operation Unit → Prop where
  /-- It replaces the records of a name and type. -/
  | replaceRecordSet (qname qtype : String) (records : List ResourceRecord) :
      UpdatesZone id zone (.replaceRecordSet id zone qname qtype records)
  /-- It replaces the comments of a name and type. -/
  | replaceComments (qname qtype : String) (comments : List Comment) :
      UpdatesZone id zone (.replaceComments id zone qname qtype comments)
  /-- It adds empty non-terminals. -/
  | feedEmptyNonTerminals (names : TextMap Bool) :
      UpdatesZone id zone (.feedEmptyNonTerminals id zone names)
  /-- It adds empty non-terminals with hashed names. -/
  | feedHashedEmptyNonTerminals (zoneName : String) (names : TextMap Bool) (narrow : Bool) :
      UpdatesZone id zone (.feedHashedEmptyNonTerminals id zone zoneName names narrow)
  /-- It exchanges empty non-terminals. -/
  | updateEmptyNonTerminals (insert erase : TextMap Unit) (removeAll : Bool) :
      UpdatesZone id zone (.updateEmptyNonTerminals id zone insert erase removeAll)
  /-- It orders the records of a name. -/
  | orderRecords (qname : String) (qtype ordername : Option String) (auth : Bool) :
      UpdatesZone id zone (.orderRecords id zone qname qtype ordername auth)

namespace Operation.UpdatesZone

variable {op : Operation Unit} {id : Int} {b : Backend} {before : Tables}

theorem keepsTo (h : op.UpdatesZone id zone) (b : Backend) :
    ∀ m ∈ (op.deed b).mutations, m.KeepsTo zone := by
  cases h with
  | replaceRecordSet =>
    exact Update.forall_mem_recordSet (.deleteRecords _ _) (.deleteRecordSetComments _ _)
      fun r _ => .insertRecord _
  | replaceComments =>
    exact Update.forall_mem_comments (.deleteRecordSetComments _ _) fun c _ => .insertComment c
  | feedEmptyNonTerminals =>
    exact Update.forall_mem_emptyNonTerminals fun _ _ _ => .insertEmptyNonTerminal _ _ _
  | feedHashedEmptyNonTerminals =>
    exact Update.forall_mem_hashedEmptyNonTerminals fun _ _ _ _ => .insertEmptyNonTerminal _ _ _
  | updateEmptyNonTerminals =>
    exact Update.forall_mem_exchangeEmptyNonTerminals .removeEmptyNonTerminals
      (fun _ => .removeEmptyNonTerminal _) fun _ _ => .insertEmptyNonTerminal _ _ _
  | orderRecords => exact List.forall_mem_singleton.2 (.order _ _ _ _)

/-- Where all new rows are in the zone, none is added to another one. -/
theorem filter_newRecords_eq_nil
    (h : ∀ m ∈ ms, ∀ row, m.newRecord? = some row → row.isOutside zone = false) :
    (ms.filterMap Mutation.newRecord?).filter (RecordRow.isOutside zone) = [] := by
  refine List.filter_eq_nil_iff.2 fun row hrow => ?_
  obtain ⟨m, hm, hnew⟩ := List.mem_filterMap.1 hrow
  rw [h m hm row hnew]
  exact Bool.false_ne_true

theorem isOutside_emptyNonTerminal (name key : Option String) (auth : Option Int) :
    (RecordRow.emptyNonTerminal (some zone) name key auth).isOutside zone = false := by
  simp [RecordRow.isOutside, RecordRow.isIn, RecordRow.emptyNonTerminal]

/-- The records that it adds to other zones are those of the given records that are of other
zones. -/
theorem newRecords (h : op.UpdatesZone id zone) (b : Backend) :
    ((op.deed b).mutations.filterMap Mutation.newRecord?).filter (RecordRow.isOutside zone) =
      (op.recordsGiven.filter fun r => r.domainId ≠ zone).map fun r => r.toRow b.dnssec "" := by
  have hnone {m : Mutation} (hm : m.newRecord? = none) :
      ∀ row, m.newRecord? = some row → row.isOutside zone = false :=
    fun row hrow => absurd (hrow.symm.trans hm) (Option.some_ne_none row)
  have hempty (name key : Option String) (auth : Option Int) :
      ∀ row, (Mutation.insertEmptyNonTerminal (some zone) name key auth).newRecord? = some row →
        row.isOutside zone = false := by
    rintro row ⟨⟩
    exact isOutside_emptyNonTerminal _ _ _
  cases h with
  | replaceRecordSet qname qtype records =>
    have hnew : (Update.recordSet b.dnssec zone qname qtype records).filterMap
        Mutation.newRecord? = records.map fun r => r.toRow b.dnssec "" := by
      rw [Update.recordSet, List.filterMap_cons_none rfl, List.filterMap_append,
        List.filterMap_map, ← List.filterMap_eq_map]
      split <;> rfl
    show ((Update.recordSet b.dnssec zone qname qtype records).filterMap _).filter _ = _
    rw [hnew, List.filter_map]
    refine congrArg (List.map _) (List.filter_congr fun r _ => ?_)
    rw [Bool.eq_iff_iff]
    simp [RecordRow.isOutside, RecordRow.isIn, ResourceRecord.toRow]
  | replaceComments =>
    exact filter_newRecords_eq_nil (Update.forall_mem_comments (hnone rfl) fun _ _ => hnone rfl)
  | feedEmptyNonTerminals =>
    exact filter_newRecords_eq_nil (Update.forall_mem_emptyNonTerminals fun _ _ _ => hempty _ _ _)
  | feedHashedEmptyNonTerminals =>
    exact filter_newRecords_eq_nil
      (Update.forall_mem_hashedEmptyNonTerminals fun _ _ _ _ => hempty _ _ _)
  | updateEmptyNonTerminals =>
    exact filter_newRecords_eq_nil (Update.forall_mem_exchangeEmptyNonTerminals (hnone rfl)
      (fun _ => hnone rfl) fun _ _ => hempty _ _ _)
  | orderRecords => rfl

/-- So it is with the comments. -/
theorem newComments (h : op.UpdatesZone id zone) (b : Backend) :
    ((op.deed b).mutations.filterMap Mutation.newComment?).filter (CommentRow.isOutside zone) =
      (op.commentsGiven.filter fun c => c.domainId ≠ zone).map Comment.toRow := by
  have hnone (hms : ∀ m ∈ (op.deed b).mutations, m.newComment? = none)
      (hgiven : op.commentsGiven = []) :
      ((op.deed b).mutations.filterMap Mutation.newComment?).filter (CommentRow.isOutside zone) =
        (op.commentsGiven.filter fun c => c.domainId ≠ zone).map Comment.toRow := by
    rw [List.filterMap_eq_nil_iff.2 hms, hgiven]
    rfl
  cases h with
  | replaceComments qname qtype comments =>
    have hnew : (Update.comments zone qname qtype comments).filterMap Mutation.newComment? =
        comments.map Comment.toRow := by
      rw [Update.comments, List.filterMap_cons_none rfl, List.filterMap_map,
        ← List.filterMap_eq_map]
      rfl
    show ((Update.comments zone qname qtype comments).filterMap _).filter _ = _
    rw [hnew, List.filter_map]
    rfl
  | replaceRecordSet =>
    exact hnone (Update.forall_mem_recordSet rfl rfl fun _ _ => rfl) rfl
  | feedEmptyNonTerminals =>
    exact hnone (Update.forall_mem_emptyNonTerminals fun _ _ _ => rfl) rfl
  | feedHashedEmptyNonTerminals =>
    exact hnone (Update.forall_mem_hashedEmptyNonTerminals fun _ _ _ _ => rfl) rfl
  | updateEmptyNonTerminals =>
    exact hnone
      (Update.forall_mem_exchangeEmptyNonTerminals rfl (fun _ => rfl) fun _ _ => rfl) rfl
  | orderRecords => rfl

/-- In an open transaction it is carried out on what the transaction sees, or it fails and changes
nothing of that. -/
theorem attempt (h : op.UpdatesZone id zone) (hreachable : b.Reachable)
    (hopen : b.view? id = some before) :
    ∃ after, (op.run.run b).2.view? id = some after ∧
      ((op.run.run b).1 = .ok () ∧ before.runAll (op.deed b).mutations = .ok after ∨
        (∃ fault, (op.run.run b).1 = .error fault) ∧ after = before) := by
  have hupdate {ms : List Mutation} (hms : ∀ m ∈ ms, m.NeverRefused)
      (hrun : op.run.run b = (Backend.update id ms).run b) :
      ∃ after, (op.run.run b).2.view? id = some after ∧
        ((op.run.run b).1 = .ok () ∧ before.runAll ms = .ok after ∨
          (∃ fault, (op.run.run b).1 = .error fault) ∧ after = before) := by
    rw [hrun]
    obtain ⟨after, hafter, hcases⟩ := hreachable.update_cases hopen hms
    exact ⟨after, hafter, hcases.imp_right fun hno => ⟨⟨_, hno.2.1⟩, hno.2.2⟩⟩
  have hrefused {ms : List Mutation} (hrun : op.run.run b = (.error .dnssecRequired, b)) :
      ∃ after, (op.run.run b).2.view? id = some after ∧
        ((op.run.run b).1 = .ok () ∧ before.runAll ms = .ok after ∨
          (∃ fault, (op.run.run b).1 = .error fault) ∧ after = before) := by
    rw [hrun]
    exact ⟨before, hopen, Or.inr ⟨⟨_, rfl⟩, rfl⟩⟩
  cases h with
  | replaceRecordSet => exact hupdate (Update.neverRefused_recordSet _ _ _ _ _) rfl
  | replaceComments => exact hupdate (Update.neverRefused_comments _ _ _ _) rfl
  | feedEmptyNonTerminals => exact hupdate (Update.neverRefused_emptyNonTerminals _ _ _) rfl
  | updateEmptyNonTerminals =>
    exact hupdate (Update.neverRefused_exchangeEmptyNonTerminals _ _ _ _) rfl
  | orderRecords qname qtype ordername auth =>
    cases hmode : b.dnssec with
    | true =>
      exact hupdate (List.forall_mem_singleton.2 (Update.neverRefused_order _ _ _ _ _))
        (Backend.run_guarded_of_true hmode)
    | false => exact hrefused (Backend.run_guarded_of_false hmode)
  | feedHashedEmptyNonTerminals zoneName names narrow =>
    cases hmode : b.dnssec with
    | false => exact hrefused (Backend.run_guarded_of_false hmode)
    | true =>
      have hrun : (Operation.feedHashedEmptyNonTerminals id zone zoneName names narrow).run.run b =
          (Backend.inTransaction id (do
            if b.hasher.isNone && names.entries.any (fun n => needsHash narrow n.2) then
              throw .hasherMissing
            Work.performAll
              (Update.hashedEmptyNonTerminals b.hasher zone zoneName names narrow))).run b :=
        Backend.run_guarded_of_true hmode
      cases hmissing : b.hasher.isNone && names.entries.any fun n => needsHash narrow n.2 with
      | false =>
        rw [hmissing] at hrun
        exact hupdate (Update.neverRefused_hashedEmptyNonTerminals _ _ _ _ _) hrun
      | true =>
        -- Without a hasher the work fails before its first mutation.
        rw [hmissing] at hrun
        obtain ⟨herror, hview⟩ := Backend.run_inTransaction_throw (α := Unit) hopen .hasherMissing
        rw [hrun]
        exact ⟨before, hview, Or.inr ⟨⟨_, herror⟩, rfl⟩⟩

end Operation.UpdatesZone

namespace Backend

variable {b : Backend} {id : Int} {committed : Tables}

/-! ## The start of a transaction -/

/-- A transaction that was opened for a zone sees the committed tables without the records of the
zone. -/
theorem exists_view_of_opener {s u : Store} {c : Connection} (hs : s.Calm)
    (htables : s.database.tables = some committed) (hrun : (opener zone).run s = (.ok c, u)) :
    ∃ view, c.view? u.database = some view ∧ committed.runAll (openingLog zone) = .ok view := by
  by_cases hzone : 0 < zone
  · -- The deletion has made the transaction the writer.
    have hopener := run_opener hs zone
    rw [hrun] at hopener
    obtain ⟨-, -, hfollows, hgrants⟩ := hopener
    have hlog : openingLog zone ≠ [] := by simp [openingLog, hzone]
    obtain ⟨committed', view, htables', hview, hsees⟩ := hfollows.exists_view
      (Connection.canWrite_of_isWriter (hfollows.isWriter_of_ne_nil hlog) _)
    obtain rfl := Option.some.inj (htables.symm.trans (hgrants.tables.symm.trans htables'))
    exact ⟨view, hsees, hview⟩
  · have hfree : s.HasFree := by
      by_contra hnone
      rw [opener, Action.run_bind, Store.run_begin_of_none hnone] at hrun
      cases hrun
    obtain ⟨c', u', hbegin, hmode, -, hdb, -⟩ := hs.begin hfree
    have hopener : (opener zone).run s = (.ok c', u') := by
      simp only [opener, Action.run_bind, hbegin, if_neg hzone]
      rfl
    obtain ⟨rfl, rfl⟩ : c' = c ∧ u' = u := by simpa using hopener.symm.trans hrun
    refine ⟨committed, ?_, by simp [openingLog, hzone]⟩
    rw [Connection.view?, hmode, hdb]
    exact htables

/-- A start that succeeds leads to a transaction that sees the committed tables without the records
of the zone, and one that fails leaves what is seen under the number. -/
theorem Reachable.start_cases (h : b.Reachable) (id zone : Int) :
    ∃ committed, b.store.database.tables = some committed ∧
      (((startTransaction id zone).run b).1 = .ok () ∧
          (∃ view, ((startTransaction id zone).run b).2.view? id = some view ∧
            committed.runAll (openingLog zone) = .ok view) ∨
        (∃ fault, ((startTransaction id zone).run b).1 = .error fault) ∧
          ((startTransaction id zone).run b).2.view? id = b.view? id) := by
  obtain ⟨j, hj⟩ := h.matches
  obtain ⟨committed, htables, -⟩ := hj.committed
  refine ⟨committed, htables, ?_⟩
  cases hfree : b.registry.contains id with
  | true =>
    rw [startTransaction, run_startWith_of_contains hfree]
    exact Or.inr ⟨⟨_, rfl⟩, rfl⟩
  | false =>
    have hnone : b.registry.connection? id = none := Registry.connection?_of_free hfree
    rw [startTransaction, run_startWith_of_free hfree]
    rcases hrun : (opener zone).run b.store with ⟨outcome, u⟩
    cases outcome with
    | error fault =>
      refine Or.inr ⟨⟨_, rfl⟩, ?_⟩
      rw [view?, view?, hnone]
      rfl
    | ok c =>
      obtain ⟨view, hview, hlog⟩ := exists_view_of_opener hj.calm htables hrun
      refine Or.inl ⟨rfl, view, ?_, hlog⟩
      show ((b.registry.enter id c).connection? id).bind (fun c => c.view? u.database) = some view
      rw [b.registry.connection?_enter, if_pos rfl]
      exact hview

/-! ## The theorem -/

/-- Updating a zone, in every state that a run can reach. An update of the zone in an open
transaction leaves the rows of other zones as they are in what the transaction sees, and adds to
them, where it succeeds, those of the records and comments given to it that are of other zones,
each under the zone that it carries. So only replacements add rows to other zones, and only if they
are given any. The start of a transaction for the zone leaves the rows of other zones as they are
committed, and comments altogether. -/
theorem zone_updates_confined (b : Backend) (hreachable : b.Reachable) (id zone : Int) :
    (∀ op : Operation Unit, b.inProgress id = true → op.UpdatesZone id zone →
      ∃ before after records comments, b.view? id = some before ∧
        (op.run.run b).2.view? id = some after ∧
        after.recordsOutside zone = before.recordsOutside zone ++ records ∧
        after.commentsOutside zone = before.commentsOutside zone ++ comments ∧
        ((op.run.run b).1 = .ok () ∧
            List.Forall₂ (RecordRow.Holds b.dnssec) records
              (op.recordsGiven.filter fun r => r.domainId ≠ zone) ∧
            List.Forall₂ CommentRow.Holds comments
              (op.commentsGiven.filter fun c => c.domainId ≠ zone) ∨
          (∃ fault, (op.run.run b).1 = .error fault) ∧ after = before) ∧
        ((∀ r ∈ op.recordsGiven, r.domainId = zone) → (∀ c ∈ op.commentsGiven, c.domainId = zone) →
          records = [] ∧ comments = [])) ∧
    ∃ committed, b.store.database.tables = some committed ∧
      (((startTransaction id zone).run b).1 = .ok () ∧
          (∃ view, ((startTransaction id zone).run b).2.view? id = some view ∧
            view.recordsOutside zone = committed.recordsOutside zone ∧
            view.comments = committed.comments) ∨
        (∃ fault, ((startTransaction id zone).run b).1 = .error fault) ∧
          ((startTransaction id zone).run b).2.view? id = b.view? id) := by
  constructor
  · intro op hopen hop
    obtain ⟨before, hbefore⟩ := hreachable.exists_view hopen
    obtain ⟨after, hafter, ⟨hok, hrun⟩ | ⟨herror, rfl⟩⟩ := hop.attempt hreachable hbefore
    · obtain ⟨⟨records, hrecords, hnew⟩, ⟨comments, hcomments, hsaid⟩⟩ :=
        Tables.confines_runAll (hop.keepsTo b) hrun
      rw [hop.newRecords b, List.map_map] at hnew
      rw [hop.newComments b, List.map_map] at hsaid
      refine ⟨before, after, records, comments, hbefore, hafter, hrecords, hcomments,
        Or.inl ⟨hok, ?_, ?_⟩, ?_⟩
      · exact (map_eq_map_iff_forall₂.1 hnew).imp fun _ _ => RecordRow.holds_of_unnumbered
      · exact (map_eq_map_iff_forall₂.1 hsaid).imp fun _ _ => CommentRow.holds_of_unnumbered
      · intro hgiven hgiven'
        rw [List.filter_eq_nil_iff.2 fun r hr => by simp [hgiven r hr]] at hnew
        rw [List.filter_eq_nil_iff.2 fun c hc => by simp [hgiven' c hc]] at hsaid
        exact ⟨List.map_eq_nil_iff.1 hnew, List.map_eq_nil_iff.1 hsaid⟩
    · exact ⟨after, after, [], [], hbefore, hafter, (List.append_nil _).symm,
        (List.append_nil _).symm, Or.inr ⟨herror, rfl⟩, fun _ _ => ⟨rfl, rfl⟩⟩
  · obtain ⟨committed, htables, hcases⟩ := hreachable.start_cases id zone
    refine ⟨committed, htables, hcases.imp_left fun ⟨hok, view, hview, hrun⟩ =>
      ⟨hok, view, hview, ?_⟩⟩
    rw [runAll_openingLog] at hrun
    obtain rfl := Except.ok.inj hrun
    refine ⟨?_, rfl⟩
    show (keptRecords zone committed.records).filter _ = _
    unfold keptRecords
    split
    · exact filter_not_isIn_without zone committed.records
    · rfl

/-- A record of another zone in a replacement is the one row that is added to another zone. -/
theorem zone_updates_confined_annotated :
    ∃ before after row, annotated.view? 7 = some before ∧
      ((replaceRecordSet 7 1 "www.example.org" "A"
        [.plain 1 "www.example.org" "A" "192.0.2.2" 60,
         .plain 2 "www.example.net" "A" "192.0.2.3" 60]).run annotated).2.view? 7 = some after ∧
      after.recordsOutside 1 = before.recordsOutside 1 ++ [row] ∧
      after.commentsOutside 1 = before.commentsOutside 1 ∧
      row.Holds false (.plain 2 "www.example.net" "A" "192.0.2.3" 60) := by
  obtain ⟨hupdates, -⟩ := zone_updates_confined annotated reachable_annotated 7 1
  obtain ⟨before, after, records, comments, hbefore, hafter, hrecords, hcomments, hadded, -⟩ :=
    hupdates _ rfl (.replaceRecordSet "www.example.org" "A"
      [.plain 1 "www.example.org" "A" "192.0.2.2" 60,
       .plain 2 "www.example.net" "A" "192.0.2.3" 60])
  obtain ⟨-, hnew, hsaid⟩ := hadded.resolve_right fun ⟨⟨fault, herror⟩, _⟩ => nomatch herror
  obtain ⟨row, rest, hrow, hrest, rfl⟩ := List.forall₂_cons_right_iff.1 hnew
  obtain rfl := List.forall₂_nil_right_iff.1 hrest
  obtain rfl := List.forall₂_nil_right_iff.1 hsaid
  rw [List.append_nil] at hcomments
  exact ⟨before, after, row, hbefore, hafter, hrecords, hcomments, hrow⟩

/-- So the transaction may see a record of a zone in which there was none, and that was not the one
to be updated. -/
theorem foreign_record_added :
    annotated.Reachable ∧ annotated.inProgress 7 = true ∧
      ∃ before after row, annotated.view? 7 = some before ∧
        ((replaceRecordSet 7 1 "www.example.org" "A"
          [.plain 2 "www.example.org" "A" "192.0.2.2" 60]).run annotated).1 = .ok () ∧
        ((replaceRecordSet 7 1 "www.example.org" "A"
          [.plain 2 "www.example.org" "A" "192.0.2.2" 60]).run annotated).2.view? 7 = some after ∧
        before.recordsOutside 1 = [] ∧ row ∈ after.records ∧ row.domainId = some 2 := by
  refine ⟨reachable_annotated, rfl, _, _, _, rfl, rfl, rfl, ?_, List.mem_singleton.2 rfl, rfl⟩
  decide

end Backend

end ZoneStore
