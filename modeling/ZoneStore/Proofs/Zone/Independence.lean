import ZoneStore.Proofs.Zone.Attempts
import ZoneStore.Proofs.Zone.Content

/-!
# Replacements that do not depend on each other

Two calls in one open transaction that replace record sets of different keys leave, in either order,
the same records and comments but for ids and the order of rows; of two calls with one key the later
makes the earlier void. The same holds of calls that replace comments
(`Backend.replacements_independent`). It is seen on the rows without their ids: each call is an
exchange of rows there (`Operation.IsExchange`), and the rows that it gives are of its own set, so
that they are of no other (`RecordRow.InSet.key_eq`, `CommentRow.IsOf.key_eq`).
-/

set_option autoImplicit false

namespace ZoneStore

/-! ## Calls -/

/-- A call that replaces the records of a key in a transaction, by records that have the key. -/
structure RecordSetCall where
  /-- The zone. -/
  zone : Int
  /-- The owner name. -/
  qname : String
  /-- The record type. -/
  qtype : String
  /-- The new records. -/
  given : List ResourceRecord
  /-- They have the key. -/
  keyed : ∀ r ∈ given, r.InSet zone qname qtype

/-- A call that replaces the comments of a key in a transaction, by comments that have the key. -/
structure CommentsCall where
  /-- The zone. -/
  zone : Int
  /-- The owner name. -/
  qname : String
  /-- The record type. -/
  qtype : String
  /-- The new comments. -/
  given : List Comment
  /-- They have the key. -/
  keyed : ∀ c ∈ given, c.domainId = zone ∧ c.qname = qname ∧ c.qtype = qtype

/-- The operation is an update that exchanges records and comments, on any tables. -/
structure Operation.IsExchange (op : Operation Unit) (id : Int) (dnssec : Bool)
    (records : Exchange RecordRow) (comments : Exchange CommentRow) : Prop where
  update : ∃ ms, op.IsUpdate id dnssec ms ∧ ∀ before : Tables, ∃ after,
    before.runAll ms = .ok after ∧ before.Exchanges records comments after

/-- A row is in the sets of two keys only if they are the same, wildcards aside. -/
theorem RecordRow.InSet.key_eq {r : RecordRow} {zone zone' : Int} {qname qname' qtype qtype' : String}
    (h : r.InSet zone qname qtype) (h' : r.InSet zone' qname' qtype')
    (htype : Text.agree qtype anyType = false) (htype' : Text.agree qtype' anyType = false) :
    (zone, qname, qtype) = (zone', qname', qtype') := by
  obtain ⟨hzone, hname, hany | hrow⟩ := h
  · rw [htype] at hany
    cases hany
  · obtain ⟨hzone', hname', hany | hrow'⟩ := h'
    · rw [htype'] at hany
      cases hany
    · obtain rfl := Option.some.inj (hzone.symm.trans hzone')
      obtain rfl := Option.some.inj (hname.symm.trans hname')
      obtain rfl := Option.some.inj (hrow.symm.trans hrow')
      rfl

/-- The sets of equal keys are equal. -/
theorem RecordRow.InSet.of_key {r : RecordRow} {zone zone' : Int} {qname qname' qtype qtype' : String}
    (h : r.InSet zone qname qtype) (hkey : (zone, qname, qtype) = (zone', qname', qtype')) :
    r.InSet zone' qname' qtype' := by
  obtain ⟨rfl, rfl, rfl⟩ : zone = zone' ∧ qname = qname' ∧ qtype = qtype' := by simpa using hkey
  exact h

theorem CommentRow.IsOf.of_key {c : CommentRow} {zone zone' : Int}
    {qname qname' qtype qtype' : String} (h : c.IsOf zone qname qtype)
    (hkey : (zone, qname, qtype) = (zone', qname', qtype')) : c.IsOf zone' qname' qtype' := by
  obtain ⟨rfl, rfl, rfl⟩ : zone = zone' ∧ qname = qname' ∧ qtype = qtype' := by simpa using hkey
  exact h

theorem CommentRow.IsOf.key_eq {c : CommentRow} {zone zone' : Int}
    {qname qname' qtype qtype' : String} (h : c.IsOf zone qname qtype)
    (h' : c.IsOf zone' qname' qtype') : (zone, qname, qtype) = (zone', qname', qtype') := by
  obtain ⟨rfl, rfl, rfl⟩ := h
  obtain ⟨rfl, rfl, rfl⟩ := h'
  rfl

namespace RecordSetCall

variable (x y : RecordSetCall) (id : Int) (dnssec : Bool)

/-- The zone, name and type of the set. -/
def key : Int × String × String := (x.zone, x.qname, x.qtype)

/-- The call as an operation. -/
def operation : Operation Unit := .replaceRecordSet id x.zone x.qname x.qtype x.given

/-- What the call does to the records. -/
def records : Exchange RecordRow where
  takes r := decide (r.InSet x.zone x.qname x.qtype)
  gives := x.given.map fun r => r.toRow dnssec ""

/-- What the call does to the comments: it takes them only if it leaves no record. -/
def comments : Exchange CommentRow where
  takes c := decide (x.given = [] ∧ c.IsOf x.zone x.qname x.qtype)
  gives := []

theorem isExchange : (x.operation id).IsExchange id dnssec (x.records dnssec) x.comments := by
  refine ⟨_, Operation.isUpdate_replaceRecordSet id dnssec x.zone x.qname x.qtype x.given, ?_⟩
  intro before
  obtain ⟨after, hrun, hreplaces⟩ :=
    Tables.exists_replaces dnssec x.zone x.qname x.qtype x.given before
  have hothers := congrArg Tables.others hreplaces.others
  refine ⟨after, hrun, ?_, ?_, hothers⟩
  · obtain ⟨added, hrecords, hadded⟩ := hreplaces.records
    have hgives : added.map RecordRow.unnumbered = (x.records dnssec).gives :=
      map_eq_map_iff_forall₂.2 (hadded.imp fun _ _ hrow => hrow.unnumbered)
    rw [Tables.recordContent, hrecords, ← without_eq_filter fun _ => decide_eq_true_iff]
    exact Exchange.map_without_append (g := RecordRow.unnumbered) (fun _ => rfl) hgives _
  · have hcomments : after.comments = without x.comments.takes before.comments ++ [] := by
      rw [List.append_nil, without_eq_filter (p := x.comments.takes) fun _ => decide_eq_true_iff]
      by_cases hgiven : x.given = []
      · simp only [hreplaces.orphaned hgiven, hgiven, true_and]
      · simp [hreplaces.comments hgiven, hgiven]
    rw [Tables.commentContent, hcomments]
    exact Exchange.map_without_append (g := CommentRow.unnumbered) (fun _ => rfl) rfl _

/-- The new rows are of the set. -/
theorem inSet_of_gives {row : RecordRow} (h : row ∈ (x.records dnssec).gives) :
    row.InSet x.zone x.qname x.qtype := by
  obtain ⟨r, hr, rfl⟩ := List.mem_map.1 h
  obtain ⟨hzone, hname, htype⟩ := x.keyed r hr
  exact ⟨congrArg some hzone, congrArg some hname, htype.imp_right (congrArg some)⟩

variable {x y}

/-- The new rows of one call are not of the set of another. -/
theorem records_avoids (hkey : x.key ≠ y.key) (hx : Text.agree x.qtype anyType = false)
    (hy : Text.agree y.qtype anyType = false) : (x.records dnssec).Avoids (y.records dnssec) := by
  intro row hrow
  refine decide_eq_false fun hset => hkey ?_
  exact (x.inSet_of_gives dnssec hrow).key_eq hset hx hy

theorem comments_avoids (e : Exchange CommentRow) : x.comments.Avoids e :=
  fun _ hc => absurd hc List.not_mem_nil

/-- A call takes all rows that an earlier call with its key gave or would have taken. -/
theorem records_covers (hkey : x.key = y.key) : (y.records dnssec).Covers (x.records dnssec) where
  takes _ htakes := decide_eq_true ((of_decide_eq_true htakes).of_key hkey)
  gives _ hrow := decide_eq_true ((x.inSet_of_gives dnssec hrow).of_key hkey)

/-- So it does with the comments, unless it leaves them where the earlier one took them. -/
theorem comments_covers (hkey : x.key = y.key) (hgiven : x.given ≠ [] ∨ y.given = []) :
    y.comments.Covers x.comments := by
  refine ⟨fun c htakes => ?_, fun c hc => absurd hc List.not_mem_nil⟩
  obtain ⟨hnone, hof⟩ := of_decide_eq_true htakes
  exact decide_eq_true ⟨hgiven.resolve_left fun hsome => hsome hnone, hof.of_key hkey⟩

end RecordSetCall

namespace CommentsCall

variable (x y : CommentsCall) (id : Int) (dnssec : Bool)

/-- The zone, name and type that the comments are on. -/
def key : Int × String × String := (x.zone, x.qname, x.qtype)

/-- The call as an operation. -/
def operation : Operation Unit := .replaceComments id x.zone x.qname x.qtype x.given

/-- What the call does to the comments. -/
def comments : Exchange CommentRow where
  takes c := decide (c.IsOf x.zone x.qname x.qtype)
  gives := x.given.map Comment.toRow

theorem isExchange : (x.operation id).IsExchange id dnssec .idle x.comments := by
  refine ⟨_, Operation.isUpdate_replaceComments id dnssec x.zone x.qname x.qtype x.given, ?_⟩
  intro before
  obtain ⟨added, hrun, hadded⟩ := Tables.exists_runAll_commentInsertions
    { before with comments := without x.comments.takes before.comments } x.given
  refine ⟨{ before with comments := without x.comments.takes before.comments ++ added }, ?_,
    (Exchange.apply_idle _).symm, ?_, rfl⟩
  · refine Eq.trans ?_ hrun
    have htakes : (fun c : CommentRow => holds (some c.domainId) (some x.zone) &&
        holds (some c.name) (some x.qname) && holds (some c.type) (some x.qtype)) =
        x.comments.takes := by
      funext c
      rw [Bool.eq_iff_iff, deletes_iff_isOf]
      exact decide_eq_true_iff.symm
    rw [← htakes]
    rfl
  · exact Exchange.map_without_append (g := CommentRow.unnumbered) (fun _ => rfl) hadded _

/-- The new comments are of the key. -/
theorem isOf_of_gives {row : CommentRow} (h : row ∈ x.comments.gives) :
    row.IsOf x.zone x.qname x.qtype := by
  obtain ⟨c, hc, rfl⟩ := List.mem_map.1 h
  exact x.keyed c hc

variable {x y}

/-- The new comments of one call are not of the key of another. -/
theorem comments_avoids (hkey : x.key ≠ y.key) : x.comments.Avoids y.comments := by
  intro row hrow
  exact decide_eq_false fun hof => hkey ((x.isOf_of_gives hrow).key_eq hof)

/-- A call takes all comments that an earlier call with its key gave or would have taken. -/
theorem comments_covers (hkey : x.key = y.key) : y.comments.Covers x.comments where
  takes _ htakes := decide_eq_true ((of_decide_eq_true htakes).of_key hkey)
  gives _ hrow := decide_eq_true ((x.isOf_of_gives hrow).of_key hkey)

end CommentsCall

/-! ## Two calls in one transaction -/

namespace Backend

variable {b : Backend} {id : Int} {before : Tables} {x y : Operation Unit}
  {rx ry : Exchange RecordRow} {cx cy : Exchange CommentRow}

/-- Both orders of two operations succeed in a transaction that can write, and what it sees after
the one is what it sees after the other, but for ids and the order of rows. -/
structure Interchangeable (b : Backend) (id : Int) (x y : Operation Unit) : Prop where
  succeed : b.Writable id → b.AllSucceed [x, y] ∧ b.AllSucceed [y, x]
  views : ∃ v w, (b.afterAll [x, y]).view? id = some v ∧ (b.afterAll [y, x]).view? id = some w ∧
    v.SameContent w

/-- What a transaction sees after two operations is related to what it sees after the second alone;
all of this succeeds in a transaction that can write. -/
structure Overridden (b : Backend) (id : Int) (x y : Operation Unit)
    (Same : Tables → Tables → Prop) : Prop where
  succeed : b.Writable id → b.AllSucceed [x, y] ∧ b.AllSucceed [y]
  views : ∃ both last, (b.afterAll [x, y]).view? id = some both ∧
    (b.afterAll [y]).view? id = some last ∧ Same both last

theorem Overridden.imp {Same Same' : Tables → Tables → Prop} (h : b.Overridden id x y Same)
    (himp : ∀ both last, Same both last → Same' both last) : b.Overridden id x y Same' := by
  obtain ⟨both, last, hboth, hlast, hsame⟩ := h.views
  exact ⟨h.succeed, both, last, hboth, hlast, himp both last hsame⟩

/-- One exchange in an open transaction. -/
theorem Reachable.exchange (h : b.Reachable) (hopen : b.view? id = some before)
    (hx : x.IsExchange id b.dnssec rx cx) :
    ∃ after, (b.afterAll [x]).view? id = some after ∧
      (b.Writable id ∧ b.AllSucceed [x] ∧ before.Exchanges rx cx after ∨
        ¬ b.Writable id ∧ after = before) := by
  obtain ⟨ms, hupdate, hexchanges⟩ := hx.update
  obtain ⟨after, hafter, hcases⟩ := h.updates_cases hopen (.cons hupdate .nil)
  refine ⟨after, hafter, hcases.imp_left fun ⟨hwritable, hsucceed, hrun⟩ =>
    ⟨hwritable, hsucceed, ?_⟩⟩
  obtain ⟨after', hrun', hexchanged⟩ := hexchanges before
  rw [List.flatten_singleton, hrun'] at hrun
  obtain rfl := Except.ok.inj hrun
  exact hexchanged

/-- Two exchanges in an open transaction, one after the other. -/
theorem Reachable.exchange_pair (h : b.Reachable) (hopen : b.view? id = some before)
    (hx : x.IsExchange id b.dnssec rx cx) (hy : y.IsExchange id b.dnssec ry cy) :
    ∃ after, (b.afterAll [x, y]).view? id = some after ∧
      (b.Writable id ∧ b.AllSucceed [x, y] ∧
          (∃ middle, before.Exchanges rx cx middle ∧ middle.Exchanges ry cy after) ∨
        ¬ b.Writable id ∧ after = before) := by
  obtain ⟨ms, hupdate, hexchanges⟩ := hx.update
  obtain ⟨ns, hupdate', hexchanges'⟩ := hy.update
  obtain ⟨after, hafter, hcases⟩ := h.updates_cases hopen (.cons hupdate (.cons hupdate' .nil))
  refine ⟨after, hafter, hcases.imp_left fun ⟨hwritable, hsucceed, hrun⟩ => ?_⟩
  -- The second exchange starts from what the first leaves.
  obtain ⟨middle, hfirst, hexchanged⟩ := hexchanges before
  obtain ⟨after', hsecond, hexchanged'⟩ := hexchanges' middle
  have hboth : before.runAll [ms, ns].flatten = .ok after' := by
    rw [List.flatten_cons, List.flatten_singleton]
    exact Tables.runAll_append_of_ok hfirst hsecond
  obtain rfl := Except.ok.inj (hrun.symm.trans hboth)
  exact ⟨hwritable, hsucceed, middle, hexchanged, hexchanged'⟩

/-- Exchanges that avoid each other can be made in either order. -/
theorem Reachable.interchangeable (h : b.Reachable) (hopen : b.view? id = some before)
    (hx : x.IsExchange id b.dnssec rx cx) (hy : y.IsExchange id b.dnssec ry cy)
    (hrecords : rx.Avoids ry ∧ ry.Avoids rx) (hcomments : cx.Avoids cy ∧ cy.Avoids cx) :
    b.Interchangeable id x y := by
  obtain ⟨v, hv, hxy⟩ := h.exchange_pair hopen hx hy
  obtain ⟨w, hw, hyx⟩ := h.exchange_pair hopen hy hx
  rcases hxy with ⟨hwritable, hsucceed, u, hu, huv⟩ | ⟨hblocked, rfl⟩
  · obtain ⟨-, hsucceed', u', hu', huw⟩ := hyx.resolve_right fun hno => hno.1 hwritable
    refine ⟨fun _ => ⟨hsucceed, hsucceed'⟩, v, w, hv, hw, ?_, ?_, ?_⟩
    · rw [huv.records, hu.records, huw.records, hu'.records]
      exact Exchange.apply_perm_apply hrecords.1 hrecords.2 _
    · rw [huv.comments, hu.comments, huw.comments, hu'.comments]
      exact Exchange.apply_perm_apply hcomments.1 hcomments.2 _
    · rw [huv.others, hu.others, huw.others, hu'.others]
  · obtain ⟨-, rfl⟩ := hyx.resolve_left fun hyes => hblocked hyes.1
    exact ⟨fun hwritable => absurd hwritable hblocked, w, w, hv, hw, .refl w⟩

/-- Of two exchanges the later makes the earlier void in each table in which it covers it. -/
theorem Reachable.overridden (h : b.Reachable) (hopen : b.view? id = some before)
    (hx : x.IsExchange id b.dnssec rx cx) (hy : y.IsExchange id b.dnssec ry cy) :
    b.Overridden id x y fun both last =>
      (ry.Covers rx → both.recordContent = last.recordContent) ∧
        (cy.Covers cx → both.commentContent = last.commentContent) := by
  obtain ⟨both, hboth, hxy⟩ := h.exchange_pair hopen hx hy
  obtain ⟨last, hlast, hy⟩ := h.exchange hopen hy
  rcases hxy with ⟨hwritable, hsucceed, u, hu, huv⟩ | ⟨hblocked, rfl⟩
  · obtain ⟨-, hsucceed', hv⟩ := hy.resolve_right fun hno => hno.1 hwritable
    refine ⟨fun _ => ⟨hsucceed, hsucceed'⟩, both, last, hboth, hlast, ?_, ?_⟩
    · intro hcovers
      rw [huv.records, hu.records, hv.records, Exchange.apply_apply hcovers]
    · intro hcovers
      rw [huv.comments, hu.comments, hv.comments, Exchange.apply_apply hcovers]
  · obtain ⟨-, rfl⟩ := hy.resolve_left fun hyes => hblocked hyes.1
    exact ⟨fun hwritable => absurd hwritable hblocked, last, last, hboth, hlast,
      fun _ => rfl, fun _ => rfl⟩

/-! ## The theorem -/

/-- Replacing record sets and comments, in every state that a run can reach and in every open
transaction. Two calls that replace record sets of different keys, neither of them by wildcard,
leave in either order the same records and comments but for ids and the order of rows; of two with
the same key the second makes the first void for the records, and for the comments too unless the
first took them and the second does not. Two calls that replace comments leave the same in either
order if their keys differ, and the second makes the first void if they are the same. In a
transaction that can write all these calls succeed. -/
theorem replacements_independent (b : Backend) (hreachable : b.Reachable) (id : Int)
    (hopen : b.inProgress id = true) :
    (∀ x y : RecordSetCall, x.key ≠ y.key → Text.agree x.qtype anyType = false →
      Text.agree y.qtype anyType = false →
        b.Interchangeable id (x.operation id) (y.operation id)) ∧
    (∀ x y : RecordSetCall, x.key = y.key →
      b.Overridden id (x.operation id) (y.operation id) fun both last =>
        both.recordContent = last.recordContent ∧
          (x.given ≠ [] ∨ y.given = [] → both.commentContent = last.commentContent)) ∧
    (∀ x y : CommentsCall, x.key ≠ y.key →
      b.Interchangeable id (x.operation id) (y.operation id)) ∧
    (∀ x y : CommentsCall, x.key = y.key →
      b.Overridden id (x.operation id) (y.operation id) fun both last =>
        both.recordContent = last.recordContent ∧ both.commentContent = last.commentContent) := by
  obtain ⟨before, hview⟩ := hreachable.exists_view hopen
  refine ⟨?_, ?_, ?_, ?_⟩
  · intro x y hkey hx hy
    refine hreachable.interchangeable hview (x.isExchange id _) (y.isExchange id _) ⟨?_, ?_⟩
      ⟨RecordSetCall.comments_avoids _, RecordSetCall.comments_avoids _⟩
    · exact RecordSetCall.records_avoids _ hkey hx hy
    · exact RecordSetCall.records_avoids _ (Ne.symm hkey) hy hx
  · intro x y hkey
    refine (hreachable.overridden hview (x.isExchange id _) (y.isExchange id _)).imp ?_
    intro both last ⟨hrecords, hcomments⟩
    exact ⟨hrecords (RecordSetCall.records_covers _ hkey),
      fun hgiven => hcomments (RecordSetCall.comments_covers hkey hgiven)⟩
  · intro x y hkey
    exact hreachable.interchangeable hview (x.isExchange id _) (y.isExchange id _)
      ⟨Exchange.idle_avoids _, Exchange.idle_avoids _⟩
      ⟨CommentsCall.comments_avoids hkey, CommentsCall.comments_avoids (Ne.symm hkey)⟩
  · intro x y hkey
    refine (hreachable.overridden hview (x.isExchange id _) (y.isExchange id _)).imp ?_
    intro both last ⟨hrecords, hcomments⟩
    exact ⟨hrecords Exchange.idle_covers_idle, hcomments (CommentsCall.comments_covers hkey)⟩

/-- A call that replaces the addresses of a name by one. -/
def addressCall (qtype address : String) : RecordSetCall where
  zone := 1
  qname := "www.example.org"
  qtype := qtype
  given := [.plain 1 "www.example.org" qtype address 60]
  keyed r hr := by
    obtain rfl := List.mem_singleton.1 hr
    exact ⟨rfl, rfl, Or.inr rfl⟩

/-- Addresses of both kinds can be replaced in either order, and the last address of a kind
stays. -/
theorem replacements_independent_annotated :
    annotated.Interchangeable 7 ((addressCall "A" "192.0.2.2").operation 7)
        ((addressCall "AAAA" "2001:db8::1").operation 7) ∧
      annotated.Overridden 7 ((addressCall "A" "192.0.2.2").operation 7)
        ((addressCall "A" "192.0.2.3").operation 7) fun both last =>
          both.recordContent = last.recordContent ∧
            both.commentContent = last.commentContent := by
  obtain ⟨hfree, hvoid, -, -⟩ := replacements_independent annotated reachable_annotated 7 rfl
  have hcovered := hvoid (addressCall "A" "192.0.2.2") (addressCall "A" "192.0.2.3") rfl
  refine ⟨hfree _ _ (by decide) (by decide) (by decide), hcovered.imp ?_⟩
  intro both last ⟨hrecords, hcomments⟩
  exact ⟨hrecords, hcomments (Or.inl (List.cons_ne_nil _ _))⟩

end Backend

end ZoneStore
