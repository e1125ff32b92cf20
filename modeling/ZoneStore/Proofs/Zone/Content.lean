import ZoneStore.Proofs.Zone.RecordSets

/-!
# Rows without their ids

The id of a row depends on everything that was inserted before, so what two runs leave is compared
without the ids (`Tables.recordContent`, `Tables.commentContent`). There, an update that puts given
rows in place of those of a set is a function of the rows alone (`Exchange.apply`). Two exchanges on
sets that do not meet commute up to the order of the rows (`Exchange.apply_perm_apply`), and on one
set the later makes the earlier void (`Exchange.apply_apply`).
-/

set_option autoImplicit false

namespace ZoneStore

/-- Removing rows leaves those of a kind that is not removed. -/
theorem filter_without {α : Type} {p q : α → Bool} (h : ∀ a, p a = true → q a = false)
    (rows : List α) : (without p rows).filter q = rows.filter q := by
  rw [without, List.filter_filter]
  refine List.filter_congr fun a _ => ?_
  cases hp : p a with
  | false => simp
  | true => simp [h a hp]

/-! ## Rows in place of others -/

/-- Rows to be put in place of those of a set. -/
structure Exchange (α : Type) where
  /-- Whether a row is of the set. -/
  takes : α → Bool
  /-- The rows to be put there. -/
  gives : List α

namespace Exchange

variable {α : Type} {e f : Exchange α} {rows : List α}

/-- The rows outside of the set, and then the given ones. -/
def apply (e : Exchange α) (rows : List α) : List α := without e.takes rows ++ e.gives

/-- No row is taken and none is given. -/
def idle : Exchange α := ⟨fun _ => false, []⟩

@[simp] theorem apply_idle (rows : List α) : idle.apply rows = rows := by
  simp [apply, idle, without]

/-- The first exchange gives no row that the second takes. -/
def Avoids (e f : Exchange α) : Prop := ∀ a ∈ e.gives, f.takes a = false

theorem Avoids.without_gives (h : e.Avoids f) : without f.takes e.gives = e.gives := by
  refine List.filter_eq_self.2 fun a ha => ?_
  rw [h a ha]
  rfl

/-- If neither of two exchanges gives what the other takes, their order only matters for the order
of the rows. -/
theorem apply_perm_apply (h : e.Avoids f) (h' : f.Avoids e) (rows : List α) :
    (f.apply (e.apply rows)).Perm (e.apply (f.apply rows)) := by
  have hcomm : without f.takes (without e.takes rows) = without e.takes (without f.takes rows) :=
    List.filter_comm _ _ rows
  have hfe : f.apply (e.apply rows) =
      without e.takes (without f.takes rows) ++ (e.gives ++ f.gives) := by
    rw [apply, apply, without, List.filter_append, ← without, ← without, hcomm, h.without_gives,
      List.append_assoc]
  have hef : e.apply (f.apply rows) =
      without e.takes (without f.takes rows) ++ (f.gives ++ e.gives) := by
    rw [apply, apply, without, List.filter_append, ← without, ← without, h'.without_gives,
      List.append_assoc]
  rw [hfe, hef]
  exact List.perm_append_comm.append_left _

/-- The first exchange takes all that the second takes or gives. -/
structure Covers (f e : Exchange α) : Prop where
  takes : ∀ a, e.takes a = true → f.takes a = true
  gives : ∀ a ∈ e.gives, f.takes a = true

/-- An exchange makes an earlier one void that it covers. -/
theorem apply_apply (h : f.Covers e) (rows : List α) : f.apply (e.apply rows) = f.apply rows := by
  have hgone : without f.takes e.gives = [] := by
    refine List.filter_eq_nil_iff.2 fun a ha => ?_
    rw [h.gives a ha]
    exact Bool.false_ne_true
  -- What the earlier one takes of the rows, the later one takes as well.
  have hrest : without f.takes (without e.takes rows) = without f.takes rows :=
    filter_without (fun a ha => by rw [h.takes a ha]; rfl) rows
  rw [apply, apply, without, List.filter_append, ← without, ← without, hgone, hrest,
    List.append_nil, apply]

theorem idle_avoids (e : Exchange α) : idle.Avoids e := fun _ ha => absurd ha List.not_mem_nil

theorem idle_covers_idle : (idle : Exchange α).Covers idle :=
  ⟨fun _ h => h, fun _ ha => absurd ha List.not_mem_nil⟩

/-- Rows that were exchanged are, without what the exchange does not look at, exchanged as well. -/
theorem map_without_append {g : α → α} {added : List α} (h : ∀ a, e.takes (g a) = e.takes a)
    (hadded : added.map g = e.gives) (rows : List α) :
    (without e.takes rows ++ added).map g = e.apply (rows.map g) := by
  have htakes : (fun a => !e.takes a) ∘ g = fun a => !e.takes a := funext fun a => by
    rw [Function.comp_apply, h]
  rw [List.map_append, hadded, apply, without, without, List.filter_map, htakes]

end Exchange

/-! ## Comments -/

/-- The comment without its id. -/
def CommentRow.unnumbered (row : CommentRow) : CommentRow := { row with id := 0 }

/-- The row of a comment, before it has an id. -/
def Comment.toRow (c : Comment) : CommentRow :=
  ⟨0, c.domainId, c.qname, c.qtype, c.modifiedAt, some c.account, c.content⟩

/-- The row holds the comment. -/
structure CommentRow.Holds (row : CommentRow) (c : Comment) : Prop where
  domainId : row.domainId = c.domainId
  name : row.name = c.qname
  type : row.type = c.qtype
  modifiedAt : row.modifiedAt = c.modifiedAt
  account : row.account = some c.account
  comment : row.comment = c.content

theorem CommentRow.holds_of_unnumbered {row : CommentRow} {c : Comment}
    (h : row.unnumbered = c.toRow) : row.Holds c := by
  constructor
  · exact congrArg CommentRow.domainId h
  · exact congrArg CommentRow.name h
  · exact congrArg CommentRow.type h
  · exact congrArg CommentRow.modifiedAt h
  · exact congrArg CommentRow.account h
  · exact congrArg CommentRow.comment h

/-- Comments are appended in their order, each under a new id. -/
theorem Tables.exists_runAll_commentInsertions (tables : Tables) (given : List Comment) :
    ∃ added, tables.runAll (given.map Comment.insertion) =
        .ok { tables with comments := tables.comments ++ added } ∧
      added.map CommentRow.unnumbered = given.map Comment.toRow := by
  induction given generalizing tables with
  | nil => exact ⟨[], by simp, rfl⟩
  | cons c rest ih =>
    -- The ids of the later comments depend on the first one.
    let row : CommentRow := { c.toRow with id := nextId CommentRow.id tables.comments }
    obtain ⟨added, hrun, hadded⟩ := ih { tables with comments := tables.comments ++ [row] }
    refine ⟨row :: added, ?_, congrArg (c.toRow :: ·) hadded⟩
    rw [List.map_cons, runAll_cons]
    refine hrun.trans ?_
    simp

/-! ## Tables -/

namespace Tables

/-- The records without their ids, in their order. -/
def recordContent (tables : Tables) : List RecordRow := tables.records.map RecordRow.unnumbered

/-- The comments without their ids, in their order. -/
def commentContent (tables : Tables) : List CommentRow := tables.comments.map CommentRow.unnumbered

/-- The tables besides records and comments. -/
def others (tables : Tables) : Tables := { tables with records := [], comments := [] }

/-- The tables differ in the ids and the order of records and comments only. -/
structure SameContent (a b : Tables) : Prop where
  records : a.recordContent.Perm b.recordContent
  comments : a.commentContent.Perm b.commentContent
  others : a.others = b.others

theorem SameContent.refl (a : Tables) : a.SameContent a := ⟨.refl _, .refl _, rfl⟩

/-- Records and comments are exchanged, and nothing else changes. -/
structure Exchanges (records : Exchange RecordRow) (comments : Exchange CommentRow)
    (before after : Tables) : Prop where
  records : after.recordContent = records.apply before.recordContent
  comments : after.commentContent = comments.apply before.commentContent
  others : after.others = before.others

end Tables

end ZoneStore
