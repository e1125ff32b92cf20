import ZoneStore.Proofs.Outcome
import ZoneStore.Table.Mutation

/-!
# Replaying mutations

`Tables.runAll` runs a list of mutations on tables, one after another, as a single writer without
concurrency would. What it does is composed of what its parts do (`Tables.runAll_append`). A single
mutation that reports stored data as unaltered leaves the tables as they were (`Mutation.honest`),
which is why the version of a database may stay when such a mutation is committed.
-/

set_option autoImplicit false

namespace ZoneStore

/-- The tables after mutations that run one after another; the first one refused ends the run. -/
def Tables.runAll (tables : Tables) : List Mutation → Except DatabaseFault Tables
  | [] => .ok tables
  | m :: rest => do
    let change ← m.apply tables
    change.tables.runAll rest

/-- A mutation that no tables refuse. -/
def Mutation.NeverRefused (m : Mutation) : Prop := ∀ tables, ∃ change, m.apply tables = .ok change

/-! ## Rows that stay -/

theorem without_eq_self {α : Type} {p : α → Bool} {rows : List α} (h : rows.countP p = 0) :
    without p rows = rows := by
  rw [List.countP_eq_zero] at h
  rw [without, List.filter_eq_self]
  intro r hr
  simpa using h r hr

theorem revise_eq_self_of_countP {α : Type} {p : α → Bool} {f : α → α} {rows : List α}
    (h : rows.countP p = 0) : revise p f rows = rows := by
  rw [List.countP_eq_zero] at h
  refine (List.map_congr_left fun r hr => ?_).trans (List.map_id rows)
  rw [if_neg (h r hr)]
  rfl

theorem revise_eq_self {α : Type} [DecidableEq α] {p : α → Bool} {f : α → α} {rows : List α}
    (h : revises p f rows = false) : revise p f rows = rows := by
  refine (List.map_congr_left fun r hr => ?_).trans (List.map_id rows)
  have hr := (List.any_eq_false.1 h) r hr
  -- A row that is picked is one that the revision would not change.
  by_cases hp : p r = true
  · rw [if_pos hp]
    simpa [hp] using hr
  · rw [if_neg hp]
    rfl

/-! ## Mutations that alter nothing -/

/-- A change that reports stored data as unaltered only where the tables are as before. -/
def Change.Honest (before : Tables) (change : Change) : Prop :=
  change.alters = false → change.tables = before

theorem Change.honest_nothing (tables : Tables) : (Change.nothing tables).Honest tables :=
  fun _ => rfl

theorem Change.honest_insertion (before tables : Tables) (id : Int) :
    (Change.insertion tables id).Honest before := by
  intro h
  simp [Change.insertion] at h

theorem Change.honest_deletion {before tables : Tables} {rows : Nat}
    (h : rows = 0 → tables = before) : (Change.deletion tables rows).Honest before := by
  intro hrows
  simp only [Change.deletion, decide_eq_false_iff_not, Nat.not_lt, Nat.le_zero] at hrows
  exact h hrows

namespace Tables

variable (tables : Tables)

theorem deleteRecords_honest (p : RecordRow → Bool) :
    (tables.deleteRecords p).Honest tables :=
  Change.honest_deletion fun h => by rw [without_eq_self h]

theorem deleteComments_honest (p : CommentRow → Bool) :
    (tables.deleteComments p).Honest tables :=
  Change.honest_deletion fun h => by rw [without_eq_self h]

theorem deleteMetadata_honest (p : MetadataRow → Bool) :
    (tables.deleteMetadata p).Honest tables :=
  Change.honest_deletion fun h => by rw [without_eq_self h]

theorem deleteKeys_honest (p : KeyRow → Bool) : (tables.deleteKeys p).Honest tables :=
  Change.honest_deletion fun h => by rw [without_eq_self h]

theorem reorderRecords_honest (p : RecordRow → Bool) (f : RecordRow → RecordRow) :
    (tables.reorderRecords p f).Honest tables := by
  intro h
  simp only [reorderRecords, decide_eq_false_iff_not, Nat.not_lt, Nat.le_zero] at h ⊢
  rw [revise_eq_self_of_countP h]

theorem updateDomains_honest (p : DomainRow → Bool) (f : DomainRow → DomainRow) :
    (tables.updateDomains p f).Honest tables := by
  intro h
  simp only [updateDomains] at h ⊢
  rw [revise_eq_self h]

theorem updateKeys_honest (p : KeyRow → Bool) (f : KeyRow → KeyRow) :
    (tables.updateKeys p f).Honest tables := by
  intro h
  simp only [updateKeys] at h ⊢
  rw [revise_eq_self h]

variable {tables} {change : Change}

theorem insertDomain_honest {kind name masters account : Option String}
    (h : tables.insertDomain kind name masters account = .ok change) : change.Honest tables := by
  obtain ⟨domain, -, h⟩ := bind_eq_ok_iff.1 h
  obtain ⟨kind, -, h⟩ := bind_eq_ok_iff.1 h
  split at h
  · cases h
  · cases h
    exact Change.honest_insertion _ _ _

theorem setKind_honest {name kind : Option String} (h : tables.setKind name kind = .ok change) :
    change.Honest tables := by
  cases kind with
  | some kind =>
    cases h
    exact tables.updateDomains_honest _ _
  | none =>
    simp only [setKind] at h
    split at h
    · cases h
    · cases h
      exact Change.honest_nothing tables

theorem addAutoprimary_honest {ip nameserver account : Option String}
    (h : tables.addAutoprimary ip nameserver account = .ok change) : change.Honest tables := by
  obtain ⟨address, -, h⟩ := bind_eq_ok_iff.1 h
  obtain ⟨server, -, h⟩ := bind_eq_ok_iff.1 h
  obtain ⟨owner, -, h⟩ := bind_eq_ok_iff.1 h
  split at h
  · cases h
  · cases h
    exact Change.honest_insertion _ _ _

theorem insertComment_honest {zone : Option Int} {name type : Option String}
    {modifiedAt : Option Int} {account comment : Option String}
    (h : tables.insertComment zone name type modifiedAt account comment = .ok change) :
    change.Honest tables := by
  obtain ⟨zone, -, h⟩ := bind_eq_ok_iff.1 h
  obtain ⟨name, -, h⟩ := bind_eq_ok_iff.1 h
  obtain ⟨type, -, h⟩ := bind_eq_ok_iff.1 h
  obtain ⟨time, -, h⟩ := bind_eq_ok_iff.1 h
  obtain ⟨comment, -, h⟩ := bind_eq_ok_iff.1 h
  cases h
  exact Change.honest_insertion _ _ _

theorem addMetadata_honest (tables : Tables) (name kind content : Option String) :
    (tables.addMetadata name kind content).Honest tables := by
  unfold addMetadata
  split
  · exact Change.honest_nothing tables
  · exact Change.honest_insertion _ _ _

theorem addKey_honest {name : Option String} {flags active published : Option Int}
    {content : Option String}
    (h : tables.addKey name flags active published content = .ok change) :
    change.Honest tables := by
  unfold addKey at h
  split at h
  · cases h
    exact Change.honest_nothing tables
  · obtain ⟨flags, -, h⟩ := bind_eq_ok_iff.1 h
    cases h
    exact Change.honest_insertion _ _ _

end Tables

/-- Where a mutation does not report stored data as altered, the tables are as before. -/
theorem Mutation.honest {m : Mutation} {tables : Tables} {change : Change}
    (h : m.apply tables = .ok change) : change.Honest tables := by
  cases m with
  | insertDomain => exact Tables.insertDomain_honest h
  | setKind => exact Tables.setKind_honest h
  | addAutoprimary => exact Tables.addAutoprimary_honest h
  | insertComment => exact Tables.insertComment_honest h
  | addKey => exact Tables.addKey_honest h
  | _ =>
    -- The other mutations are never refused.
    cases h
    first
      | exact Change.honest_insertion _ _ _
      | exact tables.deleteRecords_honest _
      | exact tables.reorderRecords_honest _ _
      | exact tables.updateDomains_honest _ _
      | exact tables.deleteComments_honest _
      | exact tables.deleteMetadata_honest _
      | exact tables.addMetadata_honest _ _ _
      | exact tables.deleteKeys_honest _
      | exact tables.updateKeys_honest _ _
      | exact Change.honest_deletion fun h => by rw [without_eq_self h]

/-! ## Replaying a list -/

namespace Tables

@[simp] theorem runAll_nil (tables : Tables) : tables.runAll [] = .ok tables := rfl

theorem runAll_cons (tables : Tables) (m : Mutation) (rest : List Mutation) :
    tables.runAll (m :: rest) = m.apply tables >>= fun change => change.tables.runAll rest := rfl

theorem runAll_append (tables : Tables) (ms more : List Mutation) :
    tables.runAll (ms ++ more) = tables.runAll ms >>= fun t => t.runAll more := by
  -- The tables vary, since the rest of the first list runs on what its head has left.
  induction ms generalizing tables with
  | nil => rfl
  | cons m rest ih =>
    rw [List.cons_append, runAll_cons, runAll_cons]
    cases m.apply tables with
    | error fault => rfl
    | ok change => exact ih change.tables

/-- What two lists of mutations do one after the other, they do as one list. -/
theorem runAll_append_of_ok {tables middle last : Tables} {ms more : List Mutation}
    (h : tables.runAll ms = .ok middle) (h' : middle.runAll more = .ok last) :
    tables.runAll (ms ++ more) = .ok last := by
  rw [runAll_append, h]
  exact h'

@[simp] theorem runAll_singleton (tables : Tables) (m : Mutation) :
    tables.runAll [m] = Change.tables <$> m.apply tables := by
  rw [runAll_cons]
  cases m.apply tables <;> rfl

/-- What each of the mutations keeps where it is not refused, the whole list keeps. -/
theorem runAll_apply_induction {P : Tables → Prop} {ms : List Mutation}
    (hstep : ∀ m ∈ ms, ∀ t change, P t → m.apply t = .ok change → P change.tables) {t t' : Tables}
    (ht : P t) (hrun : t.runAll ms = .ok t') : P t' := by
  induction ms generalizing t with
  | nil =>
    cases hrun
    exact ht
  | cons m rest ih =>
    rw [runAll_cons] at hrun
    obtain ⟨change, hchange, hrest⟩ := bind_eq_ok_iff.1 hrun
    have hnext := hstep m List.mem_cons_self t change ht hchange
    exact ih (fun m hm => hstep m (List.mem_cons_of_mem _ hm)) hnext hrest

end Tables

end ZoneStore
