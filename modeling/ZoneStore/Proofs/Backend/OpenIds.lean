import Mathlib.Data.Finset.Dedup
import Mathlib.Data.Finset.Erase
import Mathlib.Data.Finset.Insert
import ZoneStore.Backend.Transactions

/-!
# The numbers of open transactions

A `RegistryCall` is a start, some work, or an ending of a numbered transaction. The opener of a
start, the work and the closing of an ending are arbitrary actions, so they may fail in any way and
leave the store and the connection in any state; in particular a transaction may have ended behind
the registry's back. `openIds` is the set of numbers that the calls of a run and their outcomes
leave open, without a look at the registry.

A number that a start has reserved is in use, but no transaction is open under it
(`answers_reserved`). No call leaves such a number behind: a run that begins without one ends
without one, the registry holds exactly the numbers of the set, and every next call is answered by
the set (`registry_refines_openIds`).
-/

set_option autoImplicit false

namespace ZoneStore.Backend

/-- A call on the registry of numbered transactions. A start is that of `startTransaction` with the
opener `opener zone`, every zone update is some work, and commit and abort are endings with the
closing `Store.close`. -/
inductive RegistryCall : Type 1 where
  /-- Starts a transaction that the opener gives. -/
  | start (id : Int) (opener : StoreM Connection)
  /-- Runs an action in a transaction. -/
  | work {α : Type} (id : Int) (action : ConnectionM α)
  /-- Ends a transaction by the closing. -/
  | finish (id : Int) (ending : Ending) (closing : Connection → StoreM Unit)

namespace RegistryCall

/-- The number that a call is about. -/
def id : RegistryCall → Int
  | start id _ => id
  | work id _ => id
  | finish id _ _ => id

/-- What a call does; the result of some work is not kept. -/
def run : RegistryCall → BackendM Unit
  | start id opener => startWith id opener
  | work id action => do
    let _ ← inTransaction id action
    return ()
  | finish id ending closing => endWith id ending closing

/-- The open numbers after a call: a start that succeeds adds its number, an ending takes its number
away whatever its outcome is, and nothing else changes them. -/
def openAfter (ids : Finset Int) : RegistryCall → Except Fault Unit → Finset Int
  | start id _, .ok _ => insert id ids
  | start _ _, .error _ => ids
  | work _ _, _ => ids
  | finish id _ _, _ => ids.erase id

/-- What a call gives and leaves, told by the open numbers. A call that is refused leaves the
backend as it is, but for the count of conflicts; any other call has the outcome of its own
action. -/
def Answers (ids : Finset Int) (b : Backend) : RegistryCall → Prop
  | start id opener =>
    (id ∈ ids → (startWith id opener).run b =
      (.error (.transactionConflict id), { b with tally.conflicts := b.tally.conflicts + 1 })) ∧
    (id ∉ ids →
      (∀ c s, opener.run b.store = (.ok c, s) →
        (startWith id opener).run b = (.ok (), registered { b with store := s } id c)) ∧
      ∀ fault s, opener.run b.store = (.error fault, s) →
        (startWith id opener).run b = (.error fault, { b with store := s }))
  | work id action =>
    (id ∉ ids → (inTransaction id action).run b = (.error (.noActiveTransaction id), b)) ∧
    (id ∈ ids → ∃ c, b.registry.connection? id = some c ∧
      (inTransaction id action).run b = ((action.run ⟨c, b.store⟩).1,
        { b with
          store := (action.run ⟨c, b.store⟩).2.store
          registry := b.registry.put id (action.run ⟨c, b.store⟩).2.connection }))
  | finish id ending closing =>
    (id ∉ ids → (endWith id ending closing).run b = (.error (.noSuchTransaction id), b)) ∧
    (id ∈ ids → ∃ c, b.registry.connection? id = some c ∧
      ((endWith id ending closing).run b).1 = ((closing c).run b.store).1 ∧
      ((endWith id ending closing).run b).2.store = ((closing c).run b.store).2 ∧
      ((endWith id ending closing).run b).2.registry.contains id = false)

end RegistryCall

/-- The backend after a run of calls, whether they succeed or fail. -/
def afterCalls (b : Backend) (calls : List RegistryCall) : Backend :=
  calls.foldl (fun b call => (call.run.run b).2) b

/-- The numbers that a run of calls leaves open, by the calls and their outcomes. -/
def openIds (b : Backend) (ids : Finset Int) : List RegistryCall → Finset Int
  | [] => ids
  | call :: rest =>
    openIds (call.run.run b).2 (call.openAfter ids (call.run.run b).1) rest

/-- The registry of a backend holds exactly the given numbers, and none of them is only reserved. -/
structure HoldsIds (b : Backend) (ids : Finset Int) : Prop where
  filled : b.registry.Filled
  contains : ∀ id, b.registry.contains id = true ↔ id ∈ ids

/-- While a number is reserved a start under it is refused, there is no transaction to work in or to
end, and the attempt to end one frees the number. -/
theorem answers_reserved {b : Backend} {id : Int} (hid : b.registry.contains id = false) :
    let reserved := { b with registry := b.registry.reserve id }
    (∀ opener, (startWith id opener).run reserved =
      (.error (.transactionConflict id),
        { reserved with tally.conflicts := b.tally.conflicts + 1 })) ∧
    (∀ (α : Type) (action : ConnectionM α),
      (inTransaction id action).run reserved = (.error (.noActiveTransaction id), reserved)) ∧
    ∀ ending closing, (endWith id ending closing).run reserved =
      (.error (.noSuchTransaction id), { b with tally.opened := some b.registry.size }) := by
  intro reserved
  have hfind : reserved.registry.find? id = some ⟨b.registry.freshMark, none⟩ := by
    show (b.registry.reserve id).find? id = _
    rw [Registry.reserve, Registry.find?_insert, if_pos rfl]
  refine ⟨fun opener => ?_, fun α action => ?_, fun ending closing => ?_⟩
  · exact run_startWith_of_contains (by rw [Registry.contains, hfind]; rfl)
  · exact run_inTransaction_of_none (by rw [Registry.connection?, hfind]; rfl)
  · have herase : reserved.registry.erase id = b.registry := Registry.erase_insert_of_free hid _
    rw [run_endWith_of_reserved hfind, herase]

/-! ## The registry and the set -/

section Holds

variable {b : Backend} {ids : Finset Int}

theorem holdsIds_keys (h : b.registry.Filled) : b.HoldsIds b.registry.keys.toFinset := by
  refine ⟨h, fun id => ?_⟩
  rw [Registry.contains_iff_mem_keys, List.mem_toFinset]

theorem HoldsIds.contains_eq_false (h : b.HoldsIds ids) {id : Int} (hid : id ∉ ids) :
    b.registry.contains id = false := by
  rw [← Bool.not_eq_true, h.contains]
  exact hid

theorem HoldsIds.connection?_eq_none (h : b.HoldsIds ids) {id : Int} (hid : id ∉ ids) :
    b.registry.connection? id = none :=
  Registry.connection?_of_free (h.contains_eq_false hid)

theorem HoldsIds.exists_connection (h : b.HoldsIds ids) {id : Int} (hid : id ∈ ids) :
    ∃ c, b.registry.connection? id = some c :=
  h.filled.exists_connection ((h.contains id).2 hid)

/-- A registry in which one number got a transaction holds that number too. -/
theorem HoldsIds.insert (h : b.HoldsIds ids) {b' : Backend} {id : Int} {mark : Nat}
    {c : Connection} (hb' : b'.registry = b.registry.insert id ⟨mark, some c⟩) :
    b'.HoldsIds (Insert.insert id ids) := by
  refine ⟨hb' ▸ h.filled.insert id mark c, fun other => ?_⟩
  have hfind := b.registry.find?_insert id other ⟨mark, some c⟩
  rw [hb', Registry.contains, hfind, Finset.mem_insert]
  by_cases hother : other = id
  · simp [hother]
  · simp only [hother, if_false, false_or]
    exact h.contains other

/-- A registry that a number was taken out of holds the other ones. -/
theorem HoldsIds.erase (h : b.HoldsIds ids) {b' : Backend} {id : Int}
    (hb' : b'.registry = b.registry.erase id) : b'.HoldsIds (ids.erase id) := by
  refine ⟨hb' ▸ h.filled.erase id, fun other => ?_⟩
  have hfind := b.registry.find?_erase id other
  rw [hb', Registry.contains, hfind, Finset.mem_erase]
  by_cases hother : other = id
  · simp [hother]
  · simp only [hother, if_false, ne_eq, not_false_eq_true, true_and]
    exact h.contains other

end Holds

/-! ## One call -/

/-- Every call is answered by the set of open numbers. -/
theorem RegistryCall.answers {b : Backend} {ids : Finset Int} (h : b.HoldsIds ids)
    (call : RegistryCall) : call.Answers ids b := by
  cases call with
  | start id opener =>
    constructor
    · intro hid
      exact run_startWith_of_contains ((h.contains id).2 hid)
    · intro hid
      have hcontains := h.contains_eq_false hid
      constructor
      · intro c s hopen
        rw [run_startWith_of_free hcontains, hopen]
      · intro fault s hopen
        rw [run_startWith_of_free hcontains, hopen]
  | work id action =>
    constructor
    · intro hid
      exact run_inTransaction_of_none (h.connection?_eq_none hid)
    · intro hid
      obtain ⟨c, hc⟩ := h.exists_connection hid
      exact ⟨c, hc, run_inTransaction_of_some hc⟩
  | finish id ending closing =>
    constructor
    · intro hid
      exact run_endWith_of_free (h.contains_eq_false hid)
    · intro hid
      obtain ⟨c, hc⟩ := h.exists_connection hid
      rw [run_endWith_of_some hc]
      refine ⟨c, hc, rfl, rfl, ?_⟩
      rw [Registry.contains, Registry.find?_erase, if_pos rfl]
      rfl

/-- The work of a call has the outcome of its action, without the result, and leaves what the action
leaves. -/
theorem RegistryCall.run_work {α : Type} (b : Backend) (id : Int) (action : ConnectionM α) :
    ((work id action).run.run b).2 = ((inTransaction id action).run b).2 := by
  simp only [RegistryCall.run, Action.run_bind]
  rcases (inTransaction id action).run b with ⟨outcome, b'⟩
  cases outcome <;> rfl

/-- One call keeps the registry and the set of open numbers together. -/
theorem HoldsIds.step {b : Backend} {ids : Finset Int} (h : b.HoldsIds ids)
    (call : RegistryCall) :
    (call.run.run b).2.HoldsIds (call.openAfter ids (call.run.run b).1) := by
  cases call with
  | start id opener =>
    by_cases hid : id ∈ ids
    · rw [RegistryCall.run, run_startWith_of_contains ((h.contains id).2 hid)]
      exact ⟨h.filled, h.contains⟩
    · rw [RegistryCall.run, run_startWith_of_free (h.contains_eq_false hid)]
      rcases opener.run b.store with ⟨outcome, s⟩
      cases outcome with
      | error fault => exact ⟨h.filled, h.contains⟩
      | ok c =>
        -- The set grows by the number exactly where the registry does.
        exact h.insert rfl
  | work id action =>
    show (RegistryCall.run _ |>.run b).2.HoldsIds ids
    rw [RegistryCall.run_work]
    by_cases hid : id ∈ ids
    · -- The connection is put back into its slot, whose number is in the set already.
      obtain ⟨c, hc⟩ := h.exists_connection hid
      obtain ⟨mark, -, hput⟩ := Registry.put_eq_insert hc (action.run ⟨c, b.store⟩).2.connection
      rw [run_inTransaction_of_some hc, ← Finset.insert_eq_of_mem hid]
      exact h.insert hput
    · rw [run_inTransaction_of_none (h.connection?_eq_none hid)]
      exact h
  | finish id ending closing =>
    show (RegistryCall.run _ |>.run b).2.HoldsIds (ids.erase id)
    by_cases hid : id ∈ ids
    · -- The number is free whatever the closing came to.
      obtain ⟨c, hc⟩ := h.exists_connection hid
      rw [RegistryCall.run, run_endWith_of_some hc]
      exact h.erase rfl
    · rw [RegistryCall.run, run_endWith_of_free (h.contains_eq_false hid),
        Finset.erase_eq_of_notMem hid]
      exact h

/-- A call leaves every slot of another number as it is. -/
theorem RegistryCall.find?_other {b : Backend} (call : RegistryCall) {other : Int}
    (hother : other ≠ call.id) :
    (call.run.run b).2.registry.find? other = b.registry.find? other := by
  have inserted (id : Int) (slot : Slot) (hne : other ≠ id) :
      (b.registry.insert id slot).find? other = b.registry.find? other := by
    rw [Registry.find?_insert, if_neg hne]
  have erased (id : Int) (hne : other ≠ id) :
      (b.registry.erase id).find? other = b.registry.find? other := by
    rw [Registry.find?_erase, if_neg hne]
  cases call with
  | start id opener =>
    cases hid : b.registry.contains id with
    | true => rw [RegistryCall.run, run_startWith_of_contains hid]
    | false =>
      rw [RegistryCall.run, run_startWith_of_free hid]
      rcases opener.run b.store with ⟨outcome, s⟩
      cases outcome with
      | error fault => rfl
      | ok c => exact inserted id _ hother
  | work id action =>
    rw [RegistryCall.run_work]
    cases hid : b.registry.connection? id with
    | none => rw [run_inTransaction_of_none hid]
    | some c =>
      obtain ⟨mark, -, hput⟩ := Registry.put_eq_insert hid (action.run ⟨c, b.store⟩).2.connection
      rw [run_inTransaction_of_some hid, hput]
      exact inserted id _ hother
  | finish id ending closing =>
    rcases hid : b.registry.find? id with - | ⟨mark, - | c⟩
    · rw [RegistryCall.run, run_endWith_of_free (by rw [Registry.contains, hid]; rfl)]
    · rw [RegistryCall.run, run_endWith_of_reserved hid]
      exact erased id hother
    · rw [RegistryCall.run, run_endWith_of_some (by rw [Registry.connection?, hid]; rfl)]
      exact erased id hother

/-! ## Runs of calls -/

/-- A run of calls keeps the registry and the set of open numbers together. -/
theorem HoldsIds.afterCalls {b : Backend} {ids : Finset Int} (h : b.HoldsIds ids)
    (calls : List RegistryCall) : (b.afterCalls calls).HoldsIds (openIds b ids calls) := by
  induction calls generalizing b ids with
  | nil => exact h
  | cons call rest ih => exact ih (h.step call)

/-- After any run of calls no number is half registered and the registry holds exactly the numbers
that the run left open, and every next call is answered by that set and leaves the slots of other
numbers as they are. -/
theorem registry_refines_openIds (b : Backend) (hfilled : b.registry.Filled)
    (calls : List RegistryCall) (call : RegistryCall) :
    let reached := b.afterCalls calls
    let ids := openIds b b.registry.keys.toFinset calls
    reached.registry.Filled ∧
      (∀ id, inProgress reached id = true ↔ id ∈ ids) ∧
      call.Answers ids reached ∧
      ∀ other, other ≠ call.id →
        (call.run.run reached).2.registry.find? other = reached.registry.find? other := by
  intro reached ids
  have hholds : reached.HoldsIds ids := (holdsIds_keys hfilled).afterCalls calls
  exact ⟨hholds.filled, hholds.contains, call.answers hholds,
    fun other hother => call.find?_other hother⟩

/-- The first start fails to open, so the second one finds its number free; the third is refused. -/
theorem registry_refines_openIds_failed_start :
    let b := on (.on .empty) false none
    let calls := [.start 1 (throw .hasherMissing), .start 1 (opener 0), .start 2 (opener 0)]
    b.registry.Filled ∧ openIds b ∅ calls = {1, 2} ∧
      (b.afterCalls calls).registry.Filled ∧ inProgress (b.afterCalls calls) 1 = true ∧
      ((startWith 1 (opener 0)).run (b.afterCalls calls)).1 = .error (.transactionConflict 1) := by
  intro b calls
  have hids : openIds b ∅ calls = {1, 2} := by decide
  obtain ⟨hfilled, hholds, hanswers, -⟩ :=
    registry_refines_openIds b Registry.filled_empty calls (.start 1 (opener 0))
  have hmem : (1 : Int) ∈ openIds b b.registry.keys.toFinset calls := by
    show 1 ∈ openIds b ∅ calls
    rw [hids]
    decide
  exact ⟨Registry.filled_empty, hids, hfilled, (hholds 1).2 hmem,
    congrArg Prod.fst (hanswers.1 hmem)⟩

end ZoneStore.Backend
