import ZoneStore.Proofs.Backend.OpenIds
import ZoneStore.Proofs.Store.Effects

/-!
# Accounting for transactions

Every transaction that was started is open or has been ended in one of four ways, and is counted
accordingly: started transactions are the open ones together with the commits, the failed commits,
the aborts and the failed aborts. The number of open transactions that was noted last is that of the
registry, although it is noted only by some of the calls; and a conflict is counted for every start
that is refused because its number is in use.

The calls are those of `RegistryCall`, so that openers, work and closings are arbitrary actions with
any outcome. A call keeps the accounts balanced (`Balanced.step`), and so does a run of calls
(`transaction_accounting`).
-/

set_option autoImplicit false

namespace ZoneStore

/-! ## Faults of an action -/

namespace Action

variable {σ α β : Type} {F : Fault → Prop}

/-- The faults of the action are of the given kind. -/
def FailsWith (F : Fault → Prop) (x : Action σ α) : Prop :=
  ∀ s fault, (x.run s).1 = .error fault → F fault

theorem failsWith_of_ok {x : Action σ α} (h : ∀ s, ∃ a, (x.run s).1 = .ok a) : FailsWith F x := by
  intro s fault hfault
  obtain ⟨a, ha⟩ := h s
  rw [ha] at hfault
  cases hfault

theorem failsWith_throw {fault : Fault} (h : F fault) :
    FailsWith F (throw fault : Action σ α) := by
  intro s other hother
  cases hother
  exact h

theorem FailsWith.bind {x : Action σ α} {f : α → Action σ β} (hx : FailsWith F x)
    (hf : ∀ a, FailsWith F (f a)) : FailsWith F (x >>= f) := by
  intro s fault hfault
  rw [run_bind] at hfault
  rcases hrun : x.run s with ⟨outcome, t⟩
  rw [hrun] at hfault
  cases outcome with
  | error other =>
    cases hfault
    exact hx s fault (congrArg Prod.fst hrun)
  | ok a => exact hf a t fault hfault

end Action

/-! ## Conflicts -/

/-- The fault says that a number is in use. -/
def Fault.isConflict : Fault → Bool
  | .transactionConflict _ => true
  | _ => false

/-- The outcome is a conflict. -/
def conflicts {α : Type} : Except Fault α → Bool
  | .ok _ => false
  | .error fault => fault.isConflict

namespace Backend

open ZoneStore.Action

/-- The action never fails with a conflict. -/
def ConflictFree {σ α : Type} (x : Action σ α) : Prop :=
  x.FailsWith fun fault => fault.isConflict = false

namespace RegistryCall

/-- The call is a start that is answered by a conflict. -/
def isRefused (b : Backend) : RegistryCall → Bool
  | start id opener => conflicts ((startWith id opener).run b).1
  | _ => false

/-- The call is a start under a free number whose own opener fails with a conflict. -/
def passesOn (b : Backend) : RegistryCall → Bool
  | start id opener => !b.registry.contains id && conflicts (opener.run b.store).1
  | _ => false

/-- If the call is a start, its opener never fails with a conflict. -/
def OpensFree : RegistryCall → Prop
  | start _ opener => ConflictFree opener
  | _ => True

end RegistryCall

/-- The number of calls of a run that are of the given kind where they are made. -/
def countCalls (p : Backend → RegistryCall → Bool) (b : Backend) : List RegistryCall → Nat
  | [] => 0
  | call :: rest => (p b call).toNat + countCalls p (call.run.run b).2 rest

theorem conflictFree_ofDatabase {σ α : Type} (outcome : Except DatabaseFault α) :
    ConflictFree (ofDatabase outcome : Action σ α) := by
  intro s fault hfault
  rw [run_ofDatabase] at hfault
  cases outcome with
  | ok a => cases hfault
  | error cause =>
    cases hfault
    rfl

theorem conflictFree_finish (ending : Ending) : ConflictFree (Work.finish ending) := by
  refine (failsWith_of_ok fun w => ⟨w, rfl⟩).bind fun w => ?_
  cases w.store.repertoire.endingFault? ending with
  | some cause => exact failsWith_throw rfl
  | none =>
    exact FailsWith.bind (failsWith_of_ok fun _ => ⟨(), rfl⟩) fun _ => conflictFree_ofDatabase _

theorem conflictFree_mutate (m : Mutation) : ConflictFree (Work.mutate m) := by
  refine (failsWith_of_ok fun w => ⟨w, rfl⟩).bind fun w => ?_
  exact FailsWith.bind (failsWith_of_ok fun _ => ⟨(), rfl⟩) fun _ => conflictFree_ofDatabase _

theorem conflictFree_perform (m : Mutation) : ConflictFree (Work.perform m) := by
  have hrole : ConflictFree (Work.roleOf m.statement) := by
    refine (failsWith_of_ok fun w => ⟨w, rfl⟩).bind fun w => ?_
    cases w.store.repertoire.role? m.statement with
    | none => exact failsWith_throw rfl
    | some role => exact failsWith_of_ok fun w => ⟨role, rfl⟩
  refine hrole.bind fun role => ?_
  cases role with
  | own => exact conflictFree_mutate m
  | ends ending =>
    exact (conflictFree_finish ending).bind fun _ => failsWith_of_ok fun _ => ⟨_, rfl⟩
  | fails cause => exact failsWith_throw rfl

/-- A transaction that is rolled back fails as the action in it did. -/
theorem conflictFree_within {α : Type} {x : ConnectionM α} (hx : ConflictFree x) (c : Connection) :
    ConflictFree (Store.within c x) := by
  intro s fault hfault
  simp only [Store.within, run_bind, Store.run_runOn] at hfault
  cases houtcome : (x.run ⟨c, s⟩).1 with
  | ok a =>
    rw [houtcome] at hfault
    cases hfault
  | error other =>
    rw [houtcome] at hfault
    cases hfault
    exact hx ⟨c, s⟩ fault houtcome

theorem conflictFree_takeConnection : ConflictFree Store.takeConnection := by
  refine FailsWith.bind (failsWith_of_ok fun s => ⟨s, rfl⟩) fun s => ?_
  cases s.pool.take? with
  | none => exact failsWith_throw rfl
  | some taken => exact failsWith_of_ok fun _ => ⟨_, rfl⟩

/-- The opener of a zone never fails with a conflict: it only takes a connection and runs
statements. -/
theorem conflictFree_opener (zone : Int) : ConflictFree (opener zone) := by
  have hbegin : ConflictFree Store.begin :=
    conflictFree_takeConnection.bind fun _ => failsWith_of_ok fun _ => ⟨_, rfl⟩
  refine hbegin.bind fun c => ?_
  split
  · exact (conflictFree_within (conflictFree_perform _) c).bind fun _ =>
      failsWith_of_ok fun _ => ⟨_, rfl⟩
  · exact failsWith_of_ok fun _ => ⟨c, rfl⟩

/-! ## Balanced accounts -/

/-- Every transaction that was started is open or has been ended, and the number of open ones is
right once it has been noted. No number is only reserved, so that the numbers in use are those of
open transactions. -/
structure Balanced (b : Backend) : Prop where
  filled : b.registry.Filled
  started : b.tally.started = b.registry.size + b.tally.committed + b.tally.commitFailures +
    b.tally.aborted + b.tally.abortFailures
  opened : ∀ n, b.tally.opened = some n → n = b.registry.size

theorem balanced_on (store : Store) (dnssec : Bool) (hasher : Option Hasher) :
    (on store dnssec hasher).Balanced := by
  refine ⟨Registry.filled_empty, rfl, ?_⟩
  intro n hn
  cases hn

/-- The accounts do not depend on anything but the counts and the number of open transactions. -/
theorem Balanced.congr {b b' : Backend} (h : b.Balanced) (hfilled : b'.registry.Filled)
    (htally : b'.tally = b.tally) (hsize : b'.registry.size = b.registry.size) :
    b'.Balanced := by
  refine ⟨hfilled, ?_, ?_⟩
  · rw [htally, hsize]
    exact h.started
  · rw [htally, hsize]
    exact h.opened

/-- A transaction that was registered is one more that was started and one more that is open. -/
theorem Balanced.registered {b : Backend} (h : b.Balanced) {id : Int}
    (hfree : b.registry.contains id = false) (c : Connection) : (b.registered id c).Balanced := by
  have hsize : (b.registry.enter id c).size = b.registry.size + 1 :=
    Registry.size_insert_of_free hfree _
  have hstarted := h.started
  refine ⟨h.filled.insert id _ c, ?_, ?_⟩
  · show b.tally.started + 1 = (b.registry.enter id c).size + b.tally.committed +
      b.tally.commitFailures + b.tally.aborted + b.tally.abortFailures
    omega
  · intro n hn
    exact (Option.some.inj hn).symm

/-- A transaction that was ended is one less that is open, and is counted once. -/
theorem Balanced.ended {b b' : Backend} (h : b.Balanced) {id : Int}
    (hused : b.registry.contains id = true) (ending : Ending) (succeeded : Bool)
    (hregistry : b'.registry = b.registry.erase id)
    (htally : b'.tally = countEnding ending succeeded
      { b.tally with opened := some (b.registry.erase id).size }) : b'.Balanced := by
  have hsize := Registry.size_erase (Registry.contains_iff_mem_keys.1 hused)
  have hstarted := h.started
  refine ⟨hregistry ▸ h.filled.erase id, ?_, ?_⟩
  · rw [htally, hregistry]
    cases ending <;> cases succeeded <;> simp only [countEnding] <;> omega
  · intro n hn
    rw [htally] at hn
    rw [hregistry]
    cases ending <;> cases succeeded <;> exact (Option.some.inj hn).symm

/-! ## One call -/

/-- Every call keeps the accounts balanced, whatever its outcome is. -/
theorem Balanced.step {b : Backend} (h : b.Balanced) (call : RegistryCall) :
    (call.run.run b).2.Balanced := by
  cases call with
  | start id opener =>
    cases hid : b.registry.contains id with
    | true =>
      rw [RegistryCall.run, run_startWith_of_contains hid]
      exact ⟨h.filled, h.started, h.opened⟩
    | false =>
      rw [RegistryCall.run, run_startWith_of_free hid]
      rcases opener.run b.store with ⟨outcome, s⟩
      cases outcome with
      | error fault => exact h.congr h.filled rfl rfl
      | ok c =>
        have hopened : Balanced { b with store := s } := h.congr h.filled rfl rfl
        exact hopened.registered hid c
  | work id action =>
    rw [RegistryCall.run_work]
    cases hid : b.registry.connection? id with
    | none =>
      rw [run_inTransaction_of_none hid]
      exact h
    | some c =>
      -- The connection is put back into the slot that it came from.
      rw [run_inTransaction_of_some hid]
      exact h.congr (h.filled.put hid _) rfl (Registry.size_put hid _)
  | finish id ending closing =>
    cases hid : b.registry.contains id with
    | false =>
      rw [RegistryCall.run, run_endWith_of_free hid]
      exact h
    | true =>
      obtain ⟨c, hc⟩ := h.filled.exists_connection hid
      rw [RegistryCall.run, run_endWith_of_some hc]
      exact h.ended hid ending _ rfl rfl

/-- A call that is not a start counts no conflict, and neither does a start under a free number. -/
theorem RegistryCall.conflicts_run (b : Backend) (call : RegistryCall) :
    (call.run.run b).2.tally.conflicts + (call.passesOn b).toNat =
      b.tally.conflicts + (call.isRefused b).toNat := by
  cases call with
  | start id opener =>
    cases hid : b.registry.contains id with
    | true =>
      rw [RegistryCall.run, isRefused, passesOn, run_startWith_of_contains hid, hid]
      rfl
    | false =>
      -- The opener is run, and the start has the outcome of the opener.
      rw [RegistryCall.run, isRefused, passesOn, run_startWith_of_free hid, hid]
      rcases opener.run b.store with ⟨outcome, s⟩
      cases outcome <;> rfl
  | work id action =>
    rw [RegistryCall.run_work]
    cases hid : b.registry.connection? id with
    | none => rw [run_inTransaction_of_none hid]; rfl
    | some c => rw [run_inTransaction_of_some hid]; rfl
  | finish id ending closing =>
    rcases hid : b.registry.find? id with - | ⟨mark, - | c⟩
    · rw [RegistryCall.run, run_endWith_of_free (by rw [Registry.contains, hid]; rfl)]
      rfl
    · rw [RegistryCall.run, run_endWith_of_reserved hid]
      rfl
    · rw [RegistryCall.run, run_endWith_of_some (by rw [Registry.connection?, hid]; rfl)]
      generalize ((closing c).run b.store).1.isOk = succeeded
      cases ending <;> cases succeeded <;> rfl

/-! ## Runs of calls -/

theorem Balanced.afterCalls {b : Backend} (h : b.Balanced) (calls : List RegistryCall) :
    (b.afterCalls calls).Balanced := by
  induction calls generalizing b with
  | nil => exact h
  | cons call rest ih => exact ih (h.step call)

/-- The conflicts that a run counts are those of the starts that it refuses, but for those that come
from an opener. -/
theorem conflicts_afterCalls (b : Backend) (calls : List RegistryCall) :
    (b.afterCalls calls).tally.conflicts + countCalls RegistryCall.passesOn b calls =
      b.tally.conflicts + countCalls RegistryCall.isRefused b calls := by
  induction calls generalizing b with
  | nil => rfl
  | cons call rest ih =>
    have hfirst := call.conflicts_run b
    have hrest := ih (call.run.run b).2
    have hrun : b.afterCalls (call :: rest) = (call.run.run b).2.afterCalls rest := rfl
    simp only [countCalls, hrun]
    omega

theorem RegistryCall.OpensFree.passesOn {call : RegistryCall} (h : call.OpensFree) (b : Backend) :
    call.passesOn b = false := by
  cases call with
  | start id opener =>
    cases houtcome : (opener.run b.store).1 with
    | ok c => simp [RegistryCall.passesOn, houtcome, conflicts]
    | error fault => simp [RegistryCall.passesOn, houtcome, conflicts, h b.store fault houtcome]
  | work | finish => rfl

theorem countCalls_passesOn {calls : List RegistryCall} (h : ∀ call ∈ calls, call.OpensFree)
    (b : Backend) : countCalls RegistryCall.passesOn b calls = 0 := by
  induction calls generalizing b with
  | nil => rfl
  | cons call rest ih =>
    have hfirst := (h call List.mem_cons_self).passesOn b
    have hrest := ih (fun c hc => h c (List.mem_cons_of_mem _ hc)) (call.run.run b).2
    rw [countCalls, hfirst, hrest]
    rfl

/-- After any run of calls from a backend without transactions the accounts are balanced, and the
conflicts counted are the starts that were answered by a conflict: exactly these if no opener fails
with a conflict of its own, as the openers of zones never do, and otherwise without the starts that
passed on such a conflict. A start whose opener fails changes neither the registry nor a count,
although it has reserved its number by then, and neither does any work in or ending of a transaction
whose number is not in use. -/
theorem transaction_accounting (store : Store) (dnssec : Bool) (hasher : Option Hasher)
    (calls : List RegistryCall) :
    let fresh := on store dnssec hasher
    let reached := fresh.afterCalls calls
    reached.Balanced ∧
      reached.tally.conflicts + countCalls RegistryCall.passesOn fresh calls =
        countCalls RegistryCall.isRefused fresh calls ∧
      ((∀ call ∈ calls, call.OpensFree) →
        reached.tally.conflicts = countCalls RegistryCall.isRefused fresh calls) ∧
      (∀ id zone, (RegistryCall.start id (opener zone)).OpensFree) ∧
      ∀ id, reached.registry.contains id = false →
        (∀ opener fault s, opener.run reached.store = (.error fault, s) →
          (startWith id opener).run reached = (.error fault, { reached with store := s })) ∧
        (∀ (α : Type) (action : ConnectionM α),
          (inTransaction id action).run reached = (.error (.noActiveTransaction id), reached)) ∧
        ∀ ending closing,
          (endWith id ending closing).run reached = (.error (.noSuchTransaction id), reached) := by
  intro fresh reached
  have hconflicts := conflicts_afterCalls fresh calls
  have hnone : fresh.tally.conflicts = 0 := rfl
  rw [hnone, Nat.zero_add] at hconflicts
  refine ⟨(balanced_on store dnssec hasher).afterCalls calls, hconflicts, ?_,
    fun _ zone => conflictFree_opener zone, ?_⟩
  · intro hfree
    rwa [countCalls_passesOn hfree] at hconflicts
  · intro id hid
    refine ⟨?_, fun _ _ => run_inTransaction_of_none (Registry.connection?_of_free hid),
      fun _ _ => run_endWith_of_free hid⟩
    intro opener fault s hopen
    rw [run_startWith_of_free hid, hopen]

end Backend

end ZoneStore
