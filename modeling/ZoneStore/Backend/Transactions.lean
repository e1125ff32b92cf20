import ZoneStore.Backend.State

/-!
# Numbered transactions

A transaction is started under a number that is not in use, worked in, and ended by commit or abort.
Ending frees the number even if the transaction itself can no longer be ended. A start that is
refused runs nothing. Any other start reserves the number by an empty slot before it opens the
transaction, and takes the slot away again if the transaction cannot be opened.
-/

set_option autoImplicit false

namespace ZoneStore.Backend

/-- Counts a transaction that was started, and notes how many numbers are in use. -/
def noteStarted (b : Backend) : Backend :=
  { b with
    tally.started := b.tally.started + 1
    tally.opened := some b.registry.size }

/-- Reserves a number that is not in use, and registers the transaction that `opener` gives under
it. If the opener fails, the number is released. -/
def startWith (id : Int) (opener : StoreM Connection) : BackendM Unit := do
  let registry := (← get).registry
  if registry.contains id then
    modify fun b => { b with tally.conflicts := b.tally.conflicts + 1 }
    throw (.transactionConflict id)
  let mark := registry.freshMark
  modify fun b => { b with registry := b.registry.reserve id }
  match ← Action.attempt (onStore opener) with
  | .ok c => modify fun b => noteStarted { b with registry := b.registry.fill id mark c }
  | .error fault =>
    modify fun b => { b with registry := b.registry.release id mark }
    throw fault

/-- The backend with an open transaction registered under a number that was free. -/
def registered (b : Backend) (id : Int) (c : Connection) : Backend :=
  noteStarted { b with registry := b.registry.enter id c }

/-- A start under a number in use is refused and counted; the opener is not run. -/
theorem run_startWith_of_contains {b : Backend} {id : Int} {opener : StoreM Connection}
    (h : b.registry.contains id = true) :
    (startWith id opener).run b =
      (.error (.transactionConflict id), { b with tally.conflicts := b.tally.conflicts + 1 }) := by
  simp [startWith, h]

/-- A start under a free number registers what the opener gives, or fails as the opener does and
leaves no slot behind. -/
theorem run_startWith_of_free {b : Backend} {id : Int} {opener : StoreM Connection}
    (h : b.registry.contains id = false) :
    (startWith id opener).run b = match opener.run b.store with
      | (.ok c, s) => (.ok (), registered { b with store := s } id c)
      | (.error fault, s) => (.error fault, { b with store := s }) := by
  have hopened (c : Connection) := b.registry.fill_reserve id c
  have hreleased := Registry.release_reserve h
  simp only [startWith, Action.run_bind, Action.run_get, h, Bool.false_eq_true, if_false,
    Action.run_modify, Action.run_attempt, run_onStore]
  rcases opener.run b.store with ⟨outcome, s⟩
  cases outcome with
  | ok c => simp only [Action.run_modify, registered, hopened]
  | error fault => simp only [Action.run_bind, Action.run_modify, Action.run_throw, hreleased]

/-- Begins a transaction; with a positive zone id its first statement deletes the records of the
zone. -/
def opener (zone : Int) : StoreM Connection := do
  let c ← Store.begin
  if 0 < zone then
    let (_, c) ← Store.within c (Work.perform (.deleteZone (some zone)))
    return c
  else return c

/-- Starts a numbered transaction, and with a positive zone id deletes the records of that zone in
it. -/
def startTransaction (id zone : Int) : BackendM Unit := startWith id (opener zone)

/-- Starts a numbered transaction as often as there are contenders for the number, and gives the
outcome of each start. -/
def contend (id : Int) : Nat → BackendM (List (Except Fault Unit))
  | 0 => return []
  | contenders + 1 => do
    let outcome ← Action.attempt (startTransaction id 0)
    return outcome :: (← contend id contenders)

/-- Runs an action in a numbered transaction. -/
def inTransaction {α : Type} (id : Int) (action : ConnectionM α) : BackendM α := do
  match (← get).registry.find? id with
  | none => throw (.noActiveTransaction id)
  | some slot =>
    match slot.content with
    | none => throw (.noActiveTransaction id)
    | some c =>
      let (outcome, c) ← onStore (Store.runOn c action)
      modify fun b => { b with registry := b.registry.put id c }
      Action.ofExcept outcome

/-- Work under a number without an open transaction is refused. -/
theorem run_inTransaction_of_none {α : Type} {b : Backend} {id : Int} {action : ConnectionM α}
    (h : b.registry.connection? id = none) :
    (inTransaction id action).run b = (.error (.noActiveTransaction id), b) := by
  simp only [inTransaction, Action.run_bind, Action.run_get]
  cases hfind : b.registry.find? id with
  | none => rfl
  | some slot =>
    rw [Registry.connection?, hfind, Option.bind_some] at h
    simp only [h, Action.run_throw]

/-- Work in a numbered transaction runs on its connection, and the number stays in use. -/
theorem run_inTransaction_of_some {α : Type} {b : Backend} {id : Int} {action : ConnectionM α}
    {c : Connection} (h : b.registry.connection? id = some c) :
    (inTransaction id action).run b =
      ((action.run ⟨c, b.store⟩).1,
        { b with
          store := (action.run ⟨c, b.store⟩).2.store
          registry := b.registry.put id (action.run ⟨c, b.store⟩).2.connection }) := by
  obtain ⟨mark, hfind⟩ := Registry.exists_slot h
  simp [inTransaction, hfind, Store.runOn]

/-- Work in a numbered transaction does not change the mode of operation. -/
theorem run_inTransaction_mode {α : Type} (id : Int) (action : ConnectionM α) (b : Backend) :
    ((inTransaction id action).run b).2.dnssec = b.dnssec ∧
      ((inTransaction id action).run b).2.hasher = b.hasher := by
  cases h : b.registry.connection? id with
  | none =>
    rw [run_inTransaction_of_none h]
    exact ⟨rfl, rfl⟩
  | some c =>
    rw [run_inTransaction_of_some h]
    exact ⟨rfl, rfl⟩

/-- Takes a numbered transaction out of the registry. Its number is free then, even if it was only
reserved. -/
def takeTransaction (id : Int) : BackendM Connection := do
  match (← get).registry.find? id with
  | none => throw (.noSuchTransaction id)
  | some slot =>
    modify fun b =>
      let registry := b.registry.erase id
      { b with registry := registry, tally.opened := some registry.size }
    match slot.content with
    | none => throw (.noSuchTransaction id)
    | some c => return c

/-- Counts one ending of a transaction, by its outcome. -/
def countEnding (ending : Ending) (succeeded : Bool) (t : Tally) : Tally :=
  match ending, succeeded with
  | .commit, true => { t with committed := t.committed + 1 }
  | .commit, false => { t with commitFailures := t.commitFailures + 1 }
  | .rollback, true => { t with aborted := t.aborted + 1 }
  | .rollback, false => { t with abortFailures := t.abortFailures + 1 }

/-- Ends a numbered transaction by `closing`, and frees its number. -/
def endWith (id : Int) (ending : Ending) (closing : Connection → StoreM Unit) : BackendM Unit := do
  -- The number is free from here on, whatever the ending comes to.
  let c ← takeTransaction id
  let outcome ← Action.attempt (onStore (closing c))
  modify fun b => { b with tally := countEnding ending outcome.isOk b.tally }
  Action.ofExcept outcome

/-- A number that is not in use cannot be ended. -/
theorem run_endWith_of_free {b : Backend} {id : Int} {ending : Ending}
    {closing : Connection → StoreM Unit} (h : b.registry.contains id = false) :
    (endWith id ending closing).run b = (.error (.noSuchTransaction id), b) := by
  have hfind : b.registry.find? id = none := by simpa [Registry.contains] using h
  simp [endWith, takeTransaction, hfind]

/-- A number that is only reserved cannot be ended either, but is free afterwards. -/
theorem run_endWith_of_reserved {b : Backend} {id : Int} {ending : Ending}
    {closing : Connection → StoreM Unit} {mark : Nat}
    (h : b.registry.find? id = some ⟨mark, none⟩) :
    (endWith id ending closing).run b =
      (.error (.noSuchTransaction id),
        { b with
          registry := b.registry.erase id
          tally.opened := some (b.registry.erase id).size }) := by
  simp [endWith, takeTransaction, h]

/-- Where no transaction is open under a number, the attempt to end one leaves at most the number
free. -/
theorem run_endWith_of_none {b : Backend} {id : Int} {ending : Ending}
    {closing : Connection → StoreM Unit} (h : b.registry.connection? id = none) :
    ∃ tally, (endWith id ending closing).run b =
      (.error (.noSuchTransaction id),
        { b with
          registry := b.registry.erase id
          tally := tally }) := by
  rcases hslot : b.registry.find? id with - | ⟨mark, - | c⟩
  · have hfree : b.registry.contains id = false := by rw [Registry.contains, hslot]; rfl
    exact ⟨b.tally, by rw [run_endWith_of_free hfree, Registry.erase_of_free hfree]⟩
  · exact ⟨_, run_endWith_of_reserved hslot⟩
  · rw [Registry.connection?, hslot] at h
    cases h

/-- Ending a numbered transaction has the outcome of its closing, and frees the number. -/
theorem run_endWith_of_some {b : Backend} {id : Int} {ending : Ending}
    {closing : Connection → StoreM Unit} {c : Connection} (h : b.registry.connection? id = some c) :
    (endWith id ending closing).run b =
      (((closing c).run b.store).1,
        { b with
          store := ((closing c).run b.store).2
          registry := b.registry.erase id
          tally := countEnding ending ((closing c).run b.store).1.isOk
            { b.tally with opened := some (b.registry.erase id).size } }) := by
  obtain ⟨mark, hfind⟩ := Registry.exists_slot h
  simp [endWith, takeTransaction, hfind]

/-- Ends a numbered transaction and frees its number. -/
def endTransaction (id : Int) (ending : Ending) : BackendM Unit :=
  endWith id ending fun c => Store.close c ending

/-- Commits a numbered transaction. -/
def commitTransaction (id : Int) : BackendM Unit := endTransaction id .commit

/-- Aborts a numbered transaction. -/
def abortTransaction (id : Int) : BackendM Unit := endTransaction id .rollback

/-- Whether a number is in use. -/
def inProgress (b : Backend) (id : Int) : Bool := b.registry.contains id

/-! ## Transactions held by name -/

/-- Begins a transaction and holds it under a name; one that was held under it is rolled back. -/
def holdTransaction (name : String) : BackendM Unit := do
  let c ← onStore Store.begin
  if let some old := (← get).held.find? name then onStore (Store.giveBack old)
  modify fun b => { b with held := b.held.insert name c }

/-- Runs an action in a transaction held by name, if there is one. -/
def inHeld {α : Type} (name : String) (action : ConnectionM α) : BackendM (Option α) := do
  match (← get).held.find? name with
  | none => return none
  | some c =>
    let (outcome, c) ← onStore (Store.runOn c action)
    modify fun b => { b with held := b.held.insert name c }
    return some (← Action.ofExcept outcome)

/-- Runs a statement by name in a held transaction, and gives the number of rows that it changed. -/
def performHeld (held name : String) (args : Arguments) : BackendM (Option Nat) :=
  inHeld held (Work.performNamed name args)

/-- Runs a statement by name in a held transaction, and gives the raw columns of its rows. -/
def fetchHeld (held name : String) (args : Arguments) :
    BackendM (Option (List (List Value))) :=
  inHeld held (Work.fetchNamed name args)

/-- Ends a held transaction, if there is one; its name is free afterwards. -/
def endHeld (name : String) (ending : Ending) : BackendM (Option Unit) := do
  match (← get).held.find? name with
  | none => return none
  | some c =>
    modify fun b => { b with held := b.held.erase name }
    return some (← onStore (Store.close c ending))

/-- Lets go of a held transaction, if there is one, which rolls it back. -/
def dropHeld (name : String) : BackendM (Option Unit) := do
  match (← get).held.find? name with
  | none => return none
  | some c =>
    modify fun b => { b with held := b.held.erase name }
    return some (← onStore (Store.giveBack c))

end ZoneStore.Backend
