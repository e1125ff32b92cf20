import ZoneStore.Fault

/-!
# Actions that keep the state they have reached

An `Action σ α` takes a state and gives an outcome together with the next state. It may fail, and it
leaves a state even then: what was done before the fault stays done. Actions are written in
`do` notation; the lemmas below say what each step does to the outcome and the state.
-/

set_option autoImplicit false

namespace ZoneStore

/-- An action on states of type `σ` with results of type `α`. -/
structure Action (σ α : Type) where
  /-- The outcome and the next state. -/
  run : σ → Except Fault α × σ

namespace Action

variable {σ α β : Type}

/-- The action that changes nothing and gives a value. -/
def value (a : α) : Action σ α := ⟨fun s => (.ok a, s)⟩

/-- The action that changes nothing and fails. -/
def fail (fault : Fault) : Action σ α := ⟨fun s => (.error fault, s)⟩

/-- Runs one action and then, if it succeeds, the one that its result gives. -/
def andThen (x : Action σ α) (f : α → Action σ β) : Action σ β :=
  ⟨fun s => match x.run s with
    | (.ok a, t) => (f a).run t
    | (.error fault, t) => (.error fault, t)⟩

/-- Runs one action and then, if it fails, the one that its fault gives. -/
def orElse (x : Action σ α) (f : Fault → Action σ α) : Action σ α :=
  ⟨fun s => match x.run s with
    | (.ok a, t) => (.ok a, t)
    | (.error fault, t) => (f fault).run t⟩

instance : Monad (Action σ) where
  pure := value
  bind := andThen

instance : MonadStateOf σ (Action σ) where
  get := ⟨fun s => (.ok s, s)⟩
  set s := ⟨fun _ => (.ok (), s)⟩
  modifyGet f := ⟨fun s => let (a, t) := f s; (.ok a, t)⟩

instance : MonadExceptOf Fault (Action σ) where
  throw := fail
  tryCatch := orElse

/-- Gives the value of an outcome, or fails with its fault. -/
def ofExcept : Except Fault α → Action σ α
  | .ok a => value a
  | .error fault => fail fault

/-- Gives the value of an outcome of the database, or fails with its fault. -/
def ofDatabase (outcome : Except DatabaseFault α) : Action σ α :=
  ofExcept (outcome.mapError .database)

/-- Gives the outcome of an action as a value, so that the rest goes on after a fault. -/
def attempt (x : Action σ α) : Action σ (Except Fault α) :=
  ⟨fun s => let (outcome, t) := x.run s; (.ok outcome, t)⟩

@[simp] theorem run_pure (a : α) (s : σ) : (pure a : Action σ α).run s = (.ok a, s) := rfl

@[simp] theorem run_bind (x : Action σ α) (f : α → Action σ β) (s : σ) :
    (x >>= f).run s = match x.run s with
      | (.ok a, t) => (f a).run t
      | (.error fault, t) => (.error fault, t) := rfl

@[simp] theorem run_map (f : α → β) (x : Action σ α) (s : σ) :
    (f <$> x).run s = match x.run s with
      | (.ok a, t) => (.ok (f a), t)
      | (.error fault, t) => (.error fault, t) := rfl

@[simp] theorem run_get (s : σ) : (get : Action σ σ).run s = (.ok s, s) := rfl

@[simp] theorem run_set (t s : σ) : (set t : Action σ Unit).run s = (.ok (), t) := rfl

@[simp] theorem run_modify (f : σ → σ) (s : σ) : (modify f : Action σ Unit).run s = (.ok (), f s) :=
  rfl

@[simp] theorem run_throw (fault : Fault) (s : σ) :
    (throw fault : Action σ α).run s = (.error fault, s) := rfl

@[simp] theorem run_ofExcept (outcome : Except Fault α) (s : σ) :
    (ofExcept outcome).run s = (outcome, s) := by
  cases outcome <;> rfl

@[simp] theorem run_ofDatabase (outcome : Except DatabaseFault α) (s : σ) :
    (ofDatabase outcome).run s = (outcome.mapError .database, s) :=
  run_ofExcept _ _

@[simp] theorem run_attempt (x : Action σ α) (s : σ) :
    (attempt x).run s = (.ok (x.run s).1, (x.run s).2) := rfl

/-- Two actions are equal if they give the same outcome and leave the same state everywhere. -/
@[ext] theorem ext {x y : Action σ α} (h : ∀ s, x.run s = y.run s) : x = y := by
  cases x
  cases y
  congr
  exact funext h

/-- Mapping the identity over an action changes nothing. -/
theorem map_id (x : Action σ α) : id <$> x = x := by
  refine Action.ext fun s => ?_
  rw [run_map]
  rcases x.run s with ⟨outcome, t⟩
  cases outcome <;> rfl

/-- A sequence of three actions may be grouped either way. -/
theorem bind_assoc {γ : Type} (x : Action σ α) (f : α → Action σ β) (g : β → Action σ γ) :
    x >>= f >>= g = x >>= fun a => f a >>= g := by
  refine Action.ext fun s => ?_
  simp only [run_bind]
  rcases x.run s with ⟨outcome, t⟩
  cases outcome <;> rfl

instance : LawfulMonad (Action σ) := .mk' _ map_id (fun _ _ => rfl) bind_assoc

end Action

end ZoneStore
