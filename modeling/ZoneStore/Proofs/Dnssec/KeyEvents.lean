import Mathlib.Data.List.Basic
import ZoneStore.Backend.Operation

/-!
# Events of signing keys

The calls of a run that concern signing keys are a list of events (`KeyEvent`). A key is stored
after them if one of them added it to its domain and none since then removed it under the name of
the domain or deleted the domain; its marks are those that the last events since then set, and
otherwise those that it was added with (`KeyStored`). One more event adds a key, ends some and marks
others, each told by a name like that of its domain and by an id (`keyStored_concat`).
-/

set_option autoImplicit false

namespace ZoneStore

/-! ## Events -/

/-- The marks that a signing key may have. -/
inductive KeyMark where
  /-- The key signs. -/
  | active
  /-- The key is published. -/
  | published
deriving DecidableEq, Repr

/-- Whether a key has the mark. -/
def SigningKey.isMarked (key : SigningKey) : KeyMark → Bool
  | .active => key.active
  | .published => key.published

/-- The key with the mark set or taken away. -/
def SigningKey.marked (key : SigningKey) (mark : KeyMark) (value : Bool) : SigningKey :=
  match mark with
  | .active => { key with active := value }
  | .published => { key with published := value }

/-- What a call has done to signing keys. -/
inductive KeyEvent where
  /-- A key was added to the domain of a name, under an id. -/
  | added (name : String) (id : Int) (key : SigningKey)
  /-- The key of an id was removed from the domain of a name. -/
  | removed (name : String) (id : Int)
  /-- A mark was set or taken away of the key of an id in the domain of a name. -/
  | marked (mark : KeyMark) (name : String) (id : Int) (value : Bool)
  /-- The domain of a name was deleted. -/
  | deleted (name : String)

/-- The event that a call is with its outcome. A call that fails is none. -/
def Operation.keyEvent? : {α : Type} → Operation α → Except Fault α → Option KeyEvent
  | _, addDomainKey name key, .ok id => some (.added name id key)
  | _, removeDomainKey name id, .ok _ => some (.removed name id)
  | _, setDomainKeyActive name id active, .ok _ => some (.marked .active name id active)
  | _, setDomainKeyPublished name id published, .ok _ =>
    some (.marked .published name id published)
  | _, deleteDomain name, .ok _ => some (.deleted name)
  | _, _, _ => none

namespace KeyEvent

variable {name : String} {id : Int} {key old : SigningKey} {e : KeyEvent}

/-- Whether a key is the one that the name of a domain and an id lead to. -/
def isNamed (other : String) (id' : Int) (name : String) (id : Int) : Bool :=
  Text.alike other name && decide (id = id')

/-- Whether the event ended the key of an id in the domain of a name. -/
def ends (name : String) (id : Int) : KeyEvent → Bool
  | removed other id' => isNamed other id' name id
  | deleted other => Text.alike other name
  | _ => false

/-- What the event made of a mark of the key of an id in the domain of a name. -/
def mark? (mark : KeyMark) (name : String) (id : Int) : KeyEvent → Option Bool
  | marked mark' other id' value =>
    if mark' = mark ∧ isNamed other id' name id then some value else none
  | _ => none

/-- A key of the domain of a name as the event has marked it. -/
def apply (e : KeyEvent) (name : String) (key : SigningKey) : SigningKey :=
  { key with
    active := (e.mark? .active name key.id).getD key.active
    published := (e.mark? .published name key.id).getD key.published }

/-- The event added the key to the domain of the name. -/
def Adds (e : KeyEvent) (name : String) (key : SigningKey) : Prop :=
  ∃ other given, e = .added other key.id given ∧ Text.alike other name = true ∧
    key = { given with id := key.id }

/-- The keys of domains after the event, told by those before it: the key that it added, and those
that it did not end, as it marked them. -/
def Leaves (e : KeyEvent) (before : String → SigningKey → Prop) (name : String)
    (key : SigningKey) : Prop :=
  e.Adds name key ∨ ∃ old, before name old ∧ e.ends name old.id = false ∧ key = e.apply name old

@[simp] theorem id_apply : (e.apply name key).id = key.id := rfl

/-- An event that is no addition leaves only keys that were there. -/
theorem leaves_iff_of_not_adds {before : String → SigningKey → Prop}
    (h : ∀ other id given, e ≠ .added other id given) : e.Leaves before name key ↔
      ∃ old, before name old ∧ e.ends name old.id = false ∧ key = e.apply name old := by
  refine or_iff_right ?_
  rintro ⟨other, given, heq, -⟩
  exact h other key.id given heq

/-- A mark is changed of the key that is named. -/
theorem apply_marked (mark : KeyMark) (other : String) (id : Int) (value : Bool) :
    (marked mark other id value).apply name key =
      if isNamed other id name key.id then key.marked mark value else key := by
  by_cases hnamed : isNamed other id name key.id = true
  · rw [if_pos hnamed]
    cases mark <;> simp [apply, mark?, hnamed, SigningKey.marked]
  · rw [if_neg hnamed]
    cases mark <;> simp [apply, mark?, hnamed]

end KeyEvent

/-! ## Keys that events have left -/

/-- The key is as the events after its addition have left it. -/
structure KeySince (given : SigningKey) (later : List KeyEvent) (name : String)
    (key : SigningKey) : Prop where
  /-- It was neither removed nor deleted with its domain. -/
  kept : ∀ e ∈ later, e.ends name key.id = false
  /-- It has the flags that it was added with. -/
  flags : key.flags = given.flags
  /-- It has the material that it was added with. -/
  content : key.content = given.content
  /-- It has a mark if that was last set, or was there when it was added. -/
  marks : ∀ mark, key.isMarked mark =
    (later.filterMap (KeyEvent.mark? mark name key.id)).getLast?.getD (given.isMarked mark)

/-- The key was added to the domain of the name, and is as later events have left it. -/
def KeyStored (events : List KeyEvent) (name : String) (key : SigningKey) : Prop :=
  ∃ before other given later, events = before ++ .added other key.id given :: later ∧
    Text.alike other name = true ∧ KeySince given later name key

section Concat

variable {given key : SigningKey} {later events : List KeyEvent} {e : KeyEvent} {name : String}

/-- The last value of all is that of the last event, if it set one. -/
theorem getD_getLast?_filterMap_concat {ε α : Type} {events : List ε} {e : ε} {set? : ε → Option α}
    (first : α) : ((events ++ [e]).filterMap set?).getLast?.getD first =
      (set? e).getD ((events.filterMap set?).getLast?.getD first) := by
  rw [List.filterMap_append]
  cases hset : set? e with
  | none => simp [hset]
  | some value => simp [hset]

theorem keySince_nil : KeySince given [] name key ↔ key = { given with id := key.id } := by
  constructor
  · intro h
    have hactive : key.active = given.active := h.marks .active
    have hpublished : key.published = given.published := h.marks .published
    calc key = ⟨key.id, key.flags, key.active, key.published, key.content⟩ := rfl
      _ = { given with id := key.id } := by rw [h.flags, hactive, hpublished, h.content]
  · intro h
    rw [h]
    refine ⟨fun _ he => absurd he List.not_mem_nil, rfl, rfl, fun mark => ?_⟩
    cases mark <;> rfl

/-- One more event keeps the key unless it ends it, and may mark it. -/
theorem keySince_concat : KeySince given (later ++ [e]) name key ↔
    ∃ old, KeySince given later name old ∧ old.id = key.id ∧ e.ends name old.id = false ∧
      key = e.apply name old := by
  constructor
  · intro h
    -- Before the event the key had the marks that were last set until then.
    let before (mark : KeyMark) : Bool :=
      (later.filterMap (KeyEvent.mark? mark name key.id)).getLast?.getD (given.isMarked mark)
    let old : SigningKey :=
      { key with active := before .active, published := before .published }
    have hmark (mark : KeyMark) :
        key.isMarked mark = (e.mark? mark name key.id).getD (before mark) :=
      (h.marks mark).trans (getD_getLast?_filterMap_concat _)
    refine ⟨old, ⟨fun e' he => h.kept e' (List.mem_append_left _ he), h.flags, h.content, ?_⟩, rfl,
      h.kept e (List.mem_append_right _ (List.mem_singleton_self e)), ?_⟩
    · intro mark
      cases mark <;> rfl
    · calc key = ⟨key.id, key.flags, key.active, key.published, key.content⟩ := rfl
        _ = ⟨key.id, key.flags, (e.mark? .active name key.id).getD (before .active),
              (e.mark? .published name key.id).getD (before .published), key.content⟩ := by
            rw [← hmark .active, ← hmark .published]
            rfl
        _ = e.apply name old := rfl
  · rintro ⟨old, h, -, hends, rfl⟩
    refine ⟨?_, h.flags, h.content, fun mark => ?_⟩
    · intro e' he
      rcases List.mem_append.1 he with he | he
      · exact h.kept e' he
      · obtain rfl := List.mem_singleton.1 he
        exact hends
    · rw [getD_getLast?_filterMap_concat, KeyEvent.id_apply, ← h.marks mark]
      cases mark <;> rfl

theorem not_keyStored_nil : ¬ KeyStored [] name key := by
  rintro ⟨before, other, given, later, h, -⟩
  simp at h

/-- The keys after one more event are those that it leaves of the keys before. -/
theorem keyStored_concat :
    KeyStored (events ++ [e]) name key ↔ e.Leaves (KeyStored events) name key := by
  constructor
  · rintro ⟨before, other, given, later, hevents, hname, hsince⟩
    -- Either the last event is the addition itself, or it came later.
    rcases List.eq_nil_or_concat later with rfl | ⟨rest, last, rfl⟩
    · obtain ⟨-, hlast⟩ := List.append_inj' hevents rfl
      exact Or.inl ⟨other, given, List.head_eq_of_cons_eq hlast, hname, keySince_nil.1 hsince⟩
    · rw [List.concat_eq_append] at hevents hsince
      rw [← List.cons_append, ← List.append_assoc] at hevents
      obtain ⟨rfl, hlast⟩ := List.append_inj' hevents rfl
      obtain rfl := List.head_eq_of_cons_eq hlast
      obtain ⟨old, hold, hid, hends, hkey⟩ := keySince_concat.1 hsince
      exact Or.inr ⟨old, ⟨before, other, given, rest, by rw [hid], hname, hold⟩, hends, hkey⟩
  · rintro (⟨other, given, rfl, hname, hkey⟩ | ⟨old, hold, hends, rfl⟩)
    · exact ⟨events, other, given, [], rfl, hname, keySince_nil.2 hkey⟩
    · obtain ⟨before, other, given, later, rfl, hname, hsince⟩ := hold
      exact ⟨before, other, given, later ++ [e], by simp, hname,
        keySince_concat.2 ⟨old, hsince, rfl, hends, rfl⟩⟩

end Concat

end ZoneStore
