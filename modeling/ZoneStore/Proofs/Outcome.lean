import Mathlib.Data.List.Forall2

/-!
# Outcomes

What the outcome of a composed computation says about its parts. A list that is mapped as a whole
is related to its result element by element (`mapM_eq_ok_iff`), so the first section is about lists
that are related in this way.
-/

set_option autoImplicit false

namespace ZoneStore

/-! ## Lists that are related element by element -/

section Lists

variable {α β : Type} {R : α → β → Prop} {as : List α} {bs : List β}

theorem exists_of_mem_left (h : List.Forall₂ R as bs) {a : α} (ha : a ∈ as) : ∃ b ∈ bs, R a b := by
  induction h with
  | nil => cases ha
  | cons hab _ ih =>
    rcases List.mem_cons.1 ha with rfl | ha
    · exact ⟨_, List.mem_cons_self, hab⟩
    · obtain ⟨b, hb, hab⟩ := ih ha
      exact ⟨b, List.mem_cons_of_mem _ hb, hab⟩

theorem exists_of_mem_right (h : List.Forall₂ R as bs) {b : β} (hb : b ∈ bs) : ∃ a ∈ as, R a b :=
  exists_of_mem_left h.flip hb

/-- A list that is related to a composed one is composed in the same place. -/
theorem exists_of_append {front back : List β} (h : List.Forall₂ R as (front ++ back)) :
    ∃ before after, as = before ++ after ∧ List.Forall₂ R before front ∧
      List.Forall₂ R after back := by
  refine ⟨as.take front.length, as.drop front.length, ?_, ?_, ?_⟩
  · rw [List.take_append_drop]
  · exact List.forall₂_take_append as front back h
  · exact List.forall₂_drop_append as front back h

theorem exists_of_append_cons {front back : List β} {b : β}
    (h : List.Forall₂ R as (front ++ b :: back)) :
    ∃ before a after, as = before ++ a :: after ∧
      List.Forall₂ R before front ∧ R a b ∧ List.Forall₂ R after back := by
  obtain ⟨before, rest, rfl, hbefore, hrest⟩ := exists_of_append h
  obtain ⟨a, after, hab, hafter, rfl⟩ := List.forall₂_cons_right_iff.1 hrest
  exact ⟨before, a, after, rfl, hbefore, hab, hafter⟩

/-- Two lists have the same image exactly if their elements have, one by one. -/
theorem map_eq_map_iff_forall₂ {γ : Type} {f : α → γ} {g : β → γ} :
    as.map f = bs.map g ↔ List.Forall₂ (fun a b => f a = g b) as bs := by
  rw [← List.forall₂_eq_eq_eq, List.forall₂_map_left_iff, List.forall₂_map_right_iff]

end Lists

/-! ## Computations -/

variable {ε α β : Type}

/-- A mapped outcome is a success exactly when the outcome is one, with a value that is mapped. -/
theorem map_eq_ok_iff {f : α → β} {x : Except ε α} {b : β} :
    f <$> x = .ok b ↔ ∃ a, x = .ok a ∧ f a = b := by
  cases x with
  | error e => simp [Functor.map, Except.map]
  | ok a => simp [Functor.map, Except.map]

/-- Two outcomes in sequence are a success exactly when both of them are. -/
theorem bind_eq_ok_iff {x : Except ε α} {f : α → Except ε β} {b : β} :
    x >>= f = .ok b ↔ ∃ a, x = .ok a ∧ f a = .ok b := by
  cases x with
  | error e => simp [bind, Except.bind]
  | ok a => simp [bind, Except.bind]

theorem mapError_eq_ok_iff {ε' : Type} {f : ε → ε'} {x : Except ε α} {a : α} :
    x.mapError f = .ok a ↔ x = .ok a := by
  cases x <;> simp [Except.mapError]

/-- A list is mapped as a whole exactly when each of its elements is. -/
theorem mapM_eq_ok_iff {f : α → Except ε β} {as : List α} {bs : List β} :
    as.mapM f = .ok bs ↔ List.Forall₂ (fun a b => f a = .ok b) as bs := by
  induction as generalizing bs with
  | nil =>
    rw [List.mapM_nil, List.forall₂_nil_left_iff]
    exact ⟨fun h => (Except.ok.inj h).symm, fun h => h ▸ rfl⟩
  | cons a rest ih =>
    rw [List.mapM_cons, bind_eq_ok_iff, List.forall₂_cons_left_iff]
    constructor
    · rintro ⟨b, hb, h⟩
      obtain ⟨bs, hbs, h⟩ := bind_eq_ok_iff.1 h
      exact ⟨b, bs, hb, ih.1 hbs, (Except.ok.inj h).symm⟩
    · rintro ⟨b, bs, hb, hbs, rfl⟩
      exact ⟨b, hb, bind_eq_ok_iff.2 ⟨bs, ih.2 hbs, rfl⟩⟩

/-- So its result is determined by its elements. -/
theorem eq_of_forall₂_ok {f : α → Except ε β} {as : List α} {bs bs' : List β}
    (h : List.Forall₂ (fun a b => f a = .ok b) as bs)
    (h' : List.Forall₂ (fun a b => f a = .ok b) as bs') : bs = bs' :=
  Except.ok.inj ((mapM_eq_ok_iff.2 h).symm.trans (mapM_eq_ok_iff.2 h'))

/-- Otherwise the first element that cannot be mapped is reported. -/
theorem mapM_eq_error_iff {f : α → Except ε β} {as : List α} {e : ε} :
    as.mapM f = .error e ↔
      ∃ front a back, as = front ++ a :: back ∧ (∀ b ∈ front, ∃ c, f b = .ok c) ∧
        f a = .error e := by
  induction as with
  | nil =>
    rw [List.mapM_nil]
    constructor
    · intro h
      cases h
    · rintro ⟨front, a, back, h, -⟩
      simp at h
  | cons x rest ih =>
    rw [List.mapM_cons]
    cases hx : f x with
    | error fault =>
      constructor
      · intro h
        cases h
        exact ⟨[], x, rest, rfl, by simp, hx⟩
      · rintro ⟨front, a, back, h, hfront, ha⟩
        cases front with
        | nil =>
          obtain ⟨rfl, -⟩ := List.cons.inj h
          obtain rfl := Except.error.inj (hx.symm.trans ha)
          rfl
        | cons b front =>
          -- The first element fails, so it is not one of those in front.
          obtain ⟨rfl, -⟩ := List.cons.inj h
          obtain ⟨c, hc⟩ := hfront x List.mem_cons_self
          rw [hx] at hc
          cases hc
    | ok y =>
      have hrest : (Except.ok y >>= fun b => do
          let bs ← rest.mapM f
          pure (b :: bs)) = .error e ↔ rest.mapM f = .error e := by
        cases rest.mapM f with
        | error fault => exact Iff.rfl
        | ok bs => simp [bind, Except.bind, pure, Except.pure]
      rw [hrest, ih]
      constructor
      · rintro ⟨front, a, back, rfl, hfront, ha⟩
        refine ⟨x :: front, a, back, rfl, ?_, ha⟩
        intro b hb
        rcases List.mem_cons.1 hb with rfl | hb
        · exact ⟨y, hx⟩
        · exact hfront b hb
      · rintro ⟨front, a, back, h, hfront, ha⟩
        cases front with
        | nil =>
          obtain ⟨rfl, -⟩ := List.cons.inj h
          rw [hx] at ha
          cases ha
        | cons b front =>
          obtain ⟨-, rfl⟩ := List.cons.inj h
          exact ⟨front, a, back, rfl, fun b hb => hfront b (List.mem_cons_of_mem _ hb), ha⟩

/-- A list is mapped as a whole if each of its elements can be. -/
theorem mapM_succeeds_iff {f : α → Except ε β} {as : List α} :
    (∃ bs, as.mapM f = .ok bs) ↔ ∀ a ∈ as, ∃ b, f a = .ok b := by
  constructor
  · rintro ⟨bs, hbs⟩ a ha
    obtain ⟨b, -, hb⟩ := exists_of_mem_left (mapM_eq_ok_iff.1 hbs) ha
    exact ⟨b, hb⟩
  · intro h
    cases hmap : as.mapM f with
    | ok bs => exact ⟨bs, rfl⟩
    | error e =>
      obtain ⟨front, a, back, rfl, -, ha⟩ := mapM_eq_error_iff.1 hmap
      obtain ⟨b, hb⟩ := h a (List.mem_append_right front List.mem_cons_self)
      rw [ha] at hb
      cases hb

/-- A condition that can be checked on each element keeps those that satisfy it. -/
theorem filterM_eq_ok {f : α → Except ε Bool} {p : α → Bool} {as : List α}
    (h : ∀ a ∈ as, f a = .ok (p a)) : as.filterM f = .ok (as.filter p) := by
  -- What was kept so far is held in reverse.
  have aux (rest : List α) (hrest : rest ⊆ as) (kept : List α) :
      rest.filterAuxM f kept = .ok ((rest.filter p).reverse ++ kept) := by
    induction rest generalizing kept with
    | nil => rfl
    | cons a rest ih =>
      obtain ⟨ha, hrest⟩ := List.cons_subset.1 hrest
      rw [List.filterAuxM, h a ha]
      refine (ih hrest _).trans ?_
      cases hp : p a <;> simp [hp]
  rw [List.filterM, aux as (List.Subset.refl as) []]
  simp [bind, Except.bind, pure, Except.pure]

/-- A condition that cannot be checked on some element fails, if it does so in one way only. -/
theorem filterM_eq_error {f : α → Except ε Bool} {e : ε} {as : List α}
    (h : ∀ a ∈ as, f a = .ok true ∨ f a = .error e) (hfails : ∃ a ∈ as, f a = .error e) :
    as.filterM f = .error e := by
  have aux (rest : List α) (hrest : rest ⊆ as) (hfails : ∃ a ∈ rest, f a = .error e)
      (kept : List α) : rest.filterAuxM f kept = .error e := by
    induction rest generalizing kept with
    | nil =>
      obtain ⟨a, ha, -⟩ := hfails
      cases ha
    | cons a rest ih =>
      obtain ⟨hmem, hrest⟩ := List.cons_subset.1 hrest
      rw [List.filterAuxM]
      rcases h a hmem with ha | ha
      · obtain ⟨b, hb, hfail⟩ := hfails
        rcases List.mem_cons.1 hb with rfl | hb
        · rw [ha] at hfail
          cases hfail
        · rw [ha]
          exact ih hrest ⟨b, hb, hfail⟩ _
      · rw [ha]
        rfl
  rw [List.filterM, aux as (List.Subset.refl as) hfails []]
  rfl

end ZoneStore
