import ZoneStore.Domain.Soa

/-!
# Fields of texts

A separator parts the fields on its two sides (`Text.fields_append`), and that is all that is needed
of the recursion that cuts a text: the fields are the ones that the text consists of, with
separators between them (`Text.fields_eq_iff`). So the list of masters that was made of several
texts is split into their fields (`splitMasters_joinMasters`), and these are the texts exactly if
each of them is one field (`flatMap_splitMasters_eq_self_iff`).
-/

set_option autoImplicit false

namespace ZoneStore

namespace Text

variable {p : Char → Bool}

theorem cut_ne_nil (text : List Char) : cut p text ≠ [] := by
  cases text with
  | nil => exact List.cons_ne_nil _ _
  | cons c rest =>
    rw [cut]
    split
    · exact List.cons_ne_nil _ _
    · split <;> exact List.cons_ne_nil _ _

/-- A separator parts the pieces. -/
theorem cut_append {c : Char} (hc : p c = true) (front back : List Char) :
    cut p (front ++ c :: back) = cut p front ++ cut p back := by
  induction front with
  | nil =>
    show cut p (c :: back) = [] :: cut p back
    rw [cut, if_pos hc]
  | cons d front ih =>
    rw [List.cons_append, cut, ih, cut]
    by_cases hd : p d = true
    · rw [if_pos hd, if_pos hd]
      rfl
    · rw [if_neg hd, if_neg hd]
      obtain ⟨piece, pieces, hcut⟩ := List.exists_cons_of_ne_nil (cut_ne_nil (p := p) front)
      rw [hcut]
      rfl

/-- What has no separator is in one piece. -/
theorem cut_eq_singleton {text : List Char} (h : ∀ c ∈ text, p c = false) : cut p text = [text] := by
  induction text with
  | nil => rfl
  | cons c rest ih =>
    obtain ⟨hc, hrest⟩ := List.forall_mem_cons.1 h
    rw [cut, if_neg (Bool.eq_false_iff.1 hc), ih hrest]

/-- There is no separator in a piece. -/
theorem not_separator_of_mem_cut {text piece : List Char} (h : piece ∈ cut p text) :
    ∀ c ∈ piece, p c = false := by
  induction text generalizing piece with
  | nil =>
    obtain rfl := List.mem_singleton.1 h
    exact fun c hc => absurd hc List.not_mem_nil
  | cons d rest ih =>
    rw [cut] at h
    by_cases hd : p d = true
    · rw [if_pos hd] at h
      rcases List.mem_cons.1 h with rfl | h
      · exact fun c hc => absurd hc List.not_mem_nil
      · exact ih h
    · rw [if_neg hd] at h
      obtain ⟨first, others, hcut⟩ := List.exists_cons_of_ne_nil (cut_ne_nil (p := p) rest)
      rw [hcut] at h ih
      rcases List.mem_cons.1 h with rfl | h
      · exact List.forall_mem_cons.2 ⟨Bool.eq_false_iff.2 hd, ih List.mem_cons_self⟩
      · exact ih (List.mem_cons_of_mem _ h)

/-- The text is a field as a whole. -/
def IsField (p : Char → Bool) (text : String) : Prop :=
  text ≠ "" ∧ ∀ c ∈ text.toList, p c = false

theorem fields_append (front back : String) {c : Char} (hc : p c = true) :
    fields p (front ++ String.singleton c ++ back) = fields p front ++ fields p back := by
  rw [fields, String.toList_append, String.toList_append, String.toList_singleton,
    List.append_assoc, List.singleton_append, cut_append hc, List.filter_append, List.map_append]
  rfl

theorem fields_eq_singleton {text : String} (h : IsField p text) : fields p text = [text] := by
  have hne : text.toList ≠ [] := fun hnil => h.1 (String.toList_eq_nil_iff.1 hnil)
  rw [fields, cut_eq_singleton h.2, List.filter_cons_of_pos (by simpa using hne)]
  simp

theorem isField_of_mem_fields {text field : String} (h : field ∈ fields p text) :
    IsField p field := by
  obtain ⟨piece, hpiece, rfl⟩ := List.mem_map.1 h
  obtain ⟨hpiece, hne⟩ := List.mem_filter.1 hpiece
  refine ⟨fun hempty => ?_, ?_⟩
  · have hnil : piece = [] := by simpa using congrArg String.toList hempty
    rw [hnil] at hne
    cases hne
  · rw [String.toList_ofList]
    exact not_separator_of_mem_cut hpiece

/-! ## Texts that consist of fields -/

/-- The text ends, or goes on with a separator. -/
def IsParted (p : Char → Bool) (text : List Char) : Prop :=
  ∀ c rest, text = c :: rest → p c = true

/-- The text consists of the fields, one after the other, with separators between them and perhaps
in front of them and behind. -/
inductive SplitsInto (p : Char → Bool) : List Char → List String → Prop
  /-- There are separators only. -/
  | blank {gap : List Char} : (∀ c ∈ gap, p c = true) → SplitsInto p gap []
  /-- A field comes first, perhaps behind separators. -/
  | field {gap rest : List Char} {field : String} {fields : List String} :
      (∀ c ∈ gap, p c = true) → IsField p field → IsParted p rest → SplitsInto p rest fields →
      SplitsInto p (gap ++ (field.toList ++ rest)) (field :: fields)

theorem isParted_append {gap : List Char} (hne : gap ≠ []) (hgap : ∀ c ∈ gap, p c = true)
    (rest : List Char) : IsParted p (gap ++ rest) := by
  intro c after htext
  obtain ⟨d, others, rfl⟩ := List.exists_cons_of_ne_nil hne
  obtain ⟨rfl, -⟩ := List.cons.inj htext
  exact hgap d List.mem_cons_self

/-- Separators in front of a text add no field. -/
theorem fields_gap_append {gap : List Char} (hgap : ∀ c ∈ gap, p c = true) (text : List Char) :
    fields p (String.ofList (gap ++ text)) = fields p (String.ofList text) := by
  induction gap with
  | nil => rfl
  | cons c gap ih =>
    obtain ⟨hc, hgap⟩ := List.forall_mem_cons.1 hgap
    rw [← ih hgap]
    simp [fields, cut, hc]

/-- A field in front of a text comes first, if something parts them. -/
theorem fields_field_append {field : String} (hfield : IsField p field) {rest : List Char}
    (hrest : IsParted p rest) :
    fields p (String.ofList (field.toList ++ rest)) = field :: fields p (String.ofList rest) := by
  cases rest with
  | nil =>
    rw [List.append_nil, String.ofList_toList, fields_eq_singleton hfield]
    rfl
  | cons c rest =>
    have hc := hrest c rest rfl
    have htext : String.ofList (field.toList ++ c :: rest) =
        field ++ String.singleton c ++ String.ofList rest := by
      simp [← String.toList_inj]
    rw [htext, fields_append field (String.ofList rest) hc, fields_eq_singleton hfield,
      List.singleton_append]
    -- The separator alone is a gap in front of what follows.
    exact congrArg (field :: ·) (fields_gap_append (List.forall_mem_singleton.2 hc) rest).symm

theorem SplitsInto.fields_eq {text : List Char} {fs : List String} (h : SplitsInto p text fs) :
    fields p (String.ofList text) = fs := by
  induction h with
  | @blank gap hgap =>
    rw [← List.append_nil gap, fields_gap_append hgap]
    rfl
  | @field gap rest field fs hgap hfield hrest _ ih =>
    rw [fields_gap_append hgap, fields_field_append hfield hrest, ih]

/-- A field in front of what follows it. -/
theorem SplitsInto.cons_field {field : String} (hfield : IsField p field) {rest : List Char}
    (hrest : IsParted p rest) {fs : List String} (h : SplitsInto p rest fs) :
    SplitsInto p (field.toList ++ rest) (field :: fs) := by
  have hnone : ∀ c ∈ ([] : List Char), p c = true := fun c hc => absurd hc List.not_mem_nil
  exact SplitsInto.field hnone hfield hrest h

/-- A separator in front of a text makes the gap there longer. -/
theorem SplitsInto.cons_separator {c : Char} (hc : p c = true) {text : List Char} {fs : List String}
    (h : SplitsInto p text fs) : SplitsInto p (c :: text) fs := by
  cases h with
  | blank hgap => exact .blank (List.forall_mem_cons.2 ⟨hc, hgap⟩)
  | @field gap rest field fs hgap hfield hrest hsplits =>
    rw [← List.cons_append]
    exact .field (List.forall_mem_cons.2 ⟨hc, hgap⟩) hfield hrest hsplits

/-- Another character is a field if something parts it from the text, and otherwise makes the first
field of the text longer. -/
theorem SplitsInto.exists_cons {c : Char} (hc : p c = false) {text : List Char} {fs : List String}
    (h : SplitsInto p text fs) : ∃ fs', SplitsInto p (c :: text) fs' := by
  by_cases hparted : IsParted p text
  · have hfield : IsField p (String.ofList [c]) := ⟨by simp, by simpa using hc⟩
    have hsplits := h.cons_field hfield hparted
    rw [String.toList_ofList] at hsplits
    exact ⟨_, hsplits⟩
  · -- The text does not start with a separator, so it starts with a field.
    cases h with
    | blank hgap =>
      refine absurd ?_ hparted
      rintro d rest rfl
      exact hgap d List.mem_cons_self
    | @field gap rest field fs hgap hfield hrest hsplits =>
      cases gap with
      | cons d gap => exact absurd (isParted_append (List.cons_ne_nil d gap) hgap _) hparted
      | nil =>
        have hlonger : IsField p (String.ofList (c :: field.toList)) :=
          ⟨by simp, by simpa using ⟨hc, hfield.2⟩⟩
        have hsplits := hsplits.cons_field hlonger hrest
        rw [String.toList_ofList] at hsplits
        exact ⟨_, hsplits⟩

theorem exists_splitsInto (text : List Char) : ∃ fs, SplitsInto p text fs := by
  induction text with
  | nil => exact ⟨[], .blank fun c hc => absurd hc List.not_mem_nil⟩
  | cons c text ih =>
    obtain ⟨fs, hfs⟩ := ih
    by_cases hc : p c = true
    · exact ⟨fs, hfs.cons_separator hc⟩
    · exact hfs.exists_cons (Bool.eq_false_iff.2 hc)

/-- The fields of a text are the ones that it consists of. -/
theorem fields_eq_iff {text : String} {fs : List String} :
    fields p text = fs ↔ SplitsInto p text.toList fs := by
  constructor
  · rintro rfl
    obtain ⟨fs, hfs⟩ := exists_splitsInto (p := p) text.toList
    have heq := hfs.fields_eq
    rw [String.ofList_toList] at heq
    rwa [heq]
  · intro h
    rw [← h.fields_eq, String.ofList_toList]

end Text

/-! ## Masters -/

/-- The masters are stored as one list, which has the fields of all of them. -/
theorem splitMasters_joinMasters (masters : List String) :
    splitMasters (joinMasters masters) = masters.flatMap splitMasters := by
  induction masters with
  | nil => rfl
  | cons master rest ih =>
    rw [List.flatMap_cons, ← ih]
    cases rest with
    | nil => exact (List.append_nil _).symm
    | cons other rest =>
      have hblank : " " = String.singleton ' ' := by decide
      rw [joinMasters, String.intercalate_cons_cons, splitMasters, hblank,
        Text.fields_append master _ rfl]
      rfl

/-- Masters stay as they are exactly if none of them is empty or has a separator. -/
theorem flatMap_splitMasters_eq_self_iff {masters : List String} :
    masters.flatMap splitMasters = masters ↔
      ∀ master ∈ masters, Text.IsField separatesMasters master := by
  constructor
  · intro h master hmaster
    rw [← h] at hmaster
    obtain ⟨other, -, hfield⟩ := List.mem_flatMap.1 hmaster
    exact Text.isField_of_mem_fields hfield
  · intro h
    induction masters with
    | nil => rfl
    | cons master rest ih =>
      obtain ⟨hmaster, hrest⟩ := List.forall_mem_cons.1 h
      rw [List.flatMap_cons, ih hrest, splitMasters, Text.fields_eq_singleton hmaster]
      rfl

end ZoneStore
