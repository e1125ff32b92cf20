import ZoneStore.Pattern.Glob

/-!
# Search patterns and like patterns match the same texts

`Glob.Matches` is the meaning of a search pattern and `Like.Matches` that of the items of a like
pattern, each a relation with one rule for every kind of character or item. The table of
`Like.suffixes` decides the second (`Like.matchesItems_iff`). The like pattern that is written for a
search pattern reads back as one item for each of its characters (`Glob.items_flatMap_likeOf`), so a
search pattern and its like pattern match the same texts, both as they are seen
(`Glob.matchesText_toLike`); verbatim texts are seen as they are (`Glob.matchesText_of_isVerbatim`).
-/

set_option autoImplicit false

namespace ZoneStore

namespace Like

/-! ## What is seen of a text -/

/-- The text has none of the characters that are not seen as they are. -/
def IsVerbatim (text : String) : Prop :=
  ∀ c ∈ text.toList, c ≠ '\x00' ∧ c ≠ '\uFFFE' ∧ c ≠ '\uFFFF'

instance (text : String) : Decidable (IsVerbatim text) := inferInstanceAs (Decidable (∀ _ ∈ _, _))

theorem seenAs_eq_self {c : Char} (hfirst : c ≠ '\uFFFE') (hsecond : c ≠ '\uFFFF') : seenAs c = c :=
  if_neg (not_or.2 ⟨hfirst, hsecond⟩)

/-- Behind a part without `U+0000` the rest is seen as well. -/
theorem seen_append {front : List Char} (h : '\x00' ∉ front) (rest : List Char) :
    seen (front ++ rest) = front.map seenAs ++ seen rest := by
  induction front with
  | nil => rfl
  | cons c front ih =>
    rw [List.mem_cons, not_or] at h
    have hstep : seen (c :: (front ++ rest)) = seenAs c :: seen (front ++ rest) := by
      rw [seen, Text.beforeNul, if_neg (Ne.symm h.1), List.map_cons, seen]
    rw [List.cons_append, hstep, ih h.2, List.map_cons, List.cons_append]

/-- A verbatim text is seen as it is. -/
theorem IsVerbatim.seen_eq {text : String} (h : IsVerbatim text) : seen text.toList = text.toList := by
  have hnul : '\x00' ∉ text.toList := fun hmem => (h _ hmem).1 rfl
  have hkept : ∀ c ∈ text.toList, seenAs c = c := fun c hc => seenAs_eq_self (h c hc).2.1 (h c hc).2.2
  rw [seen, Text.beforeNul_eq_self hnul, List.map_congr_left hkept, List.map_id']

/-! ## The meaning of items -/

/-- An escape character makes the next one stand for itself. -/
theorem items_escaped (escape d : Char) (after : List Char) :
    items (some escape) (escape :: d :: after) = .literal d :: items (some escape) after :=
  if_pos rfl

/-- Every other character is an item by itself. -/
theorem items_cons {escape : Option Char} {c : Char} (h : escape ≠ some c) (rest : List Char) :
    items escape (c :: rest) =
      (if c = '%' then .run else if c = '_' then .one else .literal c) :: items escape rest := by
  have hitems : items escape (c :: rest) =
      if c = '%' then .run :: items escape rest
      else if c = '_' then .one :: items escape rest
      else .literal c :: items escape rest := by
    cases rest with
    | nil => exact if_neg h
    | cons d after => exact if_neg h
  rw [hitems]
  split
  · rfl
  · split <;> rfl

/-- The items match the whole text. There is no rule for a dangling escape character. -/
inductive Matches : List Item → List Char → Prop where
  /-- No item is left, and no character. -/
  | nil : Matches [] []
  /-- A run takes any number of characters. -/
  | run {rest : List Item} {text : List Char} (taken : List Char) (h : Matches rest text) :
      Matches (.run :: rest) (taken ++ text)
  /-- Any one character. -/
  | one {rest : List Item} {text : List Char} (d : Char) (h : Matches rest text) :
      Matches (.one :: rest) (d :: text)
  /-- The given character, up to ASCII case. -/
  | literal {rest : List Item} {text : List Char} {c d : Char} (hcase : c.toLower = d.toLower)
      (h : Matches rest text) : Matches (.literal c :: rest) (d :: text)

variable {rest : List Item} {text : List Char}

theorem matches_nil_iff : Matches [] text ↔ text = [] := by
  constructor
  · intro h
    cases h
    rfl
  · rintro rfl
    exact .nil

theorem not_matches_one_nil : ¬ Matches (.one :: rest) [] := by
  intro h
  cases h

theorem matches_one_cons_iff {d : Char} :
    Matches (.one :: rest) (d :: text) ↔ Matches rest text := by
  constructor
  · intro h
    cases h with
    | one _ h => exact h
  · exact .one d

theorem not_matches_literal_nil {c : Char} : ¬ Matches (.literal c :: rest) [] := by
  intro h
  cases h

theorem matches_literal_cons_iff {c d : Char} :
    Matches (.literal c :: rest) (d :: text) ↔ c.toLower = d.toLower ∧ Matches rest text := by
  constructor
  · intro h
    cases h with
    | literal hcase h => exact ⟨hcase, h⟩
  · rintro ⟨hcase, h⟩
    exact .literal hcase h

theorem not_matches_dangling : ¬ Matches (.dangling :: rest) text := by
  intro h
  cases h

theorem matches_run_nil_iff : Matches (.run :: rest) [] ↔ Matches rest [] := by
  constructor
  · intro h
    generalize htext : ([] : List Char) = text at h
    cases h with
    | run taken h =>
      obtain ⟨rfl, rfl⟩ := List.append_eq_nil_iff.1 htext.symm
      exact h
  · exact .run []

/-- A run ends before the first character, or takes it and goes on. -/
theorem matches_run_cons_iff {d : Char} : Matches (.run :: rest) (d :: text) ↔
    Matches rest (d :: text) ∨ Matches (.run :: rest) text := by
  constructor
  · intro h
    generalize htext : d :: text = whole at h
    cases h with
    | run taken h =>
      cases taken with
      | nil => exact Or.inl h
      | cons e taken =>
        obtain ⟨-, rfl⟩ := List.cons.inj htext
        exact Or.inr (.run taken h)
  · rintro (h | h)
    · exact .run [] h
    · cases h with
      | run taken h => exact .run (d :: taken) h

/-! ## The table decides the meaning -/

@[simp] theorem suffixes_nil (text : List Char) :
    suffixes [] text = text.map (fun _ => false) ++ [true] :=
  rfl

@[simp] theorem suffixes_run (rest : List Item) (text : List Char) : suffixes (.run :: rest) text =
    (suffixes rest text).foldr (fun hit tail => (hit || tail.headD false) :: tail) [] :=
  rfl

@[simp] theorem suffixes_one (rest : List Item) (text : List Char) :
    suffixes (.one :: rest) text = (suffixes rest text).tail ++ [false] :=
  rfl

@[simp] theorem suffixes_literal (c : Char) (rest : List Item) (text : List Char) :
    suffixes (.literal c :: rest) text =
      List.zipWith (fun d hit => sameLetter c d && hit) text (suffixes rest text).tail ++ [false] :=
  rfl

@[simp] theorem suffixes_dangling (rest : List Item) (text : List Char) :
    suffixes (.dangling :: rest) text = text.map (fun _ => false) ++ [false] :=
  rfl

/-- The table has an entry for every suffix of the text. -/
theorem length_suffixes (pattern : List Item) (text : List Char) :
    (suffixes pattern text).length = text.length + 1 := by
  have length_run (l : List Bool) :
      (l.foldr (fun hit tail => (hit || tail.headD false) :: tail) []).length = l.length := by
    induction l with
    | nil => rfl
    | cons hit l ih => simp only [List.foldr_cons, List.length_cons, ih]
  induction pattern with
  | nil => simp
  | cons item rest ih =>
    cases item with
    | run => rw [suffixes_run, length_run, ih]
    | one => simp [ih]
    | literal c => simp [ih]
    | dangling => simp

/-- The first entry of the table is the answer for the whole text. -/
theorem suffixes_eq_cons (pattern : List Item) (text : List Char) :
    suffixes pattern text = matchesItems pattern text :: (suffixes pattern text).tail := by
  have hlength := length_suffixes pattern text
  unfold matchesItems
  cases hsuffixes : suffixes pattern text with
  | nil => simp [hsuffixes] at hlength
  | cons hit tail => rfl

/-- Below its first entry the table is that of the text without its first character. -/
theorem tail_suffixes_cons (pattern : List Item) (d : Char) (text : List Char) :
    (suffixes pattern (d :: text)).tail = suffixes pattern text := by
  induction pattern generalizing d text with
  | nil => rfl
  | cons item rest ih =>
    -- The table of the rest, which the one of the item is made from.
    have hrest : suffixes rest (d :: text) =
        matchesItems rest (d :: text) :: suffixes rest text := by
      rw [suffixes_eq_cons, ih]
    cases item with
    | run => simp only [suffixes_run, hrest, List.foldr_cons, List.tail_cons]
    | one =>
      simp only [suffixes_one, hrest, List.tail_cons]
      rw [suffixes_eq_cons rest text]
      rfl
    | literal c =>
      simp only [suffixes_literal, hrest, List.tail_cons]
      rw [suffixes_eq_cons rest text]
      rfl
    | dangling => rfl

theorem matchesItems_nil (text : List Char) : matchesItems [] text = text.isEmpty := by
  cases text <;> rfl

theorem matchesItems_run_nil (rest : List Item) :
    matchesItems (.run :: rest) [] = matchesItems rest [] := by
  have hlength := length_suffixes rest []
  obtain ⟨hit, htable⟩ := List.length_eq_one_iff.1 hlength
  simp [matchesItems, htable]

theorem matchesItems_run_cons (rest : List Item) (d : Char) (text : List Char) :
    matchesItems (.run :: rest) (d :: text) =
      (matchesItems rest (d :: text) || matchesItems (.run :: rest) text) := by
  have hrest := suffixes_eq_cons rest (d :: text)
  rw [tail_suffixes_cons] at hrest
  rw [matchesItems, suffixes_run, hrest]
  rfl

theorem matchesItems_one_nil (rest : List Item) : matchesItems (.one :: rest) [] = false := by
  have hlength := length_suffixes rest []
  obtain ⟨hit, htable⟩ := List.length_eq_one_iff.1 hlength
  simp [matchesItems, htable]

theorem matchesItems_one_cons (rest : List Item) (d : Char) (text : List Char) :
    matchesItems (.one :: rest) (d :: text) = matchesItems rest text := by
  rw [matchesItems, suffixes_one, tail_suffixes_cons, suffixes_eq_cons]
  rfl

theorem matchesItems_literal_cons (c : Char) (rest : List Item) (d : Char) (text : List Char) :
    matchesItems (.literal c :: rest) (d :: text) =
      (sameLetter c d && matchesItems rest text) := by
  rw [matchesItems, suffixes_literal, tail_suffixes_cons, suffixes_eq_cons]
  rfl

/-- The table decides whether the items match. -/
theorem matchesItems_iff {pattern : List Item} {text : List Char} :
    matchesItems pattern text = true ↔ Matches pattern text := by
  induction pattern generalizing text with
  | nil => rw [matchesItems_nil, matches_nil_iff, List.isEmpty_iff]
  | cons item rest ih =>
    cases item with
    | run =>
      -- A run may take any suffix, so the text is taken apart as well.
      induction text with
      | nil => rw [matchesItems_run_nil, ih, matches_run_nil_iff]
      | cons d text ihtext =>
        rw [matchesItems_run_cons, Bool.or_eq_true, ih, ihtext]
        exact matches_run_cons_iff.symm
    | one =>
      cases text with
      | nil => simp [matchesItems_one_nil, not_matches_one_nil]
      | cons d text => rw [matchesItems_one_cons, ih, matches_one_cons_iff]
    | literal c =>
      cases text with
      | nil => simp [matchesItems, not_matches_literal_nil]
      | cons d text =>
        rw [matchesItems_literal_cons, Bool.and_eq_true, ih, matches_literal_cons_iff, sameLetter,
          beq_iff_eq]
    | dangling =>
      have hnone : matchesItems (.dangling :: rest) text = false := by
        cases text <;> rfl
      simp [hnone, not_matches_dangling]

end Like

/-! ## Search patterns -/

namespace Glob

/-- The search pattern matches the whole text. -/
inductive Matches : List Char → List Char → Prop where
  /-- No character is left on either side. -/
  | nil : Matches [] []
  /-- A star takes any run of characters. -/
  | run {rest text : List Char} (taken : List Char) (h : Matches rest text) :
      Matches ('*' :: rest) (taken ++ text)
  /-- A question mark takes any one character. -/
  | one {rest text : List Char} (d : Char) (h : Matches rest text) :
      Matches ('?' :: rest) (d :: text)
  /-- Every other character takes itself, up to ASCII case. -/
  | literal {rest text : List Char} {c d : Char} (hrun : c ≠ '*') (hone : c ≠ '?')
      (hcase : c.toLower = d.toLower) (h : Matches rest text) : Matches (c :: rest) (d :: text)

/-! ## The items of a like pattern -/

/-- What one character of a search pattern stands for. -/
def itemOf (c : Char) : Like.Item :=
  if c = '*' then .run else if c = '?' then .one else .literal c

/-- The like pattern of a search pattern reads back as one item for each character. -/
theorem items_flatMap_likeOf (pattern : List Char) :
    Like.items (some '\\') (pattern.flatMap likeOf) = pattern.map itemOf := by
  induction pattern with
  | nil => rfl
  | cons c rest ih =>
    rw [List.flatMap_cons, List.map_cons, ← ih]
    rw [likeOf, itemOf]
    by_cases hrun : c = '*'
    · rw [if_pos hrun, if_pos hrun]
      exact Like.items_cons (by decide) _
    · rw [if_neg hrun, if_neg hrun]
      by_cases hone : c = '?'
      · rw [if_pos hone, if_pos hone]
        exact Like.items_cons (by decide) _
      · rw [if_neg hone, if_neg hone]
        by_cases hescaped : c = '\\' ∨ c = '%' ∨ c = '_'
        · rw [if_pos hescaped]
          exact Like.items_escaped '\\' c _
        · -- A character that is not escaped has no meaning in a like pattern.
          simp only [not_or] at hescaped
          obtain ⟨hescape, hpercent, hunderscore⟩ := hescaped
          have hplain : some '\\' ≠ some c := fun h => hescape (Option.some.inj h).symm
          rw [if_neg (by simp [hescape, hpercent, hunderscore])]
          refine (Like.items_cons hplain _).trans ?_
          rw [if_neg hpercent, if_neg hunderscore]
          rfl

/-- Item by item, the like pattern means what the search pattern means. -/
theorem matches_map_itemOf {pattern text : List Char} :
    Like.Matches (pattern.map itemOf) text ↔ Matches pattern text := by
  constructor
  · intro h
    induction pattern generalizing text with
    | nil =>
      rw [Like.matches_nil_iff.1 h]
      exact .nil
    | cons c rest ih =>
      rw [List.map_cons] at h
      by_cases hrun : c = '*'
      · rw [itemOf, if_pos hrun] at h
        cases h with
        | run taken h => exact hrun ▸ .run taken (ih h)
      · rw [itemOf, if_neg hrun] at h
        by_cases hone : c = '?'
        · rw [if_pos hone] at h
          cases h with
          | one d h => exact hone ▸ .one d (ih h)
        · rw [if_neg hone] at h
          cases h with
          | literal hcase h => exact .literal hrun hone hcase (ih h)
  · intro h
    induction h with
    | nil => exact .nil
    | run taken _ ih => exact .run taken ih
    | one d _ ih => exact .one d ih
    | literal hrun hone hcase _ ih =>
      rw [List.map_cons, itemOf, if_neg hrun, if_neg hone]
      exact .literal hcase ih

/-- The like pattern of one character has no `U+0000` in it, unless it is that of `U+0000`. -/
theorem nul_not_mem_likeOf {c : Char} (hc : c ≠ '\x00') : '\x00' ∉ likeOf c := by
  unfold likeOf
  split
  · decide
  · split
    · decide
    · split <;> simp [Ne.symm hc]

/-- Characters that are not seen as they are have no meaning in patterns. -/
theorem map_seenAs_likeOf (c : Char) : (likeOf c).map Like.seenAs = likeOf (Like.seenAs c) := by
  by_cases hseen : c = '\uFFFE' ∨ c = '\uFFFF'
  · obtain rfl | rfl := hseen <;> decide
  · have hself : Like.seenAs c = c := if_neg hseen
    rw [hself]
    unfold likeOf
    split
    · decide
    · split
      · decide
      · split
        · rw [List.map_cons, List.map_singleton, hself]
          rfl
        · rw [List.map_singleton, hself]

/-- What is seen of the like pattern is the like pattern of what is seen. -/
theorem seen_flatMap_likeOf (pattern : List Char) :
    Like.seen (pattern.flatMap likeOf) = (Like.seen pattern).flatMap likeOf := by
  induction pattern with
  | nil => rfl
  | cons c rest ih =>
    by_cases hc : c = '\x00'
    · rw [hc]
      rfl
    · have hstep : Like.seen (c :: rest) = Like.seenAs c :: Like.seen rest :=
        Like.seen_append (show '\x00' ∉ [c] from by simpa using Ne.symm hc) rest
      rw [List.flatMap_cons, Like.seen_append (nul_not_mem_likeOf hc), ih, map_seenAs_likeOf, hstep,
        List.flatMap_cons]

theorem matchesItems_map_itemOf {pattern text : List Char} :
    Like.matchesItems (pattern.map itemOf) text = true ↔ Matches pattern text :=
  Like.matchesItems_iff.trans matches_map_itemOf

instance (pattern text : List Char) : Decidable (Matches pattern text) :=
  decidable_of_iff _ matchesItems_map_itemOf

/-- A like pattern that is written for a search pattern, with the backslash as escape character,
matches the texts that the search pattern matches, both as they are seen. -/
theorem matchesText_toLike (pattern text : String) :
    Like.matchesText (some '\\') (toLike pattern) text = true ↔
      Matches (Like.seen pattern.toList) (Like.seen text.toList) := by
  rw [Like.matchesText, toLike, String.toList_ofList, seen_flatMap_likeOf, items_flatMap_likeOf,
    matchesItems_map_itemOf]

/-- For verbatim texts, it matches those that the search pattern matches. -/
theorem matchesText_of_isVerbatim {pattern text : String} (hpattern : Like.IsVerbatim pattern)
    (htext : Like.IsVerbatim text) :
    Like.matchesText (some '\\') (toLike pattern) text = true ↔
      Matches pattern.toList text.toList := by
  rw [matchesText_toLike, hpattern.seen_eq, htext.seen_eq]

end Glob

end ZoneStore
