import Mathlib.Algebra.Group.Int.Defs
import ZoneStore.Text.Decimal

/-!
# Numerals

A numeral is an optional sign and one or more ASCII digits (`Denotes`). A text is read as an integer
of a range exactly if it is a numeral that denotes one (`read_eq_ok_iff`); an overflow is reported
exactly if a run of digits behind the sign leaves the range before another character is met
(`read_eq_overflow_iff`), and otherwise the fault is an invalid digit (`read_cases`).

The reader goes through the digits from the left with the value of those that it has taken up. Since
no digit brings that value nearer to zero, a value out of the range stays out of it, which is why
the first digit that takes it there decides. In words of 64 bits the same is done by a product and a
sum or a difference for each digit, where an overflow is refused (`readWords`). The outcome is the
same (`map_toInt_readWords`), and each word on the way is the number that the digits so far denote
(`toInt_of_accumulateWords`), so no overflow is passed over.
-/

set_option autoImplicit false

namespace ZoneStore.Text.Decimal

/-! ## Numerals -/

/-- Every character is an ASCII digit. -/
def IsDigits (text : List Char) : Prop := ∀ c ∈ text, '0' ≤ c ∧ c ≤ '9'

/-- The text is an optional sign, which may be a minus, and what stands behind it. -/
inductive Signs : List Char → Bool → List Char → Prop
  /-- There is no sign. -/
  | none (rest : List Char) : Signs rest false rest
  /-- There is a plus sign. -/
  | plus (rest : List Char) : Signs ('+' :: rest) false rest
  /-- There is a minus sign. -/
  | minus (rest : List Char) : Signs ('-' :: rest) true rest

/-- A number with its sign. -/
def signed (negative : Bool) (m : Nat) : Int := if negative then -(m : Int) else m

/-- The text is an optional sign and one or more digits, which denote the integer. -/
def Denotes (text : String) (n : Int) : Prop :=
  ∃ negative digits, Signs text.toList negative digits ∧ digits ≠ [] ∧ IsDigits digits ∧
    n = signed negative (Nat.ofDigitChars 10 digits 0)

/-- Behind the sign of the text, a run of digits leaves the range before any other character. -/
def Leaves (range : IntegerRange) (text : String) (negative : Bool) : Prop :=
  ∃ digits rest, Signs text.toList negative (digits ++ rest) ∧ IsDigits digits ∧
    range.contains (signed negative (Nat.ofDigitChars 10 digits 0)) = false

@[simp] theorem signed_false (m : Nat) : signed false m = m := rfl

@[simp] theorem signed_true (m : Nat) : signed true m = -(m : Int) := rfl

theorem isDigit_iff {c : Char} : c.isDigit = true ↔ '0' ≤ c ∧ c ≤ '9' := by
  have hdigit : c.isDigit = (decide ('0' ≤ c) && decide (c ≤ '9')) := rfl
  rw [hdigit, Bool.and_eq_true, decide_eq_true_iff, decide_eq_true_iff]

theorem isDigits_cons {c : Char} {rest : List Char} :
    IsDigits (c :: rest) ↔ c.isDigit = true ∧ IsDigits rest := by
  rw [isDigit_iff]
  exact List.forall_mem_cons

/-! ## Growing values -/

/-- More digits make no smaller number. -/
theorem le_ofDigitChars (digits : List Char) (m : Nat) : m ≤ Nat.ofDigitChars 10 digits m := by
  induction digits generalizing m with
  | nil => simp
  | cons c rest ih =>
    rw [Nat.ofDigitChars_cons]
    have hrest := ih (10 * m + (c.toNat - '0'.toNat))
    omega

theorem contains_signed_zero {range : IntegerRange} (hzero : range.contains 0 = true)
    (negative : Bool) : range.contains (signed negative 0) = true := by
  cases negative with
  | false => exact hzero
  | true => exact hzero

/-- A range around zero that has a number has every smaller one of the same sign. -/
theorem contains_of_le {range : IntegerRange} (hzero : range.contains 0 = true) {negative : Bool}
    {m k : Nat} (hk : range.contains (signed negative k) = true) (h : m ≤ k) :
    range.contains (signed negative m) = true := by
  rw [IntegerRange.contains_iff] at hzero
  rw [IntegerRange.contains_iff] at hk ⊢
  cases negative with
  | false =>
    rw [signed_false] at hk ⊢
    omega
  | true =>
    rw [signed_true] at hk ⊢
    omega

/-! ## Digit by digit -/

/-- The fault that is reported where digits leave the range. -/
def overflow (negative : Bool) : IntegerFault := if negative then .tooSmall else .tooLarge

theorem overflow_ne_invalidDigit (negative : Bool) : overflow negative ≠ .invalidDigit := by
  cases negative <;> simp [overflow]

theorem overflow_inj {negative negative' : Bool} (h : overflow negative = overflow negative') :
    negative = negative' := by
  cases negative <;> cases negative' <;> simp_all [overflow]

section Accumulate

variable {range : IntegerRange} {negative : Bool} {m : Nat} {c : Char} {rest text : List Char}

theorem accumulate_not_digit (hc : c.isDigit = false) (value : Int) :
    accumulate range negative value (c :: rest) = .error .invalidDigit := by
  have hnone : digit? c = none := by simp [digit?, hc]
  simp only [accumulate, hnone]

/-- A digit is taken up if the range has the value with it. -/
theorem accumulate_digit (hzero : range.contains 0 = true) (hc : c.isDigit = true) :
    accumulate range negative (signed negative m) (c :: rest) =
      if range.contains (signed negative (10 * m + (c.toNat - '0'.toNat))) then
        accumulate range negative (signed negative (10 * m + (c.toNat - '0'.toNat))) rest
      else .error (overflow negative) := by
  have hsome : digit? c = some (c.toNat - '0'.toNat) := by simp [digit?, hc]
  generalize c.toNat - '0'.toNat = d at hsome ⊢
  have hnext : (if negative then signed negative m * 10 - d else signed negative m * 10 + d) =
      signed negative (10 * m + d) := by
    cases negative with
    | false =>
      simp only [signed_false, Bool.false_eq_true, if_false]
      omega
    | true =>
      simp only [signed_true, if_true]
      omega
  rw [IntegerRange.contains_iff] at hzero
  simp only [accumulate, hsome, hnext, IntegerRange.contains_iff]
  -- The value is on one side of zero, so it can leave the range only there.
  cases negative with
  | false =>
    have hleast : ¬ signed false (10 * m + d) < range.least := by
      rw [signed_false]
      omega
    rw [if_neg hleast]
    by_cases hgreatest : range.greatest < signed false (10 * m + d)
    · rw [if_pos hgreatest, if_neg (by omega)]
      rfl
    · rw [if_neg hgreatest, if_pos (by omega)]
  | true =>
    have hgreatest : ¬ range.greatest < signed true (10 * m + d) := by
      rw [signed_true]
      omega
    by_cases hleast : signed true (10 * m + d) < range.least
    · rw [if_pos hleast, if_neg (by omega)]
      rfl
    · rw [if_neg hleast, if_neg hgreatest, if_pos (by omega)]

/-- What is read is the number that all digits together give, if the range has it. -/
theorem accumulate_eq_ok_iff (hzero : range.contains 0 = true)
    (hm : range.contains (signed negative m) = true) {n : Int} :
    accumulate range negative (signed negative m) text = .ok n ↔
      IsDigits text ∧ n = signed negative (Nat.ofDigitChars 10 text m) ∧ range.contains n = true := by
  induction text generalizing m with
  | nil =>
    simp only [accumulate, Nat.ofDigitChars_nil, Except.ok.injEq]
    constructor
    · rintro rfl
      exact ⟨fun c hc => absurd hc List.not_mem_nil, rfl, hm⟩
    · rintro ⟨-, rfl, -⟩
      rfl
  | cons c rest ih =>
    rw [isDigits_cons, Nat.ofDigitChars_cons]
    cases hc : c.isDigit with
    | false =>
      rw [accumulate_not_digit hc]
      simp
    | true =>
      rw [accumulate_digit hzero hc]
      by_cases hnext : range.contains (signed negative (10 * m + (c.toNat - '0'.toNat))) = true
      · rw [if_pos hnext, ih hnext]
        simp
      · -- More digits do not lead back into the range.
        rw [if_neg hnext]
        refine iff_of_false (by simp) ?_
        rintro ⟨-, rfl, hin⟩
        exact hnext (contains_of_le hzero hin (le_ofDigitChars rest _))

/-- An overflow is reported exactly if a run of digits at the start leaves the range. -/
theorem accumulate_eq_overflow_iff (hzero : range.contains 0 = true)
    (hm : range.contains (signed negative m) = true) :
    accumulate range negative (signed negative m) text = .error (overflow negative) ↔
      ∃ digits rest, text = digits ++ rest ∧ IsDigits digits ∧
        range.contains (signed negative (Nat.ofDigitChars 10 digits m)) = false := by
  induction text generalizing m with
  | nil =>
    refine iff_of_false (by simp [accumulate]) ?_
    rintro ⟨digits, rest, hnil, -, hout⟩
    obtain ⟨rfl, -⟩ := List.append_eq_nil_iff.1 hnil.symm
    rw [Nat.ofDigitChars_nil, hm] at hout
    cases hout
  | cons c rest ih =>
    -- The run has a first digit, since the range has the value without it.
    have hrun : (∃ digits back, c :: rest = digits ++ back ∧ IsDigits digits ∧
          range.contains (signed negative (Nat.ofDigitChars 10 digits m)) = false) ↔
        c.isDigit = true ∧ ∃ digits back, rest = digits ++ back ∧ IsDigits digits ∧
          range.contains (signed negative (Nat.ofDigitChars 10 digits
            (10 * m + (c.toNat - '0'.toNat)))) = false := by
      constructor
      · rintro ⟨digits, back, htext, hdigits, hout⟩
        cases digits with
        | nil =>
          rw [Nat.ofDigitChars_nil, hm] at hout
          cases hout
        | cons d digits =>
          obtain ⟨rfl, rfl⟩ := List.cons.inj htext
          rw [Nat.ofDigitChars_cons] at hout
          exact ⟨(isDigits_cons.1 hdigits).1, digits, back, rfl, (isDigits_cons.1 hdigits).2, hout⟩
      · rintro ⟨hc, digits, back, rfl, hdigits, hout⟩
        refine ⟨c :: digits, back, rfl, isDigits_cons.2 ⟨hc, hdigits⟩, ?_⟩
        rw [Nat.ofDigitChars_cons]
        exact hout
    rw [hrun]
    cases hc : c.isDigit with
    | false =>
      rw [accumulate_not_digit hc]
      simp [(overflow_ne_invalidDigit negative).symm]
    | true =>
      rw [accumulate_digit hzero hc]
      by_cases hnext : range.contains (signed negative (10 * m + (c.toNat - '0'.toNat))) = true
      · rw [if_pos hnext, ih hnext]
        simp
      · rw [if_neg hnext]
        refine iff_of_true rfl ⟨rfl, [], rest, rfl, fun d hd => absurd hd List.not_mem_nil, ?_⟩
        rw [Nat.ofDigitChars_nil]
        exact Bool.eq_false_iff.2 hnext

/-- There is no other fault than these two. -/
theorem accumulate_eq_error (hzero : range.contains 0 = true) {fault : IntegerFault}
    (h : accumulate range negative (signed negative m) text = .error fault) :
    fault = .invalidDigit ∨ fault = overflow negative := by
  induction text generalizing m with
  | nil => simp [accumulate] at h
  | cons c rest ih =>
    cases hc : c.isDigit with
    | false =>
      rw [accumulate_not_digit hc] at h
      exact Or.inl (Except.error.inj h).symm
    | true =>
      rw [accumulate_digit hzero hc] at h
      split at h
      · exact ih h
      · exact Or.inr (Except.error.inj h).symm

end Accumulate

/-! ## Reading -/

section Read

variable {range : IntegerRange} {text : String} {negative : Bool}

/-- A run of digits does not start with another character. -/
theorem isDigit_of_append_eq {c : Char} {digits back rest : List Char} (hne : digits ≠ [])
    (hdigits : IsDigits digits) (h : digits ++ back = c :: rest) : c.isDigit = true := by
  obtain ⟨d, digits, rfl⟩ := List.exists_cons_of_ne_nil hne
  obtain ⟨rfl, -⟩ := List.cons.inj h
  exact (isDigits_cons.1 hdigits).1

/-- Whether the sign that the text starts with is a minus, and what stands behind it. -/
def signOf : List Char → Bool × List Char
  | '+' :: rest => (false, rest)
  | '-' :: rest => (true, rest)
  | text => (false, text)

theorem signs_signOf (text : List Char) : Signs text (signOf text).1 (signOf text).2 := by
  unfold signOf
  split
  · exact .plus _
  · exact .minus _
  · exact .none _

/-- In front of a digit there is one way to tell the sign. -/
theorem signOf_of_signs {text digits back : List Char} (h : Signs text negative (digits ++ back))
    (hne : digits ≠ []) (hdigits : IsDigits digits) : signOf text = (negative, digits ++ back) := by
  generalize hrest : digits ++ back = rest at h
  cases h with
  | none =>
    unfold signOf
    split
    · exact absurd (isDigit_of_append_eq hne hdigits hrest) (by decide)
    · exact absurd (isDigit_of_append_eq hne hdigits hrest) (by decide)
    · rfl
  | plus => rfl
  | minus => rfl

/-- What stands behind the sign is read digit by digit. -/
theorem read_eq (hleast : range.least < 0) (hne : text ≠ "") :
    read range text = if (signOf text.toList).2 = [] then .error .invalidDigit
      else accumulate range (signOf text.toList).1 (signed (signOf text.toList).1 0)
        (signOf text.toList).2 := by
  have hlist : text.toList ≠ [] := fun h => hne (String.toList_eq_nil_iff.1 h)
  unfold read
  generalize text.toList = cs at hlist ⊢
  split
  · exact absurd rfl hlist
  · rfl
  · rfl
  · rename_i rest hrest
    have hrest : rest ≠ [] := fun h => hrest h
    simp [signOf, hrest]
  · rename_i rest hrest
    have hrest : rest ≠ [] := fun h => hrest h
    simp [signOf, hrest, hleast]
  · rename_i hplus hminus
    have hsign : signOf cs = (false, cs) := by
      unfold signOf
      split
      · exact absurd rfl (hplus _)
      · exact absurd rfl (hminus _)
      · rfl
    simp [hsign, hlist]

/-- The reader gives an integer exactly for the numerals that denote one of the range. -/
theorem read_eq_ok_iff (hzero : range.contains 0 = true) (hleast : range.least < 0) (hne : text ≠ "")
    {n : Int} : read range text = .ok n ↔ Denotes text n ∧ range.contains n = true := by
  rw [read_eq hleast hne]
  constructor
  · intro h
    split at h
    · cases h
    · rename_i hbehind
      obtain ⟨hdigits, rfl, hin⟩ := (accumulate_eq_ok_iff hzero (contains_signed_zero hzero _)).1 h
      exact ⟨⟨_, _, signs_signOf text.toList, hbehind, hdigits, rfl⟩, hin⟩
  · rintro ⟨⟨negative, digits, hsigns, hdigits, hall, rfl⟩, hin⟩
    rw [← List.append_nil digits] at hsigns
    rw [signOf_of_signs hsigns hdigits hall, List.append_nil, if_neg hdigits]
    exact (accumulate_eq_ok_iff hzero (contains_signed_zero hzero _)).2 ⟨hall, rfl, hin⟩

/-- It reports an overflow exactly where digits leave the range. -/
theorem read_eq_overflow_iff (hzero : range.contains 0 = true) (hleast : range.least < 0)
    (hne : text ≠ "") : read range text = .error (overflow negative) ↔ Leaves range text negative := by
  rw [read_eq hleast hne]
  constructor
  · intro h
    split at h
    · exact absurd (Except.error.inj h).symm (overflow_ne_invalidDigit negative)
    · -- Of the two faults of digits, this is the one with the sign of the text.
      rcases accumulate_eq_error hzero h with hinvalid | hsign
      · exact absurd hinvalid (overflow_ne_invalidDigit negative)
      · obtain rfl := overflow_inj hsign
        obtain ⟨digits, back, hbehind, hall, hout⟩ :=
          (accumulate_eq_overflow_iff hzero (contains_signed_zero hzero _)).1 h
        exact ⟨digits, back, hbehind ▸ signs_signOf text.toList, hall, hout⟩
  · rintro ⟨digits, back, hsigns, hall, hout⟩
    have hdigits : digits ≠ [] := by
      rintro rfl
      rw [Nat.ofDigitChars_nil, contains_signed_zero hzero negative] at hout
      cases hout
    rw [signOf_of_signs hsigns hdigits hall, if_neg (by simp [hdigits])]
    exact (accumulate_eq_overflow_iff hzero (contains_signed_zero hzero _)).2
      ⟨digits, back, rfl, hall, hout⟩

/-- It reports nothing else but an invalid digit. -/
theorem read_cases (hzero : range.contains 0 = true) (hleast : range.least < 0) (hne : text ≠ "") :
    (∃ n, read range text = .ok n) ∨ (∃ negative, read range text = .error (overflow negative)) ∨
      read range text = .error .invalidDigit := by
  cases h : read range text with
  | ok n => exact Or.inl ⟨n, rfl⟩
  | error fault =>
    rw [read_eq hleast hne] at h
    split at h
    · exact Or.inr (Or.inr (congrArg Except.error (Except.error.inj h).symm))
    · rcases accumulate_eq_error hzero h with rfl | rfl
      · exact Or.inr (Or.inr rfl)
      · exact Or.inr (Or.inl ⟨_, rfl⟩)

/-- On the way to an integer of the range, the products with ten and the values with one more digit
are of the range too. -/
theorem contains_on_the_way (hzero : range.contains 0 = true) (hleast : range.least < 0) {n : Int}
    (h : read range text = .ok n) {front back : List Char} {c : Char}
    (hsign : signOf text.toList = (negative, front ++ c :: back)) :
    range.contains (signed negative (10 * Nat.ofDigitChars 10 front 0)) = true ∧
      range.contains (signed negative (Nat.ofDigitChars 10 (front ++ [c]) 0)) = true := by
  have hne : text ≠ "" := by
    rintro rfl
    cases h
  rw [read_eq hleast hne, hsign, if_neg (by simp),
    accumulate_eq_ok_iff hzero (contains_signed_zero hzero negative)] at h
  obtain ⟨-, rfl, hin⟩ := h
  rw [← List.singleton_append, ← List.append_assoc, Nat.ofDigitChars_append] at hin
  have hvalue := contains_of_le hzero hin (le_ofDigitChars back _)
  have hproduct : 10 * Nat.ofDigitChars 10 front 0 ≤ Nat.ofDigitChars 10 (front ++ [c]) 0 := by
    rw [Nat.ofDigitChars_append, Nat.ofDigitChars_cons, Nat.ofDigitChars_nil]
    omega
  exact ⟨contains_of_le hzero hvalue hproduct, hvalue⟩

end Read

/-! ## Integers as they are printed -/

/-- An integer is denoted by its own text. -/
theorem denotes_toString (n : Int) : Denotes (toString n) n := by
  have hdigits (m : Nat) : IsDigits (Nat.toDigits 10 m) := fun c hc =>
    isDigit_iff.1 (Nat.isDigit_of_mem_toDigits (by decide) (by decide) hc)
  rw [Int.toString_eq_repr, Int.repr_eq_if]
  by_cases hn : 0 ≤ n
  · rw [if_pos hn]
    refine ⟨false, Nat.toDigits 10 n.toNat, ?_, Nat.toDigits_ne_nil, hdigits _, ?_⟩
    · rw [Nat.toList_repr]
      exact .none _
    · rw [Nat.ofDigitChars_ten_toDigits, signed_false]
      omega
  · rw [if_neg hn]
    refine ⟨true, Nat.toDigits 10 (-n).toNat, ?_, Nat.toDigits_ne_nil, hdigits _, ?_⟩
    · rw [String.toList_append, Nat.toList_repr]
      exact .minus _
    · rw [Nat.ofDigitChars_ten_toDigits, signed_true]
      omega

/-! ## Words of 64 bits -/

/-- Takes up one more digit in words of 64 bits, unless the product with ten overflows or the sum or
difference with the digit does. -/
def takeUp (negative : Bool) (value : BitVec 64) (d : Nat) : Option (BitVec 64) :=
  let product := value * 10
  let digit := BitVec.ofNat 64 d
  if value.smulOverflow 10 then none
  else if negative then
    if product.ssubOverflow digit then none else some (product - digit)
  else
    if product.saddOverflow digit then none else some (product + digit)

/-- Appends the digits of the text to the value read so far, in words of 64 bits. -/
def accumulateWords (negative : Bool) (value : BitVec 64) :
    List Char → Except IntegerFault (BitVec 64)
  | [] => .ok value
  | c :: rest =>
    match digit? c with
    | none => .error .invalidDigit
    | some d =>
      match takeUp negative value d with
      | none => .error (overflow negative)
      | some next => accumulateWords negative next rest

/-- Reads a text in words of 64 bits. -/
def readWords (text : String) : Except IntegerFault (BitVec 64) :=
  if text = "" then .error .empty
  else if (signOf text.toList).2 = [] then .error .invalidDigit
  else accumulateWords (signOf text.toList).1 0 (signOf text.toList).2

section Words

variable {x y value : BitVec 64} {negative : Bool} {m d : Nat}

/-- The integers that a word can be. -/
theorem contains_signed64 {n : Int} :
    IntegerRange.signed64.contains n = true ↔ -2 ^ 63 ≤ n ∧ n < 2 ^ 63 := by
  rw [IntegerRange.contains_iff]
  simp only [IntegerRange.signed64]
  omega

theorem not_smulOverflow_iff :
    ¬ x.smulOverflow y = true ↔ IntegerRange.signed64.contains (x.toInt * y.toInt) = true := by
  simp only [BitVec.smulOverflow, contains_signed64, Bool.or_eq_true, decide_eq_true_iff]
  omega

theorem not_saddOverflow_iff :
    ¬ x.saddOverflow y = true ↔ IntegerRange.signed64.contains (x.toInt + y.toInt) = true := by
  simp only [BitVec.saddOverflow, contains_signed64, Bool.or_eq_true, decide_eq_true_iff]
  omega

theorem not_ssubOverflow_iff :
    ¬ x.ssubOverflow y = true ↔ IntegerRange.signed64.contains (x.toInt - y.toInt) = true := by
  simp only [BitVec.ssubOverflow, contains_signed64, Bool.or_eq_true, decide_eq_true_iff]
  omega

/-- A word that is given unless an operation overflows. -/
theorem map_toInt_unless {overflows : Bool} {word : BitVec 64} {n : Int}
    (hfits : ¬ overflows = true ↔ IntegerRange.signed64.contains n = true)
    (hexact : ¬ overflows = true → word.toInt = n) :
    (if overflows then none else some word).map BitVec.toInt =
      if IntegerRange.signed64.contains n then some n else none := by
  by_cases h : overflows = true
  · rw [if_pos h, if_neg (fun hn => hfits.2 hn h)]
    rfl
  · rw [if_neg h, if_pos (hfits.1 h), Option.map_some, hexact h]

/-- A digit is taken up exactly if a word can be the value with it, and then the word is that value.
-/
theorem map_toInt_takeUp (hd : d < 10) (hvalue : value.toInt = signed negative m) :
    (takeUp negative value d).map BitVec.toInt =
      if IntegerRange.signed64.contains (signed negative (10 * m + d)) then
        some (signed negative (10 * m + d))
      else none := by
  have hten : value.toInt * (10 : BitVec 64).toInt = signed negative (10 * m) := by
    rw [hvalue, show (10 : BitVec 64).toInt = 10 by decide]
    cases negative with
    | false => rw [signed_false, signed_false]; omega
    | true => rw [signed_true, signed_true]; omega
  have hdigit : (BitVec.ofNat 64 d).toInt = d := by
    rw [BitVec.toInt_ofNat']
    exact Int.bmod_eq_of_le (by omega) (by omega)
  unfold takeUp
  by_cases hmul : value.smulOverflow 10 = true
  · -- With the digit the value is no nearer to zero than the product.
    have hproduct : ¬ IntegerRange.signed64.contains (signed negative (10 * m)) = true := by
      rw [← hten, ← not_smulOverflow_iff]
      exact not_not_intro hmul
    have hnext : ¬ IntegerRange.signed64.contains (signed negative (10 * m + d)) = true :=
      fun h => hproduct (contains_of_le (by decide) h (Nat.le_add_right _ _))
    rw [if_pos hmul, if_neg hnext]
    rfl
  · have hproduct := (BitVec.toInt_mul_of_not_smulOverflow hmul).trans hten
    rw [if_neg hmul]
    cases negative with
    | false =>
      have hsum : (value * 10).toInt + (BitVec.ofNat 64 d).toInt = signed false (10 * m + d) := by
        rw [hproduct, hdigit, signed_false, signed_false]
        omega
      rw [if_neg Bool.false_ne_true]
      apply map_toInt_unless
      · rw [not_saddOverflow_iff, hsum]
      · intro hadd
        rw [BitVec.toInt_add_of_not_saddOverflow hadd, hsum]
    | true =>
      have hdifference :
          (value * 10).toInt - (BitVec.ofNat 64 d).toInt = signed true (10 * m + d) := by
        rw [hproduct, hdigit, signed_true, signed_true]
        omega
      rw [if_pos rfl]
      apply map_toInt_unless
      · rw [not_ssubOverflow_iff, hdifference]
      · intro hsub
        rw [BitVec.toInt_sub_of_not_ssubOverflow hsub, hdifference]

/-- Digits are taken up in words of 64 bits as they are taken up exactly. -/
theorem map_toInt_accumulateWords (hvalue : value.toInt = signed negative m) (text : List Char) :
    (accumulateWords negative value text).map BitVec.toInt =
      accumulate .signed64 negative (signed negative m) text := by
  induction text generalizing value m with
  | nil => exact congrArg Except.ok hvalue
  | cons c rest ih =>
    cases hc : c.isDigit with
    | false =>
      have hnone : digit? c = none := by simp [digit?, hc]
      rw [accumulate_not_digit hc, accumulateWords, hnone]
      rfl
    | true =>
      have hsome : digit? c = some (c.toNat - '0'.toNat) := by simp [digit?, hc]
      have hd : c.toNat - '0'.toNat < 10 := by
        obtain ⟨-, hnine⟩ := isDigit_iff.1 hc
        have hnine : c.toNat ≤ '9'.toNat := hnine
        have : '9'.toNat = '0'.toNat + 9 := rfl
        omega
      have htaken := map_toInt_takeUp hd hvalue
      rw [accumulate_digit (by decide) hc, accumulateWords, hsome]
      cases hnext : takeUp negative value (c.toNat - '0'.toNat) with
      | none =>
        rw [hnext] at htaken
        split at htaken
        · cases htaken
        · rename_i hout
          rw [if_neg hout]
          simp only [hnext]
          rfl
      | some next =>
        rw [hnext] at htaken
        split at htaken
        · rename_i hin
          rw [if_pos hin]
          simp only [hnext]
          exact ih (Option.some.inj htaken)
        · cases htaken

/-- A word that has taken up digits is the number that they denote. -/
theorem toInt_of_accumulateWords {digits : List Char}
    (h : accumulateWords negative 0 digits = .ok value) :
    value.toInt = signed negative (Nat.ofDigitChars 10 digits 0) := by
  have hvalue : (0 : BitVec 64).toInt = signed negative 0 := by cases negative <;> rfl
  have hread := map_toInt_accumulateWords hvalue digits
  rw [h] at hread
  have hzero : IntegerRange.signed64.contains 0 = true := by decide
  exact ((accumulate_eq_ok_iff hzero (contains_signed_zero hzero negative)).1 hread.symm).2.1

/-- Reading in words of 64 bits has the outcome of reading exactly. -/
theorem map_toInt_readWords (text : String) :
    (readWords text).map BitVec.toInt = read .signed64 text := by
  unfold readWords
  by_cases hne : text = ""
  · rw [if_pos hne, hne]
    rfl
  · rw [if_neg hne, read_eq (by decide) hne]
    split
    · rfl
    · apply map_toInt_accumulateWords
      cases (signOf text.toList).1 <;> rfl

end Words

end ZoneStore.Text.Decimal
