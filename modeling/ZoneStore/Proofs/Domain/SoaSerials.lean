import ZoneStore.Proofs.Outcome
import ZoneStore.Proofs.Text.Numerals
import ZoneStore.Proofs.Text.Fields

/-!
# Serials in SOA content

The serial is the third field of the content, read as an integer of 64 bits. `ReadsInteger` says
what comes of a field: the integer that it denotes, if words of 64 bits have it, and otherwise a
fault that tells an overflow from an invalid digit, where no step on the way overflows unnoticed. So
a content is read by its fields alone, and a serial that was printed as the third one comes back
from it, whatever stands behind (`soaSerial_exact`).
-/

set_option autoImplicit false

namespace ZoneStore

open Text Text.Decimal

/-! ## Fields that are read as integers -/

/-- The outcome of reading a field as an integer of 64 bits with sign. -/
structure ReadsInteger (field : String) (outcome : Except Fault Int) : Prop where
  /-- The integer is the one that the field denotes, and is one of 64 bits. -/
  integer : ∀ n, outcome = .ok n ↔ Denotes field n ∧ -2 ^ 63 ≤ n ∧ n < 2 ^ 63
  /-- It is too large exactly if the digits exceed these integers before another character comes. -/
  tooLarge : outcome = .error (.integer .tooLarge) ↔ Leaves .signed64 field false
  /-- It is too small exactly if the digits behind a minus sign do. -/
  tooSmall : outcome = .error (.integer .tooSmall) ↔ Leaves .signed64 field true
  /-- In every other case there is an invalid digit. -/
  invalidDigit : outcome = .error (.integer .invalidDigit) ↔
    (¬ ∃ n, Denotes field n ∧ -2 ^ 63 ≤ n ∧ n < 2 ^ 63) ∧
      ∀ negative, ¬ Leaves .signed64 field negative
  /-- Words of 64 bits, where every overflow is refused, give the same outcome. -/
  words : outcome = ((readWords field).map BitVec.toInt).mapError .integer
  /-- A word that has taken up digits is the number that they denote. -/
  taken : ∀ negative front back, signOf field.toList = (negative, front ++ back) → ∀ value,
    accumulateWords negative 0 front = .ok value →
      value.toInt = signed negative (Nat.ofDigitChars 10 front 0)
  /-- On the way to an integer, no product with ten and no value with one more digit overflows. -/
  fits : ∀ n, outcome = .ok n → ∀ negative front c back,
    signOf field.toList = (negative, front ++ c :: back) →
      IntegerRange.signed64.contains (signed negative (10 * Nat.ofDigitChars 10 front 0)) = true ∧
        IntegerRange.signed64.contains
          (signed negative (Nat.ofDigitChars 10 (front ++ [c]) 0)) = true

theorem mapError_integer_eq_error_iff {α : Type} {x : Except IntegerFault α}
    {cause : IntegerFault} : x.mapError Fault.integer = .error (.integer cause) ↔ x = .error cause := by
  cases x <;> simp [Except.mapError]

/-- Reading a text that is not empty. -/
theorem readsInteger_read {field : String} (hne : field ≠ "") :
    ReadsInteger field ((Decimal.read .signed64 field).mapError .integer) := by
  have hzero : IntegerRange.signed64.contains 0 = true := by decide
  have hleast : IntegerRange.signed64.least < 0 := by decide
  have hok (n : Int) : Decimal.read .signed64 field = .ok n ↔
      Denotes field n ∧ -2 ^ 63 ≤ n ∧ n < 2 ^ 63 := by
    rw [read_eq_ok_iff hzero hleast hne, contains_signed64]
  have hoverflow (negative : Bool) : Decimal.read .signed64 field = .error (overflow negative) ↔
      Leaves .signed64 field negative := read_eq_overflow_iff hzero hleast hne
  constructor
  · intro n
    rw [mapError_eq_ok_iff, hok]
  · rw [mapError_integer_eq_error_iff]
    exact hoverflow false
  · rw [mapError_integer_eq_error_iff]
    exact hoverflow true
  · rw [mapError_integer_eq_error_iff]
    simp only [← hok, ← hoverflow]
    constructor
    · intro h
      simp [h, (overflow_ne_invalidDigit _).symm]
    · rintro ⟨hinteger, hleaves⟩
      rcases read_cases hzero hleast hne with ⟨n, hn⟩ | ⟨negative, hn⟩ | h
      · exact absurd ⟨n, hn⟩ hinteger
      · exact absurd hn (hleaves negative)
      · exact h
  · rw [map_toInt_readWords]
  · intro negative front back _ value hvalue
    exact toInt_of_accumulateWords hvalue
  · intro n hn negative front c back hsign
    exact contains_on_the_way hzero hleast (mapError_eq_ok_iff.1 hn) hsign

/-! ## Contents with a printed serial -/

/-- The text is white space, and there is some. -/
def IsGap (gap : String) : Prop := gap ≠ "" ∧ ∀ c ∈ gap.toList, isBlank c = true

theorem not_isBlank {c : Char} (hfrom : '!' ≤ c) (hto : c ≤ '~') : isBlank c = false := by
  have hfrom : 0x21 ≤ c.toNat := hfrom
  have hto : c.toNat ≤ 0x7E := hto
  rw [isBlank, ← Bool.not_eq_true, Intervals.contains_eq_true_iff]
  rintro ⟨i, hi, hleast, hgreatest⟩
  simp only [blanks, List.mem_cons, List.not_mem_nil, or_false] at hi
  rcases hi with rfl | rfl | rfl | rfl | rfl | rfl | rfl | rfl | rfl | rfl <;> omega

/-- A numeral has no white space in it. -/
theorem isField_of_denotes {text : String} {n : Int} (h : Denotes text n) :
    Text.IsField isBlank text := by
  obtain ⟨negative, digits, hsigns, hne, hdigits, -⟩ := h
  have hdigit : ∀ c ∈ digits, isBlank c = false := fun c hc =>
    not_isBlank (Char.le_trans (by decide) (hdigits c hc).1)
      (Char.le_trans (hdigits c hc).2 (by decide))
  rw [Text.IsField, ne_eq, ← String.toList_eq_nil_iff]
  generalize text.toList = cs at hsigns ⊢
  cases hsigns with
  | none => exact ⟨hne, hdigit⟩
  | plus => exact ⟨List.cons_ne_nil _ _, List.forall_mem_cons.2 ⟨by decide, hdigit⟩⟩
  | minus => exact ⟨List.cons_ne_nil _ _, List.forall_mem_cons.2 ⟨by decide, hdigit⟩⟩

/-- A gap parts what stands in front of it. -/
theorem IsGap.isParted {gap : String} (h : IsGap gap) (rest : List Char) :
    IsParted isBlank (gap.toList ++ rest) :=
  isParted_append (fun hnil => h.1 (String.toList_eq_nil_iff.1 hnil)) h.2 rest

/-- The content in which three fields stand first. -/
theorem fields_of_three {lead first gap second gap' third tail : String}
    (hlead : ∀ c ∈ lead.toList, isBlank c = true) (hfirst : Text.IsField isBlank first)
    (hgap : IsGap gap) (hsecond : Text.IsField isBlank second) (hgap' : IsGap gap')
    (hthird : Text.IsField isBlank third) (htail : IsParted isBlank tail.toList) :
    fields isBlank (lead ++ first ++ gap ++ second ++ gap' ++ third ++ tail) =
      first :: second :: third :: fields isBlank tail := by
  have hrest : SplitsInto isBlank tail.toList (fields isBlank tail) := fields_eq_iff.1 rfl
  have hnone : ∀ c ∈ ([] : List Char), isBlank c = true := fun c hc => absurd hc List.not_mem_nil
  rw [fields_eq_iff]
  have h := SplitsInto.field hlead hfirst (hgap.isParted _)
    (.field hgap.2 hsecond (hgap'.isParted _) (.field hgap'.2 hthird htail hrest))
  simpa only [String.toList_append, List.append_assoc] using h

/-- The serial of a content is told by its third field alone, exactly, and a serial that was printed
there is read again. -/
theorem soaSerial_exact :
    (∀ content : String, ∃ fields, SplitsInto isBlank content.toList fields ∧
      (∀ fields', SplitsInto isBlank content.toList fields' → fields' = fields) ∧
      (fields.length < 3 → soaSerial content = .ok 0) ∧
      ∀ field, fields[2]? = some field → ReadsInteger field (soaSerial content)) ∧
    ∀ n : Int, -2 ^ 63 ≤ n → n < 2 ^ 63 → ∀ lead first gap second gap' tail : String,
      (∀ c ∈ lead.toList, isBlank c = true) → Text.IsField isBlank first → IsGap gap →
      Text.IsField isBlank second → IsGap gap' → IsParted isBlank tail.toList →
        soaSerial (lead ++ first ++ gap ++ second ++ gap' ++ toString n ++ tail) = .ok n := by
  constructor
  · intro content
    refine ⟨fields isBlank content, fields_eq_iff.1 rfl, ?_, ?_, ?_⟩
    · intro fields' hfields'
      exact (fields_eq_iff.2 hfields').symm
    · intro hshort
      rw [soaSerial, List.getElem?_eq_none (by omega)]
    · intro field hfield
      have hmem : field ∈ fields isBlank content := List.mem_of_getElem? hfield
      rw [soaSerial, hfield]
      exact readsInteger_read (isField_of_mem_fields hmem).1
  · intro n hleast hgreatest lead first gap second gap' tail hlead hfirst hgap hsecond hgap' htail
    have hdenotes := denotes_toString n
    have hthird := isField_of_denotes hdenotes
    rw [soaSerial, fields_of_three hlead hfirst hgap hsecond hgap' hthird htail]
    exact ((readsInteger_read hthird.1).integer n).2 ⟨hdenotes, hleast, hgreatest⟩

/-- The least integer behind white space of several kinds, and a numeral below it. -/
theorem soaSerial_exact_least :
    soaSerial ("\u3000" ++ "ns.b.org." ++ "\u00A0\t" ++ "post.b.org." ++ "\u2028" ++
      toString (-2 ^ 63 : Int) ++ " 1 1 1 1") = .ok (-2 ^ 63) ∧
    soaSerial "ns. post. -00000000000000000000009223372036854775809x" =
      .error (.integer .tooSmall) := by
  have hblank {text : String} (h : text.toList.all isBlank = true) :
      ∀ c ∈ text.toList, isBlank c = true := List.all_eq_true.1 h
  have hfield {text : String} (hne : text ≠ "") (h : text.toList.any isBlank = false) :
      Text.IsField isBlank text := ⟨hne, fun c hc => by simpa using List.any_eq_false.1 h c hc⟩
  constructor
  · refine soaSerial_exact.2 (-2 ^ 63) (by decide) (by decide) _ _ _ _ _ _ (hblank (by decide))
      (hfield (by decide) (by decide)) ⟨by decide, hblank (by decide)⟩
      (hfield (by decide) (by decide)) ⟨by decide, hblank (by decide)⟩ ?_
    rintro c rest ⟨⟩
    decide
  · obtain ⟨fields, hfields, -, -, hread⟩ := soaSerial_exact.1
      "ns. post. -00000000000000000000009223372036854775809x"
    obtain rfl := fields_eq_iff.2 hfields
    refine (hread "-00000000000000000000009223372036854775809x" (by decide)).tooSmall.2 ?_
    refine ⟨"00000000000000000000009223372036854775809".toList, ['x'], .minus _, ?_, by decide⟩
    simp [IsDigits]

end ZoneStore
