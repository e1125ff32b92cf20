import Mathlib.Order.Defs.LinearOrder
import Mathlib.Data.String.Basic

/-!
# The order of texts by bytes

Texts are compared character by character. This is the order of their bytes in UTF-8
(`Text.bytes_lt_bytes_iff`): the encoding of a smaller character is smaller at the first byte in
which the two encodings differ, and neither begins the other.
-/

set_option autoImplicit false

namespace ZoneStore.Text

/-- The bytes of a text in UTF-8. -/
def bytes (text : String) : List UInt8 := text.toUTF8.data.toList

theorem bytes_eq (text : String) : bytes text = text.toList.flatMap String.utf8EncodeChar := by
  have hencode : text.toUTF8 = (text.toList.flatMap String.utf8EncodeChar).toByteArray := by
    rw [String.toUTF8_eq_toByteArray, ← String.utf8Encode_toList]
    rfl
  rw [bytes, hencode, List.toList_data_toByteArray]

/-- A byte sequence that begins with a smaller byte is smaller. -/
theorem cons_lt_cons_of_lt {m n : Nat} (hm : m < n) (hn : n < 256) (xs ys : List UInt8) :
    UInt8.ofNat m :: xs < UInt8.ofNat n :: ys := by
  rw [List.cons_lt_cons_iff, UInt8.lt_iff_toNat_lt, UInt8.toNat_ofNat', UInt8.toNat_ofNat']
  left
  omega

/-- Equal first bytes leave the comparison to the others. -/
theorem cons_lt_cons_of_le {m n : Nat} (hm : m ≤ n) (hn : n < 256) {xs ys : List UInt8}
    (h : m = n → xs < ys) : UInt8.ofNat m :: xs < UInt8.ofNat n :: ys := by
  rcases Nat.lt_or_eq_of_le hm with hlt | rfl
  · exact cons_lt_cons_of_lt hlt hn xs ys
  · rw [List.cons_lt_cons_iff]
    exact Or.inr ⟨rfl, h rfl⟩

/-- The encoding of a smaller character is smaller, whatever comes after it. -/
theorem utf8EncodeChar_append_lt {c d : Char} (h : c < d) (xs ys : List UInt8) :
    String.utf8EncodeChar c ++ xs < String.utf8EncodeChar d ++ ys := by
  have hlt : c.val.toNat < d.val.toNat := UInt32.lt_iff_toNat_lt.1 (Char.lt_def.1 h)
  have hd : d.val.toNat < 1114112 := by
    have := d.valid
    unfold UInt32.isValidChar Nat.isValidChar at this
    omega
  unfold String.utf8EncodeChar
  generalize c.val.toNat = m at hlt
  generalize d.val.toNat = n at hlt hd
  -- The greater character has at least as many bytes, and the first byte tells how many. With the
  -- same number of bytes the digits are compared from the highest one on.
  by_cases hn₁ : n ≤ 127
  · have hm₁ : m ≤ 127 := by omega
    simp only [if_pos hn₁, if_pos hm₁, List.cons_append]
    exact cons_lt_cons_of_lt hlt (by omega) _ _
  by_cases hn₂ : n ≤ 2047
  · have hm₂ : m ≤ 2047 := by omega
    simp only [if_neg hn₁, if_pos hn₂, if_pos hm₂]
    split
    · exact cons_lt_cons_of_lt (by omega) (by omega) _ _
    · refine cons_lt_cons_of_le (by omega) (by omega) fun _ => ?_
      exact cons_lt_cons_of_lt (by omega) (by omega) _ _
  by_cases hn₃ : n ≤ 65535
  · have hm₃ : m ≤ 65535 := by omega
    simp only [if_neg hn₁, if_neg hn₂, if_pos hn₃, if_pos hm₃]
    split
    · exact cons_lt_cons_of_lt (by omega) (by omega) _ _
    split
    · exact cons_lt_cons_of_lt (by omega) (by omega) _ _
    · refine cons_lt_cons_of_le (by omega) (by omega) fun _ => ?_
      refine cons_lt_cons_of_le (by omega) (by omega) fun _ => ?_
      exact cons_lt_cons_of_lt (by omega) (by omega) _ _
  simp only [if_neg hn₁, if_neg hn₂, if_neg hn₃]
  split
  · exact cons_lt_cons_of_lt (by omega) (by omega) _ _
  split
  · exact cons_lt_cons_of_lt (by omega) (by omega) _ _
  split
  · exact cons_lt_cons_of_lt (by omega) (by omega) _ _
  · refine cons_lt_cons_of_le (by omega) (by omega) fun _ => ?_
    refine cons_lt_cons_of_le (by omega) (by omega) fun _ => ?_
    refine cons_lt_cons_of_le (by omega) (by omega) fun _ => ?_
    exact cons_lt_cons_of_lt (by omega) (by omega) _ _

/-- Every character has a byte. -/
theorem utf8EncodeChar_ne_nil (c : Char) : String.utf8EncodeChar c ≠ [] := by
  unfold String.utf8EncodeChar
  dsimp only
  split
  · simp
  split
  · simp
  split <;> simp

theorem flatMap_utf8EncodeChar_lt {cs ds : List Char} (h : cs < ds) :
    cs.flatMap String.utf8EncodeChar < ds.flatMap String.utf8EncodeChar := by
  induction cs generalizing ds with
  | nil =>
    cases ds with
    | nil => exact absurd h (List.not_lt_nil _)
    | cons d ds =>
      rw [List.flatMap_cons]
      cases hd : String.utf8EncodeChar d with
      | nil => exact absurd hd (utf8EncodeChar_ne_nil d)
      | cons byte bytes => exact List.nil_lt_cons _ _
  | cons c cs ih =>
    cases ds with
    | nil => exact absurd h (List.not_lt_nil _)
    | cons d ds =>
      rw [List.flatMap_cons, List.flatMap_cons]
      rcases List.cons_lt_cons_iff.1 h with hlt | ⟨rfl, hrest⟩
      · exact utf8EncodeChar_append_lt hlt _ _
      · exact List.append_left_lt (ih hrest)

/-- Texts are in the order of their bytes. -/
theorem bytes_lt_bytes_iff {a b : String} : bytes a < bytes b ↔ a < b := by
  have mono {a b : String} (h : a < b) : bytes a < bytes b := by
    rw [bytes_eq, bytes_eq]
    exact flatMap_utf8EncodeChar_lt (String.lt_iff_toList_lt.1 h)
  refine ⟨fun h => ?_, mono⟩
  -- Of two texts that are in no order the greater one has the greater bytes.
  rcases lt_trichotomy a b with hlt | rfl | hgt
  · exact hlt
  · exact absurd h (List.lt_irrefl _)
  · exact absurd h (List.lt_asymm (mono hgt))

theorem bytes_le_bytes_iff {a b : String} : bytes a ≤ bytes b ↔ a ≤ b := by
  rw [← not_lt, ← bytes_lt_bytes_iff]
  exact Iff.rfl

end ZoneStore.Text
