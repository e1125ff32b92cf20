/-!
# Letter case of ASCII

Words such as the kinds of domains and the wildcard of record types are read without regard to the
case of ASCII letters; every other character stands for itself. Two texts agree in this sense when
their folded forms are equal (`agree_iff`). Columns are compared by a collation of their own, which
is built on the same folding of letters.
-/

set_option autoImplicit false

namespace ZoneStore.Text

/-- The text with `A` to `Z` replaced by `a` to `z`, and every other character kept. -/
def foldCase (text : String) : String := String.ofList (text.toList.map Char.toLower)

/-- A character is folded to itself, unless it is a capital letter. -/
theorem toLower_eq_or (c : Char) :
    c.toLower = c ∨ 65 ≤ c.toNat ∧ c.toNat ≤ 90 ∧ c.toLower.toNat = c.toNat + 32 := by
  unfold Char.toLower
  split
  · rename_i hupper
    have hfirst : 65 ≤ c.toNat := UInt32.le_iff_toNat_le.1 hupper.1
    have hlast : c.toNat ≤ 90 := UInt32.le_iff_toNat_le.1 hupper.2
    refine .inr ⟨hfirst, hlast, ?_⟩
    have hsum : (c.val + ('a'.val - 'A'.val)).toNat = (c.toNat + 32) % 4294967296 := UInt32.toNat_add ..
    rw [show (⟨_, _⟩ : Char).toNat = (c.val + ('a'.val - 'A'.val)).toNat from rfl, hsum]
    omega
  · exact .inl rfl

/-- What is no small letter is folded to from itself only. -/
theorem eq_of_toLower {c d : Char} (hd : d.toNat < 97 ∨ 122 < d.toNat) (h : c.toLower = d) :
    c = d := by
  obtain hkept | ⟨hfirst, hlast, hlower⟩ := toLower_eq_or c
  · rw [← hkept, h]
  · rw [h] at hlower
    omega

/-- Whether two texts are equal up to the case of ASCII letters. -/
def agree (a b : String) : Bool := foldCase a == foldCase b

/-- Agreement is equality of the folded texts. -/
theorem agree_iff {a b : String} : agree a b = true ↔ foldCase a = foldCase b := by
  simp [agree]

@[simp] theorem agree_self (a : String) : agree a a = true := by simp [agree]

end ZoneStore.Text
