import ZoneStore.Text.AsciiCase

/-!
# Collation

Columns of names, kinds and algorithms are compared by a collation that disregards the case of ASCII
letters. It reads texts up to their first `U+0000`; where two texts are the same that far, the one
with more bytes is the greater one, whatever these bytes are. Two texts that the collation does not
tell apart are alike (`Text.alike`): they have the same key (`alike_iff`). Texts that agree up to
ASCII case are alike, and for a text without `U+0000` that is all there is to it
(`alike_iff_agree`).
-/

set_option autoImplicit false

namespace ZoneStore.Text

/-- The characters in front of the first `U+0000`. -/
def beforeNul : List Char → List Char
  | [] => []
  | c :: cs => if c = '\x00' then [] else c :: beforeNul cs

/-- The characters from the first `U+0000` on. -/
def fromNul : List Char → List Char
  | [] => []
  | c :: cs => if c = '\x00' then c :: cs else fromNul cs

/-- What the collation knows of a text. -/
@[ext] structure CollationKey where
  /-- What stands in front of the first `U+0000`, in small letters. -/
  front : String
  /-- The number of bytes from there on. -/
  rest : Nat
deriving DecidableEq, Repr

/-- The order of keys: by the letters, then by the number of bytes. -/
instance : Ord CollationKey :=
  ⟨compareLex (compareOn CollationKey.front) (compareOn CollationKey.rest)⟩

instance : Std.TransOrd CollationKey :=
  inferInstanceAs (Std.TransCmp (compareLex _ _))

instance : Std.LawfulEqOrd CollationKey where
  eq_of_compare {a b} h := by
    obtain ⟨front, rest⟩ := a
    obtain ⟨front', rest'⟩ := b
    obtain ⟨hfront, hrest⟩ := compareLex_eq_eq.1 h
    have hfront : front = front' := Std.LawfulEqCmp.eq_of_compare hfront
    have hrest : rest = rest' := Std.LawfulEqCmp.eq_of_compare hrest
    rw [hfront, hrest]

/-- The key of a text. The bytes are those of the small letters, which take as many as the letters
that they are put for. -/
def collationKey (text : String) : CollationKey :=
  let small := text.toList.map Char.toLower
  ⟨String.ofList (beforeNul small), (String.ofList (fromNul small)).utf8ByteSize⟩

/-- Whether the collation does not tell two texts apart. -/
def alike (a b : String) : Bool :=
  (collationKey a).front == (collationKey b).front && (collationKey a).rest == (collationKey b).rest

/-- Texts are alike exactly if they have the same key. -/
theorem alike_iff {a b : String} : alike a b = true ↔ collationKey a = collationKey b := by
  rw [alike, Bool.and_eq_true, beq_iff_eq, beq_iff_eq, CollationKey.ext_iff]

@[simp] theorem alike_self (a : String) : alike a a = true := by simp [alike]

theorem alike_comm (a b : String) : alike a b = alike b a := by
  rw [Bool.eq_iff_iff, alike_iff, alike_iff, eq_comm]

theorem alike_trans {a b c : String} (hab : alike a b = true) (hbc : alike b c = true) :
    alike a c = true := by
  rw [alike_iff] at *
  exact hab.trans hbc

/-! ## Texts that agree up to ASCII case -/

theorem agree_iff_small {a b : String} :
    agree a b = true ↔ a.toList.map Char.toLower = b.toList.map Char.toLower := by
  rw [agree_iff, foldCase, foldCase, String.ofList_inj]

/-- Texts that agree up to ASCII case are alike. -/
theorem alike_of_agree {a b : String} (h : agree a b = true) : alike a b = true := by
  rw [alike_iff, collationKey, collationKey, agree_iff_small.1 h]

theorem fromNul_eq_nil_iff {cs : List Char} : fromNul cs = [] ↔ '\x00' ∉ cs := by
  induction cs with
  | nil => simp [fromNul]
  | cons c cs ih =>
    by_cases hc : c = '\x00'
    · simp [fromNul, hc]
    · simp [fromNul, hc, Ne.symm hc, ih]

/-- There is no byte from the first `U+0000` on exactly if there is none. -/
theorem utf8ByteSize_fromNul_eq_zero {cs : List Char} :
    (String.ofList (fromNul cs)).utf8ByteSize = 0 ↔ '\x00' ∉ cs := by
  rw [String.utf8ByteSize_eq_zero_iff, String.ofList_eq_empty_iff, fromNul_eq_nil_iff]

/-- A text without `U+0000` stands in front of it as a whole. -/
theorem beforeNul_eq_self {cs : List Char} (h : '\x00' ∉ cs) : beforeNul cs = cs := by
  induction cs with
  | nil => rfl
  | cons c cs ih =>
    rw [List.mem_cons, not_or] at h
    rw [beforeNul, if_neg (Ne.symm h.1), ih h.2]

/-- Small letters make no `U+0000`. -/
theorem nul_mem_map_toLower {cs : List Char} (h : '\x00' ∈ cs.map Char.toLower) : '\x00' ∈ cs := by
  obtain ⟨c, hc, hlower⟩ := List.mem_map.1 h
  rwa [← eq_of_toLower (by decide) hlower]

/-- For a text without `U+0000`, to be alike is to agree up to ASCII case. -/
theorem alike_iff_agree {a b : String} (h : '\x00' ∉ a.toList) :
    alike a b = true ↔ agree a b = true := by
  refine ⟨fun hab => ?_, alike_of_agree⟩
  -- Nothing of the first text is left out, and so nothing of the second one.
  have ha : '\x00' ∉ a.toList.map Char.toLower := fun hnul => h (nul_mem_map_toLower hnul)
  obtain ⟨hfront, hrest⟩ := CollationKey.mk.inj (alike_iff.1 hab)
  have hb : '\x00' ∉ b.toList.map Char.toLower := by
    rwa [← utf8ByteSize_fromNul_eq_zero, ← hrest, utf8ByteSize_fromNul_eq_zero]
  rw [String.ofList_inj, beforeNul_eq_self ha, beforeNul_eq_self hb] at hfront
  exact agree_iff_small.2 hfront

end ZoneStore.Text
