/-!
# Characters and code points

The ranges of code points that the letters and digits of ASCII take up, and the characters that numbers stand
for.
-/

namespace FragmentFeed.Text

variable {c : Char} {n : Nat}

/-! ## ASCII -/

theorem isUpper_iff : c.isUpper = true ↔ 0x41 ≤ c.toNat ∧ c.toNat ≤ 0x5A := by
  show decide ('A'.val ≤ c.val ∧ c.val ≤ 'Z'.val) = true ↔ _
  rw [decide_eq_true_eq, UInt32.le_iff_toNat_le, UInt32.le_iff_toNat_le]
  rfl

theorem isLower_iff : c.isLower = true ↔ 0x61 ≤ c.toNat ∧ c.toNat ≤ 0x7A := by
  show (decide ('a'.val ≤ c.val) && decide (c.val ≤ 'z'.val)) = true ↔ _
  rw [Bool.and_eq_true, decide_eq_true_eq, decide_eq_true_eq, UInt32.le_iff_toNat_le, UInt32.le_iff_toNat_le]
  rfl

theorem isAlpha_iff :
    c.isAlpha = true ↔ 0x41 ≤ c.toNat ∧ c.toNat ≤ 0x5A ∨ 0x61 ≤ c.toNat ∧ c.toNat ≤ 0x7A := by
  show (c.isUpper || c.isLower) = true ↔ _
  rw [Bool.or_eq_true, isUpper_iff, isLower_iff]

theorem isAlphanum_iff :
    c.isAlphanum = true ↔ c.isAlpha = true ∨ 0x30 ≤ c.toNat ∧ c.toNat ≤ 0x39 := by
  show (c.isAlpha || c.isDigit) = true ↔ _
  rw [Bool.or_eq_true, Char.isDigit_iff_toNat]
  rfl

/-- What holds of the first 128 characters, looked at one by one, holds of each. -/
theorem of_ascii {P : Char → Prop} (h : ∀ n ∈ List.range 0x80, P (Char.ofNat n)) (hc : c.toNat < 0x80) : P c := by
  have hn := h c.toNat (List.mem_range.mpr hc)
  rwa [Char.ofNat_toNat] at hn

/-! ## Numbers -/

theorem toNat_lt (c : Char) : c.toNat < 0x110000 := by
  rcases c.valid with h | h
  · exact Nat.lt_trans h (by decide)
  · exact h.2

theorem toNat_ofNat_of_lt (h : n < 0xD800) : (Char.ofNat n).toNat = n := by
  rw [Char.ofNat, dif_pos (Or.inl h)]
  rfl

/-- A number is that of the character made of it, or there is no such character and it is the null one. -/
theorem toNat_ofNat (n : Nat) : (Char.ofNat n).toNat = n ∨ (Char.ofNat n).toNat = 0 := by
  by_cases h : n.isValidChar
  · refine Or.inl ?_
    rw [Char.ofNat, dif_pos h]
    rfl
  · refine Or.inr ?_
    rw [Char.ofNat, dif_neg h]
    rfl

end FragmentFeed.Text
