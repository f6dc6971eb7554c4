import FragmentFeed.Text.Digit

/-!
# Digits and numbers

Which characters are the digits of a value (`value?_eq_some_iff`), and that a number is gathered from the
digits that it is written with (`gather?_toDigits`).
-/

namespace FragmentFeed.Text.Digit

variable {base v n acc : Nat} {c : Char} {ds es : List Char}

/-- The digits of a value: one below ten, and a letter of either case from ten on. -/
theorem value?_eq_some_iff :
    value? base c = some v ↔
      v < base ∧ v < 16 ∧ (v < 10 ∧ c.toNat = 0x30 + v ∨ 10 ≤ v ∧ (c.toNat = 0x57 + v ∨ c.toNat = 0x37 + v)) := by
  unfold value?
  simp only [Char.le_def, UInt32.le_iff_toNat_le, Char.toNat_val, Char.reduceToNat]
  grind

/-- The digit that a value is written with. -/
theorem value?_digitChar (hv : v < base) (hbase : base ≤ 16) : value? base v.digitChar = some v := by
  have hall : ∀ v ∈ List.range 16, v < 10 ∧ v.digitChar.toNat = 0x30 + v
      ∨ 10 ≤ v ∧ (v.digitChar.toNat = 0x57 + v ∨ v.digitChar.toNat = 0x37 + v) := by decide
  have hlt : v < 16 := Nat.lt_of_lt_of_le hv hbase
  exact value?_eq_some_iff.mpr ⟨hv, hlt, hall v (List.mem_range.mpr hlt)⟩

/-- What digits make is made of the value of the first one and of the others. -/
theorem gather?_cons_eq_some_iff :
    gather? base acc (c :: ds) = some n
      ↔ ∃ v, value? base c = some v ∧ gather? base (acc * base + v) ds = some n := by
  rw [gather?]
  cases value? base c with
  | none => simp
  | some v => simp

theorem gather?_append :
    gather? base acc (ds ++ es) = (gather? base acc ds).bind fun n => gather? base n es := by
  induction ds generalizing acc with
  | nil => rfl
  | cons d ds ih =>
    rw [List.cons_append, gather?, gather?]
    cases value? base d with
    | none => rfl
    | some v => exact ih

theorem gather?_digitChar (hv : v < base) (hbase : base ≤ 16) :
    gather? base acc [v.digitChar] = some (acc * base + v) := by
  simp only [gather?, value?_digitChar hv hbase]

/-- **A number is read as it is written.** -/
theorem gather?_toDigits (hbase : 1 < base) (hbase' : base ≤ 16) (n : Nat) :
    gather? base 0 (Nat.toDigits base n) = some n := by
  induction n using Nat.strongRecOn with
  | _ n ih =>
    rw [Nat.toDigits_eq_if hbase]
    split
    · rename_i hlt
      rw [gather?_digitChar hlt hbase', Nat.zero_mul, Nat.zero_add]
    · rename_i hge
      have hpos : 0 < base := Nat.lt_of_succ_lt hbase
      have hdiv : n / base < n := Nat.div_lt_self (by omega) hbase
      rw [gather?_append, ih _ hdiv, Option.bind_some, gather?_digitChar (Nat.mod_lt n hpos) hbase',
        Nat.div_add_mod']

/-- The digits that a number is written with in base ten. -/
theorem toNat_of_mem_toDigits (h : c ∈ Nat.toDigits 10 n) : 0x30 ≤ c.toNat ∧ c.toNat ≤ 0x39 := by
  have hdigit := Nat.isDigit_of_mem_toDigits (by decide) (by decide) h
  rwa [Char.isDigit, Bool.and_eq_true, decide_eq_true_eq, decide_eq_true_eq] at hdigit

theorem isDigit_of_mem_decimal (h : c ∈ decimal n) : c.isDigit = true :=
  Nat.isDigit_of_mem_toDigits (by decide) (by decide) h

/-- Gathering goes up. -/
theorem le_of_gather? (h : gather? base acc ds = some n) (hbase : 0 < base) : acc ≤ n := by
  induction ds generalizing acc with
  | nil => exact Nat.le_of_eq (Option.some.inj h)
  | cons d ds ih =>
    obtain ⟨v, -, h⟩ := gather?_cons_eq_some_iff.mp h
    exact Nat.le_trans (Nat.le_trans (Nat.le_mul_of_pos_right acc hbase) (Nat.le_add_right _ v)) (ih h)

/-- Whatever has been gathered is digits. -/
theorem exists_value?_of_gather? (h : gather? base acc ds = some n) (hc : c ∈ ds) :
    ∃ v, value? base c = some v := by
  induction ds generalizing acc with
  | nil => cases hc
  | cons d ds ih =>
    obtain ⟨v, hd, h⟩ := gather?_cons_eq_some_iff.mp h
    rcases List.mem_cons.mp hc with rfl | hc
    · exact ⟨v, hd⟩
    · exact ih h hc

end FragmentFeed.Text.Digit
