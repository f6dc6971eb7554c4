/-!
# Digits

ASCII digits of a base up to sixteen, of either case when read, and the numbers they make.
-/

namespace FragmentFeed.Text.Digit

/-- The value of a digit. -/
def value? (base : Nat) (c : Char) : Option Nat :=
  let v :=
    if '0' ≤ c ∧ c ≤ '9' then c.toNat - 0x30
    else if 'a' ≤ c ∧ c ≤ 'f' then c.toNat - 0x57
    else if 'A' ≤ c ∧ c ≤ 'F' then c.toNat - 0x37
    else base
  if v < base then some v else none

/-- An upper-case digit. -/
def upper (d : Nat) : Char := if d < 10 then Char.ofNat (0x30 + d) else Char.ofNat (0x37 + d)

/-- The number that digits make, most significant first, after those already gathered in `acc`;
`none` where a character is not a digit. -/
def gather? (base : Nat) (acc : Nat) : List Char → Option Nat
  | [] => some acc
  | c :: rest =>
    match value? base c with
    | none => none
    | some d => gather? base (acc * base + d) rest

/-- The decimal text of a number. -/
def decimal (n : Nat) : List Char := Nat.toDigits 10 n

theorem value?_upper {d : Nat} (h : d < 16) : value? 16 (upper d) = some d := by
  have hall : ∀ e ∈ List.range 16, value? 16 (upper e) = some e := by decide
  exact hall d (List.mem_range.mpr h)

end FragmentFeed.Text.Digit
