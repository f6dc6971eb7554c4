import FragmentFeed.Text.Digit

/-!
# Shortest decimals

A binary floating-point number stands for all the reals that round to it. Of the decimals among
them, `shortest` takes one with the fewest digits, and of those the one nearest to the number. All
arithmetic is on natural numbers.
-/

namespace FragmentFeed.Text

/-- The number `significand * 2 ^ exponent`, with what tells its neighbours: the one below is at half
the distance of the one above where `narrowBelow` holds. -/
structure Binary where
  significand : Nat
  exponent : Int
  narrowBelow : Bool
  deriving DecidableEq, Repr

/-- The number `significand * 10 ^ exponent`. -/
structure Decimal where
  significand : Nat
  exponent : Int
  deriving DecidableEq, Repr

/-- Takes apart the magnitude of a finite number of double precision, given by its bits. -/
def Binary.ofBits (bits : UInt64) : Binary :=
  let fraction : Nat := bits.toNat % Nat.pow 2 52
  let field : Nat := bits.toNat / Nat.pow 2 52 % Nat.pow 2 11
  if field = 0 then ⟨fraction, -1074, false⟩
  else ⟨fraction + Nat.pow 2 52, (field : Int) - 1075, fraction = 0 ∧ 1 < field⟩

namespace Binary

/-- Numerator and denominator of a quarter of the last place of the significand. -/
def quarter (b : Binary) : Nat × Nat :=
  if 2 ≤ b.exponent then (Nat.pow 2 (b.exponent - 2).toNat, 1)
  else (1, Nat.pow 2 (2 - b.exponent).toNat)

/-- The power of ten of the first digit of `num / den`, which is not zero. -/
def leadingPower (num den : Nat) : Int :=
  if den ≤ num then ((Digit.decimal (num / den)).length : Int) - 1
  else -((Digit.decimal ((den - 1) / num)).length : Int)

/-- Whether `d` steps of `10 ^ power` round to the number. -/
def reaches (b : Binary) (d : Nat) (power : Int) : Bool :=
  let (n, k) := b.quarter
  let (up, down) :=
    if 0 ≤ power then (Nat.pow 10 power.toNat, 1) else (1, Nat.pow 10 (-power).toNat)
  let value := d * up * k
  let least := (4 * b.significand - (if b.narrowBelow then 1 else 2)) * n * down
  let greatest := (4 * b.significand + 2) * n * down
  if b.significand % 2 = 0 then least ≤ value && value ≤ greatest
  else least < value && value < greatest

/-- The steps of `10 ^ power` nearest to the number among those that round to it; of two at one
distance the even one. -/
def onGrid? (b : Binary) (power : Int) : Option Nat :=
  let (n, k) := b.quarter
  let (up, down) :=
    if 0 ≤ power then (Nat.pow 10 power.toNat, 1) else (1, Nat.pow 10 (-power).toNat)
  let value := 4 * b.significand * n * down
  let step := up * k
  let low := value / step
  let lowFits := 0 < low && b.reaches low power
  let highFits := b.reaches (low + 1) power
  let lowNearer := 2 * (value - low * step) < step
    || (2 * (value - low * step) = step && low % 2 = 0)
  if lowFits && (lowNearer || !highFits) then some low
  else if highFits then some (low + 1)
  else none

/-- Tries ever finer grids, at most `n` of them. -/
def search (b : Binary) (power : Int) : (n : Nat) → Decimal
  | 0 => ⟨0, 0⟩
  | n + 1 =>
    match b.onGrid? power with
    | some d => ⟨d, power⟩
    | none => b.search (power - 1) n

/-- The shortest decimal. The first grid is that of the power of ten above the number; seventeen
digits tell any two numbers of double precision apart. -/
def shortest (b : Binary) : Decimal :=
  if b.significand = 0 then ⟨0, 0⟩
  else
    let (n, k) := b.quarter
    b.search (leadingPower (4 * b.significand * n) k + 1) 18

end Binary

end FragmentFeed.Text
