/-!
# UTF-8

Bytes to characters and back. `encode` writes; `decode?` reads text that must be well formed;
`decodeLossy` reads anything and puts U+FFFD where a sequence is malformed, one for each maximal
part that could have begun a character.

Both readers are built on `next`, which takes one character, or one malformed part, off the front.
It never gives back more than it was given, so the length of the rest is the measure of both.
-/

namespace FragmentFeed.Text.Utf8

/-- The UTF-8 bytes of a text. -/
def encode (cs : List Char) : List UInt8 := cs.flatMap String.utf8EncodeChar

/-- The number of UTF-8 bytes of a text. -/
def byteLength (cs : List Char) : Nat := cs.foldr (fun c n => c.utf8Size + n) 0

/-- A text cut behind so many bytes; `none` where they end within a character or there are less of them. -/
def cutAt? : Nat → List Char → Option (List Char × List Char)
  | 0, cs => some ([], cs)
  | _ + 1, [] => none
  | n + 1, c :: cs =>
    if c.utf8Size ≤ n + 1 then (cutAt? (n + 1 - c.utf8Size) cs).map fun x => (c :: x.1, x.2)
    else none

/-- What a lead byte announces: how many bytes follow it, the range of the first of them, and the
bits of the character that the lead byte holds. -/
structure Lead where
  tails : Nat
  least : UInt8
  greatest : UInt8
  bits : Nat

/-- Reads a byte above `0x7F` as a lead byte. The ranges leave out overlong forms, surrogates and
everything beyond U+10FFFF. -/
def lead? (b : UInt8) : Option Lead :=
  if b < 0xC2 then none
  else if b < 0xE0 then some ⟨1, 0x80, 0xBF, b.toNat - 0xC0⟩
  else if b = 0xE0 then some ⟨2, 0xA0, 0xBF, 0⟩
  else if b = 0xED then some ⟨2, 0x80, 0x9F, 13⟩
  else if b < 0xF0 then some ⟨2, 0x80, 0xBF, b.toNat - 0xE0⟩
  else if b = 0xF0 then some ⟨3, 0x90, 0xBF, 0⟩
  else if b < 0xF4 then some ⟨3, 0x80, 0xBF, b.toNat - 0xF0⟩
  else if b = 0xF4 then some ⟨3, 0x80, 0x8F, 4⟩
  else none

/-- Reads `n` continuation bytes, the first of them within the bounds, and gathers their bits onto
`acc`. Stops before the first byte that does not fit. -/
def tails : (n : Nat) → (least greatest : UInt8) → (acc : Nat) → List UInt8 →
    Option Nat × List UInt8
  | 0, _, _, acc, bs => (some acc, bs)
  | _ + 1, _, _, _, [] => (none, [])
  | n + 1, least, greatest, acc, b :: bs =>
    if least ≤ b && b ≤ greatest then tails n 0x80 0xBF (acc * 64 + (b.toNat - 0x80)) bs
    else (none, b :: bs)

theorem tails_length_le : ∀ (n : Nat) (lo hi : UInt8) (acc : Nat) (bs : List UInt8),
    (tails n lo hi acc bs).2.length ≤ bs.length
  | 0, _, _, _, _ => by simp [tails]
  | _ + 1, _, _, _, [] => by simp [tails]
  | n + 1, lo, hi, acc, b :: bs => by
    rw [tails]
    split
    · exact Nat.le_trans (tails_length_le n 0x80 0xBF _ bs) (by simp)
    · simp

/-- One character off the front, whose first byte is `b`: the character, or `none` for a malformed
part, and what is left. -/
def next (b : UInt8) (bs : List UInt8) : Option Char × List UInt8 :=
  if b < 0x80 then (some (Char.ofNat b.toNat), bs)
  else
    match lead? b with
    | none => (none, bs)
    | some l =>
      let r := tails l.tails l.least l.greatest l.bits bs
      (r.1.map Char.ofNat, r.2)

theorem next_length_le (b : UInt8) (bs : List UInt8) : (next b bs).2.length ≤ bs.length := by
  unfold next
  split
  · simp
  · split
    · simp
    · exact tails_length_le _ _ _ _ _

/-- Reads well-formed UTF-8; `none` where any part is malformed. -/
def decode? : List UInt8 → Option (List Char)
  | [] => some []
  | b :: bs =>
    match (next b bs).1 with
    | none => none
    | some c => (decode? (next b bs).2).map (c :: ·)
termination_by bs => bs.length
decreasing_by exact Nat.lt_succ_of_le (next_length_le b bs)

/-- The character that stands for a malformed part. -/
def replacement : Char := '\uFFFD'

/-- Reads any bytes; each malformed part becomes one U+FFFD. -/
def decodeLossy : List UInt8 → List Char
  | [] => []
  | b :: bs => (next b bs).1.getD replacement :: decodeLossy (next b bs).2
termination_by bs => bs.length
decreasing_by exact Nat.lt_succ_of_le (next_length_le b bs)

end FragmentFeed.Text.Utf8
