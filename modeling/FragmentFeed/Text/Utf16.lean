import FragmentFeed.Text.Utf8

/-!
# UTF-16

Pairs of bytes, in either order, to characters. A surrogate that stands alone, or a byte that has no
partner, becomes U+FFFD.
-/

namespace FragmentFeed.Text.Utf16

/-- The units that bytes make, and whether one byte is left over. -/
def units (bigEndian : Bool) : List UInt8 → List Nat × Bool
  | [] => ([], false)
  | [_] => ([], true)
  | a :: b :: rest =>
    let n := if bigEndian then a.toNat * 256 + b.toNat else b.toNat * 256 + a.toNat
    let r := units bigEndian rest
    (n :: r.1, r.2)

/-- Whether a unit is the first of a pair. -/
def isHigh (n : Nat) : Bool := 0xD800 ≤ n && n < 0xDC00

/-- Whether a unit is the second of a pair. -/
def isLow (n : Nat) : Bool := 0xDC00 ≤ n && n < 0xE000

/-- The character of a pair. -/
def ofPair (high low : Nat) : Char := Char.ofNat ((high - 0xD800) * 0x400 + (low - 0xDC00) + 0x10000)

/-- The characters of units. -/
def characters : List Nat → List Char
  | [] => []
  | [a] => [if isHigh a || isLow a then Utf8.replacement else Char.ofNat a]
  | a :: b :: rest =>
    if isHigh a && isLow b then
      ofPair a b :: characters rest
    else
      (if isHigh a || isLow a then Utf8.replacement else Char.ofNat a) :: characters (b :: rest)

/-- Reads any bytes. A byte left over behind half of a pair makes one U+FFFD with it. -/
def decodeLossy (bigEndian : Bool) (bs : List UInt8) : List Char :=
  let (us, odd) := units bigEndian bs
  let endsInHigh := (us.getLast?.map isHigh).getD false
  characters us ++ (if odd && !endsInHigh then [Utf8.replacement] else [])

end FragmentFeed.Text.Utf16
