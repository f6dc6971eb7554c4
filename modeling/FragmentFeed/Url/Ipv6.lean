import FragmentFeed.Text.Digit

/-!
# IPv6 addresses

Eight pieces of sixteen bits. A text may leave out one run of zero pieces by `::` and may write the
last two pieces as an IPv4 address. Written form: lower-case hexadecimal without leading zeros, the
first longest run of two or more zero pieces left out.
-/

namespace FragmentFeed

/-- An IPv6 address: its eight pieces from the most significant one. -/
structure Ipv6 where
  pieces : List UInt16
  length_eq : pieces.length = 8
  deriving DecidableEq, Repr

namespace Ipv6

open Text

/-- At most `n` hexadecimal digits off the front: their value and what is left. -/
def takeHex : (n : Nat) → (acc : Nat) → List Char → Nat × List Char
  | 0, acc, cs => (acc, cs)
  | _ + 1, acc, [] => (acc, [])
  | n + 1, acc, c :: rest =>
    match Digit.value? 16 c with
    | some d => takeHex n (acc * 16 + d) rest
    | none => (acc, c :: rest)

theorem takeHex_length_le : ∀ (n acc : Nat) (cs : List Char),
    (takeHex n acc cs).2.length ≤ cs.length
  | 0, _, _ => by simp [takeHex]
  | _ + 1, _, [] => by simp [takeHex]
  | n + 1, acc, c :: rest => by
    rw [takeHex]
    split
    · exact Nat.le_trans (takeHex_length_le n _ rest) (by simp)
    · simp

/-- A decimal byte without a leading zero: its value and what is left. -/
def takeByte : (seen : Option Nat) → List Char → Option (Nat × List Char)
  | seen, [] => seen.map (·, [])
  | seen, c :: rest =>
    if c.isDigit then
      match seen with
      | none => takeByte (some (c.toNat - 0x30)) rest
      | some 0 => none
      | some n =>
        if n * 10 + (c.toNat - 0x30) ≤ 255 then takeByte (some (n * 10 + (c.toNat - 0x30))) rest
        else none
    else seen.map (·, c :: rest)

/-- The two pieces of an IPv4 address at the end of the text. -/
def embeddedIpv4 (cs : List Char) : Option (List UInt16) := do
  let (a, r) ← takeByte none cs
  let r ← afterDot r
  let (b, r) ← takeByte none r
  let r ← afterDot r
  let (c, r) ← takeByte none r
  let r ← afterDot r
  let (d, r) ← takeByte none r
  if r.isEmpty then some [UInt16.ofNat (a * 256 + b), UInt16.ofNat (c * 256 + d)] else none
where
  afterDot : List Char → Option (List Char)
    | '.' :: r => some r
    | _ => none

/-- The pieces read so far, and how many of them stand before the run that was left out. -/
structure Partial where
  pieces : List UInt16
  gap : Option Nat

/-- One more piece. -/
def Partial.push (p : Partial) (n : Nat) : Partial :=
  { p with pieces := p.pieces ++ [UInt16.ofNat n] }

/-- Reads pieces to the end of the text. The run that `::` leaves out counts as one zero piece until
the text has ended. -/
def readPieces (p : Partial) : List Char → Option Partial
  | [] => some p
  | c :: rest =>
    if p.pieces.length = 8 then none
    else if c = ':' then
      if p.gap.isSome then none
      else readPieces { pieces := p.pieces ++ [0], gap := some (p.pieces.length + 1) } rest
    else
      match _hr : takeHex 4 0 (c :: rest) with
      | (n, []) => some (p.push n)
      | (_, '.' :: r) =>
        if '.' :: r = c :: rest ∨ 6 < p.pieces.length then none
        else (embeddedIpv4 (c :: rest)).map fun two => { p with pieces := p.pieces ++ two }
      | (_, [':']) => none
      | (n, ':' :: d :: r) => readPieces (p.push n) (d :: r)
      | (_, _ :: _) => none
termination_by cs => cs.length
decreasing_by
  · simp
  · have := takeHex_length_le 4 0 (c :: rest)
    rw [_hr] at this
    simp at this ⊢
    omega

/-- Puts back the zero pieces that were left out. -/
def Partial.complete (p : Partial) : List UInt16 :=
  match p.gap with
  | none => p.pieces
  | some k => p.pieces.take k ++ List.replicate (8 - p.pieces.length) 0 ++ p.pieces.drop k

/-- Where the pieces begin: behind a run that is left out in front, which counts as read. -/
def start : List Char → Option (Partial × List Char)
  | [] => none
  | [_] => none
  | c :: d :: rest =>
    if c = ':' then if d = ':' then some (⟨[0], some 1⟩, rest) else none
    else some (⟨[], none⟩, c :: d :: rest)

/-- Reads the text between the brackets. -/
def parse? (cs : List Char) : Option Ipv6 :=
  ((start cs).bind fun s => readPieces s.1 s.2).bind fun p =>
    if h : p.complete.length = 8 then some ⟨p.complete, h⟩ else none

/-- Lower-case hexadecimal without leading zeros. -/
def hexText (n : UInt16) : List Char := Nat.toDigits 16 n.toNat

/-- The length of the run of zeros at the front. -/
def zeroRun : List UInt16 → Nat
  | [] => 0
  | p :: rest => if p = 0 then zeroRun rest + 1 else 0

/-- Where the first longest run of zeros begins and how long it is, the pieces being counted from
`i`. -/
def longestRun : (i : Nat) → List UInt16 → Nat × Nat
  | _, [] => (0, 0)
  | i, p :: rest =>
    let here := zeroRun (p :: rest)
    let later := longestRun (i + 1) rest
    if later.2 ≤ here then (i, here) else later

/-- Pieces with colons between them. -/
def joinPieces : List UInt16 → List Char
  | [] => []
  | [p] => hexText p
  | p :: rest => hexText p ++ ':' :: joinPieces rest

/-- The written form. -/
def toText (a : Ipv6) : List Char :=
  let run := longestRun 0 a.pieces
  if run.2 < 2 then joinPieces a.pieces
  else joinPieces (a.pieces.take run.1) ++ ':' :: ':' :: joinPieces (a.pieces.drop (run.1 + run.2))

end Ipv6

end FragmentFeed
