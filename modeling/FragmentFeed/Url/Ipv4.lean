import FragmentFeed.Text.Digit
import FragmentFeed.Text.Pieces

/-!
# IPv4 addresses

A host whose last label is a number is an IPv4 address or an error. The labels are numbers in
decimal, octal (a leading `0`) or hexadecimal (a leading `0x`); all but the last are one byte, and
the last one fills the bytes that are left.
-/

namespace FragmentFeed

/-- An IPv4 address. -/
structure Ipv4 where
  value : UInt32
  deriving DecidableEq, Repr

namespace Ipv4

open Text

/-- A number of one label. -/
inductive Number where
  /-- A number below 2^32. -/
  | value (n : Nat)
  /-- The digits are fine and their value is not. -/
  | tooLarge
  /-- Not a number. -/
  | malformed
  deriving DecidableEq, Repr

/-- The number a text of digits stands for; no digits stand for zero. -/
def ofDigits (base : Nat) (cs : List Char) : Number :=
  match Digit.gather? base 0 cs with
  | none => .malformed
  | some n => if n < UInt32.size then .value n else .tooLarge

/-- Reads one label. -/
def number : List Char → Number
  | [] => .malformed
  | '0' :: 'x' :: rest => ofDigits 16 rest
  | '0' :: 'X' :: rest => ofDigits 16 rest
  | '0' :: d :: rest => ofDigits 8 (d :: rest)
  | cs => ofDigits 10 cs

/-- The labels of a host: the parts between its dots, less an empty one at the end. -/
def labels (host : List Char) : List (List Char) :=
  let parts := pieces (· = '.') host
  if parts.length > 1 ∧ parts.getLast? = some [] then parts.dropLast else parts

/-- Whether the last label of a host is a number, so that the host is an address or nothing. -/
def endsInNumber (host : List Char) : Bool :=
  match (labels host).getLast? with
  | none => false
  | some [] => false
  | some last => last.all Char.isDigit || number last != .malformed

/-- The address that the numbers of the labels make: each but the last is one byte. -/
def ofNumbers : (place : Nat) → List Nat → Option Nat
  | _, [] => none
  | place, [n] => if n < Nat.pow 256 (place + 1) then some n else none
  | 0, _ :: _ :: _ => none
  | place + 1, n :: rest =>
    if n < 256 then (ofNumbers place rest).map (n * Nat.pow 256 (place + 1) + ·) else none

/-- Reads a host whose last label is a number. -/
def parse? (host : List Char) : Option Ipv4 := do
  let numbers ← (labels host).mapM fun l =>
    match number l with
    | .value n => some n
    | _ => none
  let n ← ofNumbers 3 numbers
  return ⟨UInt32.ofNat n⟩

/-- The four bytes in decimal with dots between them. -/
def toText (a : Ipv4) : List Char :=
  let n := a.value.toNat
  let byte (k : Nat) : List Char := Digit.decimal (n / Nat.pow 256 k % 256)
  byte 3 ++ '.' :: byte 2 ++ '.' :: byte 1 ++ '.' :: byte 0

end Ipv4

end FragmentFeed
