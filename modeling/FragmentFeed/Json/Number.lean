import FragmentFeed.Json.Fault
import FragmentFeed.Text.Shortest

/-!
# Numbers of a JSON text

`numeral` takes a number apart into its digits, which is all that is needed to skip it. `found` is
the number as a message shows it: a whole number of at most 64 bits as it is, anything else as the
shortest decimal of the nearest number of double precision, or nearly nearest, as digits beyond the
64th bit count for their places only.
-/

namespace FragmentFeed.Json

open Text

/-- The digits of a number. -/
structure Numeral where
  integer : List Char
  /-- Empty where there is no point. -/
  fraction : List Char
  /-- Whether the exponent is negative, and its digits. -/
  exponent : Option (Bool × List Char)
  deriving DecidableEq, Repr

/-- Whether a character is a decimal digit. -/
def isDigit (c : Char) : Bool := '0' ≤ c && c ≤ '9'

/-- Whether a character begins an exponent. -/
def isExponentMark (c : Char) : Bool := c = 'e' || c = 'E'

/-- Digits, at least one. `atEnd` is what is wrong where the text ends instead. -/
def digits (atEnd : Cause) (cs : List Char) : Result (List Char) :=
  match cs.takeWhile isDigit with
  | [] => .error (.on (if cs.isEmpty then atEnd else .invalidNumber) cs)
  | ds => .ok (ds, cs.dropWhile isDigit)

/-- The digits before the point; a zero stands alone. -/
def integerDigits (atEnd : Cause) (cs : List Char) : Result (List Char) :=
  match digits atEnd cs with
  | .ok ('0' :: d :: ds, rest) => .error (.on .invalidNumber (d :: ds ++ rest))
  | r => r

/-- The point and the digits behind it, if there is a point. -/
def fractionDigits (atEnd : Cause) : List Char → Result (List Char)
  | '.' :: rest => digits atEnd rest
  | cs => .ok ([], cs)

/-- The exponent, if there is one. -/
def exponentDigits (atEnd : Cause) : List Char → Result (Option (Bool × List Char))
  | c :: rest =>
    if isExponentMark c then
      let (negative, rest') :=
        match rest with
        | '+' :: r => (false, r)
        | '-' :: r => (true, r)
        | r => (false, r)
      (digits atEnd rest').map fun r => (some (negative, r.1), r.2)
    else .ok (none, c :: rest)
  | [] => .ok (none, [])

/-- A number without its sign. -/
def numeral (atEnd : Cause) (cs : List Char) : Result Numeral :=
  match integerDigits atEnd cs with
  | .error e => .error e
  | .ok (integer, r₁) =>
    match fractionDigits atEnd r₁ with
    | .error e => .error e
    | .ok (fraction, r₂) =>
      match exponentDigits atEnd r₂ with
      | .error e => .error e
      | .ok (exponent, r₃) => .ok (⟨integer, fraction, exponent⟩, r₃)

/-! ## What is left behind a number -/

theorem digits_length {atEnd : Cause} {cs ds rest : List Char}
    (h : digits atEnd cs = .ok (ds, rest)) : rest.length < cs.length := by
  unfold digits at h
  split at h
  · simp at h
  · next hne =>
    simp only [Except.ok.injEq, Prod.mk.injEq] at h
    have hlen := congrArg List.length (List.takeWhile_append_dropWhile (p := isDigit) (l := cs))
    rw [List.length_append, h.2] at hlen
    have : 0 < (cs.takeWhile isDigit).length := List.length_pos_iff.mpr hne
    omega

theorem integerDigits_length {atEnd : Cause} {cs ds rest : List Char}
    (h : integerDigits atEnd cs = .ok (ds, rest)) : rest.length < cs.length := by
  unfold integerDigits at h
  split at h
  · simp at h
  · exact digits_length h

theorem fractionDigits_length {atEnd : Cause} {cs ds rest : List Char}
    (h : fractionDigits atEnd cs = .ok (ds, rest)) : rest.length ≤ cs.length := by
  unfold fractionDigits at h
  split at h
  · have := digits_length h
    simp
    omega
  · simp only [Except.ok.injEq, Prod.mk.injEq] at h
    simp [h.2]

theorem exponentDigits_length {atEnd : Cause} {cs rest : List Char} {e : Option (Bool × List Char)}
    (h : exponentDigits atEnd cs = .ok (e, rest)) : rest.length ≤ cs.length := by
  unfold exponentDigits at h
  split at h
  · split at h
    · next c tail _ =>
      have hsign : (match tail with
          | '+' :: r => (false, r)
          | '-' :: r => (true, r)
          | r => (false, r)).2.length ≤ tail.length := by
        split <;> simp
      simp only at h
      cases hd : digits atEnd (match tail with
          | '+' :: r => (false, r)
          | '-' :: r => (true, r)
          | r => (false, r)).2 with
      | error f => simp [hd, Except.map] at h
      | ok r =>
        obtain ⟨ds, rest'⟩ := r
        have := digits_length hd
        simp only [hd, Except.map, Except.ok.injEq, Prod.mk.injEq] at h
        simp only [List.length_cons, ← h.2]
        omega
    · simp only [Except.ok.injEq, Prod.mk.injEq] at h
      simp [← h.2]
  · simp only [Except.ok.injEq, Prod.mk.injEq] at h
    simp [← h.2]

theorem numeral_length {atEnd : Cause} {cs rest : List Char} {n : Numeral}
    (h : numeral atEnd cs = .ok (n, rest)) : rest.length < cs.length := by
  unfold numeral at h
  split at h
  · simp at h
  · next h₁ =>
    split at h
    · simp at h
    · next h₂ =>
      split at h
      · simp at h
      · next h₃ =>
        simp only [Except.ok.injEq, Prod.mk.injEq] at h
        have := integerDigits_length h₁
        have := fractionDigits_length h₂
        have := exponentDigits_length h₃
        rw [← h.2]
        omega

/-! ## The number in a message -/

/-- Puts digits behind the number `n` as long as it stays below `limit`; the number and how many of
the digits it took. -/
def absorb (limit n : Nat) : List Char → Nat × Nat
  | [] => (n, 0)
  | c :: rest =>
    let m := n * 10 + (Digit.value? 10 c).getD 0
    if m < limit then
      let r := absorb limit m rest
      (r.1, r.2 + 1)
    else (n, 0)

/-- A power of ten that double precision holds. -/
def powerOfTen (k : Nat) : Float := Float.ofScientific 1 false k

/-- The quotient `x / 10 ^ k`, in steps of what double precision holds. -/
def shrink (x : Float) (k : Nat) : Float :=
  if k ≤ 308 then x / powerOfTen k
  else if x == 0 then x
  else shrink (x / powerOfTen 308) (k - 308)
termination_by k

/-- The product `n * 10 ^ power`, unless it is too large. -/
def scaled? (n : Nat) (power : Int) : Option Float :=
  let x := Float.ofNat n
  if power < 0 then some (shrink x (-power).toNat)
  else if power ≤ 308 then
    let y := x * powerOfTen power.toNat
    if y.isInf then none else some y
  else if n = 0 then some x
  else none

/-- A decimal with a point: positional for moderate exponents, else one digit before the point and
an exponent with its sign. -/
def decimalText (d : Decimal) : List Char :=
  let ds := Digit.decimal d.significand
  let leading : Int := d.exponent + ds.length - 1
  if -5 ≤ leading ∧ leading ≤ 15 then
    if 0 ≤ d.exponent then ds ++ List.replicate d.exponent.toNat '0' ++ ['.', '0']
    else if 0 ≤ leading then ds.take (leading.toNat + 1) ++ '.' :: ds.drop (leading.toNat + 1)
    else '0' :: '.' :: List.replicate (-leading - 1).toNat '0' ++ ds
  else
    let point := match ds.drop 1 with
      | [] => []
      | tail => '.' :: tail
    ds.take 1 ++ point ++ 'e' :: (if leading < 0 then '-' else '+') :: Digit.decimal leading.natAbs

/-- A number of double precision, which is not negative, behind its sign. -/
def floatText (negative : Bool) (x : Float) : List Char :=
  (if negative then ['-'] else []) ++ decimalText (Binary.ofBits x.toBits).shortest

/-- How a message shows a number that is followed by `rest`. -/
def Numeral.found (negative : Bool) (n : Numeral) (rest : List Char) : Except Fault Found :=
  let (whole, taken) := absorb UInt64.size 0 n.integer
  let dropped := n.integer.length - taken
  if n.fraction.isEmpty && n.exponent.isNone && dropped = 0 then
    if !negative then .ok (.integer (Digit.decimal whole))
    else if whole = 0 || UInt64.size / 2 < whole then .ok (.floating (floatText true (Float.ofNat whole)))
    else .ok (.integer ('-' :: Digit.decimal whole))
  else
    let (significand, places) := absorb UInt64.size whole n.fraction
    let power : Int := (dropped : Int) - places
    match n.exponent with
    | none => ofParts significand power
    | some (shrinks, ds) =>
      let (e, read) := absorb (UInt32.size / 2) 0 ds
      if read < ds.length then
        if significand ≠ 0 && !shrinks then
          .error (.before .numberOutOfRange (ds.drop (read + 1) ++ rest))
        else .ok (.floating (floatText negative 0))
      else ofParts significand (if shrinks then power - e else power + e)
where
  ofParts (significand : Nat) (power : Int) : Except Fault Found :=
    match scaled? significand power with
    | some x => .ok (.floating (floatText negative x))
    | none => .error (.before .numberOutOfRange rest)

end FragmentFeed.Json
