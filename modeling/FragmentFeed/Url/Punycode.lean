/-!
# Punycode

The bootstring encoding of a label that holds characters beyond ASCII: its ASCII characters, a
hyphen, and for the others, in ascending order, the distance from one to the next as a number of
variable length in base 36. The threshold of each digit follows a bias that adapts to the distances
seen so far.

Each loop has a measure: `reduce` divides by 35, `writeNumber` shrinks its number, `decodeFrom`
shrinks its input.
-/

namespace FragmentFeed.Punycode

/-- The digit for a value: `a` to `z`, then `0` to `9`. -/
def digit (d : Nat) : Char := if d < 26 then Char.ofNat (0x61 + d) else Char.ofNat (0x30 + d - 26)

/-- The value of a digit of either case. -/
def value? (c : Char) : Option Nat :=
  if 'a' ≤ c ∧ c ≤ 'z' then some (c.toNat - 0x61)
  else if 'A' ≤ c ∧ c ≤ 'Z' then some (c.toNat - 0x41)
  else if '0' ≤ c ∧ c ≤ '9' then some (c.toNat - 0x30 + 26)
  else none

theorem value?_digit {d : Nat} (h : d < 36) : value? (digit d) = some d := by
  have hall : ∀ e ∈ List.range 36, value? (digit e) = some e := by decide
  exact hall d (List.mem_range.mpr h)

/-- The threshold of the digit at place `k`: a digit below it ends the number. -/
def threshold (k bias : Nat) : Nat :=
  if k ≤ bias then 1 else if bias + 26 ≤ k then 26 else k - bias

theorem threshold_pos (k bias : Nat) : 1 ≤ threshold k bias := by
  unfold threshold; split
  · omega
  · split <;> omega

theorem threshold_le (k bias : Nat) : threshold k bias ≤ 26 := by
  unfold threshold; split
  · omega
  · split <;> omega

/-- Divides by 35 until at most 455 is left; gives the places that took and what is left. -/
def reduce (places delta : Nat) : Nat × Nat :=
  if 455 < delta then reduce (places + 36) (delta / 35) else (places, delta)
termination_by delta
decreasing_by exact Nat.div_lt_self (by omega) (by omega)

/-- The bias after a distance `delta`, with `count` characters in place. -/
def adapt (delta count : Nat) (first : Bool) : Nat :=
  let d := if first then delta / 700 else delta / 2
  let r := reduce 0 (d + d / count)
  r.1 + 36 * r.2 / (r.2 + 38)

/-! ## Writing -/

/-- A number, least significant digit first, from place `k` on. -/
def writeNumber (bias k n : Nat) : List Char :=
  let t := threshold k bias
  if n < t then [digit n]
  else digit (t + (n - t) % (36 - t)) :: writeNumber bias (k + 36) ((n - t) / (36 - t))
termination_by n
decreasing_by
  have h1 := threshold_pos k bias
  have h2 := threshold_le k bias
  calc (n - threshold k bias) / (36 - threshold k bias)
      ≤ n - threshold k bias := Nat.div_le_self _ _
    _ < n := by omega

/-- What is known in the middle of writing: the text so far, the distance since the last character
written, the bias and the number of characters handled. -/
structure Progress where
  text : List Char
  delta : Nat
  bias : Nat
  handled : Nat

/-- Passes over one character of the label while characters of value `m` are being written; `basic`
counts the ASCII characters. -/
def Progress.pass (basic m : Nat) (p : Progress) (c : Char) : Progress :=
  if c.toNat < m then { p with delta := p.delta + 1 }
  else if c.toNat = m then
    { text := p.text ++ writeNumber p.bias 36 p.delta
      delta := 0
      bias := adapt p.delta (p.handled + 1) (p.handled = basic)
      handled := p.handled + 1 }
  else p

/-- Writes the characters of each of the values, which ascend from `n` on. -/
def writeValues (label : List Char) (basic : Nat) : (n : Nat) → List Nat → Progress → Progress
  | _, [], p => p
  | n, m :: rest, p =>
    let p := { p with delta := p.delta + (m - n) * (p.handled + 1) }
    let p := label.foldl (Progress.pass basic m) p
    writeValues label basic (m + 1) rest { p with delta := p.delta + 1 }

/-- Ascending, each value once. -/
def ascending (values : List Nat) : List Nat := (values.mergeSort (· ≤ ·)).eraseReps

/-- The encoding of a label. -/
def encode (label : List Char) : List Char :=
  let basic := label.filter (·.toNat < 0x80)
  let values := ascending ((label.filter (0x80 ≤ ·.toNat)).map Char.toNat)
  let start : Progress := { text := [], delta := 0, bias := 72, handled := basic.length }
  basic ++ (if basic.isEmpty then [] else ['-'])
    ++ (writeValues label basic.length 0x80 values start).text

/-! ## Reading -/

/-- Reads a number from place `k` on, its digits weighing `w` and more, onto `i`. -/
def readNumber (bias : Nat) : (k w i : Nat) → List Char → Option (Nat × List Char)
  | _, _, _, [] => none
  | k, w, i, c :: rest =>
    match value? c with
    | none => none
    | some d =>
      if d < threshold k bias then some (i + d * w, rest)
      else readNumber bias (k + 36) (w * (36 - threshold k bias)) (i + d * w) rest

theorem readNumber_length_lt : ∀ (bias k w i : Nat) (cs : List Char) (r : Nat × List Char),
    readNumber bias k w i cs = some r → r.2.length < cs.length
  | _, _, _, _, [], _, h => by simp [readNumber] at h
  | bias, k, w, i, c :: rest, r, h => by
    rw [readNumber] at h
    split at h
    · simp at h
    · split at h
      · rw [← Option.some.inj h]; simp
      · have := readNumber_length_lt bias (k + 36) _ _ rest r h
        simp; omega

/-- Puts one character after another into the label: `n` is the value reached and `i` the place. -/
def decodeFrom (bias n i : Nat) (label : List Char) : List Char → Option (List Char)
  | [] => some label
  | c :: rest =>
    match _h : readNumber bias 36 1 i (c :: rest) with
    | none => none
    | some (j, more) =>
      let count := label.length + 1
      let m := n + j / count
      if m < 0xD800 ∨ 0xDFFF < m ∧ m < 0x110000 then
        decodeFrom (adapt (j - i) count (i = 0)) m (j % count + 1)
          (label.insertIdx (j % count) (Char.ofNat m)) more
      else none
termination_by cs => cs.length
decreasing_by
  have := readNumber_length_lt bias 36 1 i (c :: rest) (j, more) _h
  simpa using this

/-- The text before the last hyphen and the text after it; all of it is after, if there is nothing before. -/
def splitLastHyphen (cs : List Char) : List Char × List Char :=
  match (cs.reverse.dropWhile (· != '-')).drop 1 with
  | [] => ([], cs)
  | basic => (basic.reverse, (cs.reverse.takeWhile (· != '-')).reverse)

/-- The label that an encoding stands for. -/
def decode? (cs : List Char) : Option (List Char) :=
  let (basic, rest) := splitLastHyphen cs
  if basic.any (0x80 ≤ ·.toNat) then none else decodeFrom 72 0x80 0 basic rest

end FragmentFeed.Punycode
