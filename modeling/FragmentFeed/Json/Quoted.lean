import FragmentFeed.Json.Fault
import FragmentFeed.Text.Digit
import FragmentFeed.Text.Utf16

/-!
# Strings of a JSON text

Both readers begin behind the opening quote and end behind the closing one. `string` keeps what the
string says, so it asks for escapes that make characters: a surrogate may only stand in a pair.
`skipString` wants no more than that each escape is well formed.
-/

namespace FragmentFeed.Json

open Text

/-- Whether a character may not stand in a string as itself. -/
def isControl (c : Char) : Bool := c.toNat < 0x20

/-- The character that a letter stands for behind a backslash. -/
def escaped? (c : Char) : Option Char :=
  if c = '"' ∨ c = '\\' ∨ c = '/' then some c
  else if c = 'b' then some '\x08'
  else if c = 'f' then some '\x0c'
  else if c = 'n' then some '\n'
  else if c = 'r' then some '\r'
  else if c = 't' then some '\t'
  else none

/-- Four hexadecimal digits. Whatever else the next four bytes are is wrong behind them. -/
def hexUnit (cs : List Char) : Result Nat :=
  match cs with
  | a :: b :: c :: d :: rest =>
    match Digit.gather? 16 0 [a, b, c, d] with
    | some n => .ok (n, rest)
    | none => broken cs
  | _ => broken cs
where
  broken (cs : List Char) : Result Nat :=
    if Utf8.byteLength cs < 4 then .error ⟨.endInString, 0⟩
    else .error ⟨.invalidEscape, Utf8.byteLength cs - 4⟩

/-- The second half of a surrogate pair, escape and all. -/
def lowSurrogate (high : Nat) : List Char → Result Char
  | '\\' :: 'u' :: rest =>
    match hexUnit rest with
    | .error e => .error e
    | .ok (low, rest') =>
      if Utf16.isLow low then .ok (Utf16.ofPair high low, rest')
      else .error (.before .loneSurrogate rest')
  | '\\' :: [] => .error (.before .endInString [])
  | '\\' :: rest => .error (.on .brokenSurrogatePair rest)
  | [] => .error (.before .endInString [])
  | rest => .error (.on .brokenSurrogatePair rest)

/-- The character of an escape, the backslash being read. -/
def escape : List Char → Result Char
  | [] => .error (.before .endInString [])
  | 'u' :: rest =>
    match hexUnit rest with
    | .error e => .error e
    | .ok (n, rest') =>
      if Utf16.isLow n then .error (.before .loneSurrogate rest')
      else if Utf16.isHigh n then lowSurrogate n rest'
      else .ok (Char.ofNat n, rest')
  | c :: rest =>
    match escaped? c with
    | some d => .ok (d, rest)
    | none => .error (.on .invalidEscape (c :: rest))

/-- What an escape leaves, the backslash being read, whatever it stands for. -/
def skipEscape : List Char → Except Fault (List Char)
  | [] => .error (.before .endInString [])
  | 'u' :: rest => (hexUnit rest).map (·.2)
  | c :: rest =>
    match escaped? c with
    | some _ => .ok rest
    | none => .error (.on .invalidEscape (c :: rest))

theorem hexUnit_length {cs rest : List Char} {n : Nat} (h : hexUnit cs = .ok (n, rest)) :
    rest.length < cs.length := by
  unfold hexUnit hexUnit.broken at h
  split at h
  · split at h
    · simp only [Except.ok.injEq, Prod.mk.injEq] at h
      simp [← h.2]
      omega
    · split at h <;> simp at h
  · split at h <;> simp at h

theorem lowSurrogate_length {high : Nat} {cs rest : List Char} {c : Char}
    (h : lowSurrogate high cs = .ok (c, rest)) : rest.length < cs.length := by
  unfold lowSurrogate at h
  split at h
  · split at h
    · simp at h
    · next hx =>
      split at h
      · simp only [Except.ok.injEq, Prod.mk.injEq] at h
        have := hexUnit_length hx
        simp [← h.2]
        omega
      · simp at h
  all_goals simp at h

theorem escape_length {cs rest : List Char} {c : Char} (h : escape cs = .ok (c, rest)) :
    rest.length < cs.length := by
  unfold escape at h
  split at h
  · simp at h
  · split at h
    · simp at h
    · next hx =>
      have := hexUnit_length hx
      split at h
      · simp at h
      · split at h
        · have := lowSurrogate_length h
          simp
          omega
        · simp only [Except.ok.injEq, Prod.mk.injEq] at h
          simp [← h.2]
          omega
  · split at h
    · simp only [Except.ok.injEq, Prod.mk.injEq] at h
      simp [← h.2]
    · simp at h

theorem skipEscape_length {cs rest : List Char} (h : skipEscape cs = .ok rest) :
    rest.length < cs.length := by
  unfold skipEscape at h
  split at h
  · simp at h
  · next cs' =>
    cases hx : hexUnit cs' with
    | error e => simp [hx, Except.map] at h
    | ok r =>
      obtain ⟨n, rest'⟩ := r
      simp [hx, Except.map] at h
      have := hexUnit_length hx
      simp [← h]
      omega
  · split at h
    · simp only [Except.ok.injEq] at h
      simp [← h]
    · simp at h

/-- The rest of a string, whose characters so far are in `read`, last first. -/
def stringFrom (read : List Char) : List Char → Result (List Char)
  | [] => .error (.before .endInString [])
  | c :: rest =>
    if c = '"' then .ok (read.reverse, rest)
    else if c = '\\' then
      match _h : escape rest with
      | .error e => .error e
      | .ok (d, rest') => stringFrom (d :: read) rest'
    else if isControl c then .error (.before .controlCharacter rest)
    else stringFrom (c :: read) rest
termination_by cs => cs.length
decreasing_by
  · have := escape_length _h
    simp
    omega
  · simp

/-- The text of a string. -/
def string (cs : List Char) : Result (List Char) := stringFrom [] cs

/-- What a string leaves. -/
def skipString : List Char → Except Fault (List Char)
  | [] => .error (.before .endInString [])
  | c :: rest =>
    if c = '"' then .ok rest
    else if c = '\\' then
      match _h : skipEscape rest with
      | .error e => .error e
      | .ok rest' => skipString rest'
    else if isControl c then .error (.before .controlCharacter (c :: rest))
    else skipString rest
termination_by cs => cs.length
decreasing_by
  · have := skipEscape_length _h
    simp
    omega
  · simp

theorem stringFrom_length : ∀ (cs read : List Char) {s rest : List Char},
    stringFrom read cs = .ok (s, rest) → rest.length < cs.length := by
  intro cs read
  fun_induction stringFrom read cs with
  | case1 => simp
  | case2 =>
    intro s rest h
    simp only [Except.ok.injEq, Prod.mk.injEq] at h
    simp [← h.2]
  | case3 => simp
  | case4 _ rest d rest' hx _ ih =>
    intro s r h
    have := ih h
    have := escape_length hx
    simp
    omega
  | case5 => simp
  | case6 _ _ _ _ _ _ ih =>
    intro s r h
    have := ih h
    simp
    omega

theorem string_length {cs s rest : List Char} (h : string cs = .ok (s, rest)) :
    rest.length < cs.length :=
  stringFrom_length cs [] h

theorem skipString_length : ∀ (cs : List Char) {rest : List Char},
    skipString cs = .ok rest → rest.length < cs.length := by
  intro cs
  fun_induction skipString cs with
  | case1 => simp
  | case2 =>
    intro rest h
    simp only [Except.ok.injEq] at h
    simp [← h]
  | case3 => simp
  | case4 rest rest' hx _ ih =>
    intro r h
    have := ih h
    have := skipEscape_length hx
    simp
    omega
  | case5 => simp
  | case6 _ _ _ _ _ ih =>
    intro r h
    have := ih h
    simp
    omega

end FragmentFeed.Json
