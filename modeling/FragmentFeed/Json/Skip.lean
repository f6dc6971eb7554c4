import FragmentFeed.Json.Number
import FragmentFeed.Json.Quoted

/-!
# Values that nobody asked for

`skipValue` reads any JSON value and keeps nothing of it. It is a machine with a stack of the
brackets that are open, so that no depth of nesting is too much, and every step either takes a
character or comes closer to a value.
-/

namespace FragmentFeed.Json

/-- Whether a character may stand between the parts of a text. -/
def isBlank (c : Char) : Bool := c = ' ' || c = '\n' || c = '\t' || c = '\r'

/-- The text from the first character on that is not blank. -/
def skipBlanks (cs : List Char) : List Char := cs.dropWhile isBlank

/-- What is left behind the letters of a word. -/
def word : (letters : List Char) → List Char → Except Fault (List Char)
  | [], cs => .ok cs
  | _ :: _, [] => .error (.before .endInValue [])
  | w :: ws, c :: cs => if c = w then word ws cs else .error (.on .expectedWord (c :: cs))

/-- What a value leaves that begins with `c` and has no parts. -/
def skipScalar (c : Char) (rest : List Char) : Except Fault (List Char) :=
  if c = 'n' then word ['u', 'l', 'l'] rest
  else if c = 't' then word ['r', 'u', 'e'] rest
  else if c = 'f' then word ['a', 'l', 's', 'e'] rest
  else if c = '"' then skipString rest
  else if c = '-' then (numeral .invalidNumber rest).map (·.2)
  else if isDigit c then (numeral .invalidNumber (c :: rest)).map (·.2)
  else .error (.on .expectedValue (c :: rest))

/-- What a bracket encloses. -/
inductive Bracket where
  | list
  | object
  deriving DecidableEq, Repr

namespace Bracket

/-- The closing bracket. -/
def closing : Bracket → Char
  | .list => ']'
  | .object => '\x7d'

/-- What is wrong where the text ends before the closing bracket. -/
def endCause : Bracket → Cause
  | .list => .endInList
  | .object => .endInObject

/-- What is wrong where neither a comma nor the closing bracket follows an item. -/
def noEndCause : Bracket → Cause
  | .list => .expectedListEnd
  | .object => .expectedObjectEnd

end Bracket

/-- The colon behind a key. -/
def colon (cs : List Char) : Except Fault (List Char) :=
  match skipBlanks cs with
  | [] => .error (.on .endInObject [])
  | ':' :: rest => .ok rest
  | c :: rest => .error (.on .expectedColon (c :: rest))

/-- What a key and its colon leave. -/
def skipKey (cs : List Char) : Except Fault (List Char) :=
  match skipBlanks cs with
  | [] => .error (.on .endInObject [])
  | '"' :: rest => (skipString rest).bind colon
  | c :: rest => .error (.on .keyNotString (c :: rest))

/-- What is to come. -/
inductive Awaited where
  | value
  /-- An item of a bracket, with its key where it has one. -/
  | item (b : Bracket)
  /-- The first item of a bracket, or its end. -/
  | opened (b : Bracket)
  /-- What stands behind a value. -/
  | closed
  deriving DecidableEq, Repr

/-- How many steps may pass before a character is taken. -/
def Awaited.rank : Awaited → Nat
  | .opened _ => 2
  | .item _ => 1
  | _ => 0

theorem skipBlanks_length (cs : List Char) : (skipBlanks cs).length ≤ cs.length :=
  (List.dropWhile_suffix isBlank).length_le

theorem rest_length_lt {cs rest : List Char} {c : Char} (h : skipBlanks cs = c :: rest) :
    rest.length < cs.length := by
  have := skipBlanks_length cs
  rw [h, List.length_cons] at this
  omega

theorem word_length : ∀ (letters cs : List Char) {rest : List Char},
    word letters cs = .ok rest → rest.length ≤ cs.length
  | [], cs, rest, h => by
    simp only [word, Except.ok.injEq] at h
    simp [h]
  | _ :: _, [], rest, h => by simp [word] at h
  | w :: ws, c :: cs, rest, h => by
    rw [word] at h
    split at h
    · have := word_length ws cs h
      simp
      omega
    · simp at h

theorem snd_of_map_snd {α : Type} {r : Result α} {rest : List Char}
    (h : r.map (·.2) = .ok rest) : ∃ a, r = .ok (a, rest) := by
  cases r with
  | error e => simp [Except.map] at h
  | ok p =>
    simp only [Except.map, Except.ok.injEq] at h
    exact ⟨p.1, by rw [← h]⟩

theorem skipScalar_length {c : Char} {cs rest : List Char} (h : skipScalar c cs = .ok rest) :
    rest.length ≤ cs.length := by
  unfold skipScalar at h
  split at h
  · exact word_length _ _ h
  split at h
  · exact word_length _ _ h
  split at h
  · exact word_length _ _ h
  split at h
  · exact Nat.le_of_lt (skipString_length _ h)
  split at h
  · obtain ⟨n, hn⟩ := snd_of_map_snd h
    exact Nat.le_of_lt (numeral_length hn)
  split at h
  · obtain ⟨n, hn⟩ := snd_of_map_snd h
    exact Nat.le_of_lt_succ (numeral_length hn)
  · simp at h

theorem colon_length {cs rest : List Char} (h : colon cs = .ok rest) : rest.length < cs.length := by
  have hb := skipBlanks_length cs
  unfold colon at h
  split at h
  · simp at h
  · next hc =>
    simp only [Except.ok.injEq] at h
    rw [hc, List.length_cons] at hb
    rw [← h]
    omega
  · simp at h

theorem skipKey_length {cs rest : List Char} (h : skipKey cs = .ok rest) :
    rest.length < cs.length := by
  have hb := skipBlanks_length cs
  unfold skipKey at h
  split at h
  · simp at h
  · next r hr =>
    cases hs : skipString r with
    | error e => simp [hs, Except.bind] at h
    | ok r' =>
      have := skipString_length _ hs
      simp only [hs, Except.bind] at h
      have := colon_length h
      rw [hr, List.length_cons] at hb
      omega
  · simp at h

/-- What is left when the value at hand and all the brackets around it are closed. -/
def skipFrom (awaited : Awaited) (around : List Bracket) (cs : List Char) :
    Except Fault (List Char) :=
  match awaited with
  | .value =>
    match _h : skipBlanks cs with
    | [] => .error (.on .endInValue [])
    | c :: rest =>
      if c = '[' then skipFrom (.opened .list) around rest
      else if c = '\x7b' then skipFrom (.opened .object) around rest
      else
        match _hs : skipScalar c rest with
        | .error e => .error e
        | .ok rest' => skipFrom .closed around rest'
  | .item .list => skipFrom .value (.list :: around) cs
  | .item .object =>
    match _hs : skipKey cs with
    | .error e => .error e
    | .ok rest' => skipFrom .value (.object :: around) rest'
  | .opened b =>
    match _h : skipBlanks cs with
    | [] => .error (.on b.endCause [])
    | c :: rest =>
      if c = b.closing then skipFrom .closed around rest
      else skipFrom (.item b) around (c :: rest)
  | .closed =>
    match around with
    | [] => .ok cs
    | b :: outer =>
      match _h : skipBlanks cs with
      | [] => .error (.on b.endCause [])
      | c :: rest =>
        if c = ',' then skipFrom (.item b) outer rest
        else if c = b.closing then skipFrom .closed outer rest
        else .error (.on b.noEndCause (c :: rest))
termination_by (cs.length, awaited.rank)
decreasing_by
  all_goals
    simp only [Prod.lex_def, Awaited.rank, List.length_cons]
    try have hlt := rest_length_lt _h
  · omega
  · omega
  · have := skipScalar_length _hs
    omega
  · simp
  · have := skipKey_length _hs
    omega
  all_goals omega

/-- What a value leaves. -/
def skipValue (cs : List Char) : Except Fault (List Char) := skipFrom .value [] cs

theorem skipFrom_length (awaited : Awaited) (around : List Bracket) (cs : List Char)
    {rest : List Char} (h : skipFrom awaited around cs = .ok rest) : rest.length ≤ cs.length := by
  fun_induction skipFrom awaited around cs with
  | case1 | case4 | case7 | case9 | case13 | case16 => simp at h
  | case2 _ _ _ hb ih | case3 _ _ _ hb _ ih | case10 _ _ _ _ hb ih | case14 _ _ _ _ hb ih
  | case15 _ _ _ _ hb _ ih =>
    exact Nat.le_trans (ih h) (Nat.le_of_lt (rest_length_lt hb))
  | case5 _ _ _ _ hb _ _ _ hs ih =>
    exact Nat.le_trans (ih h)
      (Nat.le_trans (skipScalar_length hs) (Nat.le_of_lt (rest_length_lt hb)))
  | case6 _ _ ih => exact ih h
  | case8 _ _ _ hs ih => exact Nat.le_trans (ih h) (Nat.le_of_lt (skipKey_length hs))
  | case11 _ _ _ _ _ hb _ ih => exact Nat.le_trans (ih h) (rest_length_lt hb)
  | case12 =>
    simp only [Except.ok.injEq] at h
    simp [h]

end FragmentFeed.Json
