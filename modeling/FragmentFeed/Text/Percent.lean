import FragmentFeed.Text.Digit

/-!
# Percent-encoding

A character in the set to be encoded is written as its UTF-8 bytes, each as `%` and two upper-case
hexadecimal digits; every other character stands for itself. The sets of the parts of a URL are
those of the WHATWG URL Standard; each of them holds every control and every non-ASCII character.
-/

namespace FragmentFeed.Text.Percent

/-- Tells the characters to be encoded. -/
abbrev EncodeSet := Char → Bool

/-- Controls, DEL and everything beyond ASCII. -/
def controlSet : EncodeSet := fun c => c.toNat < 0x20 || 0x7E < c.toNat

/-- What is encoded in a fragment. -/
def fragmentSet : EncodeSet := fun c =>
  controlSet c || c == ' ' || c == '"' || c == '<' || c == '>' || c == '`'

/-- What is encoded in a path. -/
def pathSet : EncodeSet := fun c =>
  fragmentSet c || c == '#' || c == '?' || c == '\x7b' || c == '\x7d'

/-- What is encoded in a user name or password. -/
def userInfoSet : EncodeSet := fun c =>
  pathSet c || c == '/' || c == ':' || c == ';' || c == '=' || c == '@' || c == '['
    || c == '\\' || c == ']' || c == '^' || c == '|'

/-- What is encoded in the query of a URL whose scheme is not special. -/
def querySet : EncodeSet := fun c =>
  controlSet c || c == ' ' || c == '"' || c == '#' || c == '<' || c == '>'

/-- What is encoded in the query of a URL with a special scheme. -/
def specialQuerySet : EncodeSet := fun c => querySet c || c == '\''

/-- A byte as `%` and its two digits. -/
def encodeByte (b : UInt8) : List Char :=
  ['%', Digit.upper (b.toNat / 16), Digit.upper (b.toNat % 16)]

/-- One character as it is written. -/
def encodeChar (set : EncodeSet) (c : Char) : List Char :=
  if set c then (String.utf8EncodeChar c).flatMap encodeByte else [c]

/-- A text as it is written. -/
def encode (set : EncodeSet) (cs : List Char) : List Char := cs.flatMap (encodeChar set)

/-- The bytes a text stands for: `%` and two digits are one byte, every other character its UTF-8
bytes. A `%` without two digits after it stands for itself. -/
def decode : List Char → List UInt8
  | [] => []
  | '%' :: a :: b :: rest =>
    match Digit.value? 16 a, Digit.value? 16 b with
    | some x, some y => UInt8.ofNat (16 * x + y) :: decode rest
    | _, _ => 0x25 :: decode (a :: b :: rest)
  | c :: rest => String.utf8EncodeChar c ++ decode rest

/-- A text with nothing to encode is written as it is. -/
theorem encode_eq_self {set : EncodeSet} {cs : List Char} (h : ∀ c ∈ cs, set c = false) :
    encode set cs = cs := by
  induction cs with
  | nil => rfl
  | cons c r ih =>
    simp only [encode, List.flatMap_cons, encodeChar] at ih ⊢
    rw [h c (by simp), ih (fun x hx => h x (by simp [hx]))]
    rfl

theorem encode_append (set : EncodeSet) (a b : List Char) :
    encode set (a ++ b) = encode set a ++ encode set b := by
  simp [encode]

end FragmentFeed.Text.Percent
