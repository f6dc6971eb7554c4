import FragmentFeed.Json.Skip

/-!
# The grammar of JSON texts

What is a JSON value, after RFC 8259, and which text the inside of a string spells. The grammar says
which characters make up a value and goes by no reader; `w` is what is written.

* `IsBody`, `Spells`: the inside of a string, with any escapes, and with escapes that make characters
* `IsNumber`: numbers
* `Derives`: values, and what stands between brackets
-/

namespace FragmentFeed.Json

open Text

/-- Blanks, or nothing. -/
def IsBlanks (s : List Char) : Prop := ∀ c ∈ s, c ∈ [' ', '\n', '\t', '\r']

/-! ## Strings -/

/-- The letters that may stand behind a backslash by themselves, with the characters they stand for. -/
def escapes : List (Char × Char) :=
  [('"', '"'), ('\\', '\\'), ('/', '/'), ('b', '\x08'), ('f', '\x0c'), ('n', '\n'), ('r', '\r'),
    ('t', '\t')]

/-- A hexadecimal digit of either case. -/
def IsHexDigit (d : Nat) (c : Char) : Prop :=
  "0123456789abcdef".toList[d]? = some c ∨ "0123456789ABCDEF".toList[d]? = some c

/-- Four hexadecimal digits that make a number. -/
def IsUnit (n : Nat) (u : List Char) : Prop :=
  ∃ i a j b k c l d, u = [a, b, c, d] ∧ n = ((i * 16 + j) * 16 + k) * 16 + l ∧
    IsHexDigit i a ∧ IsHexDigit j b ∧ IsHexDigit k c ∧ IsHexDigit l d

/-- Whether a character may stand in a string as itself. -/
def IsPlain (c : Char) : Prop := 0x20 ≤ c.toNat ∧ c ≠ '"' ∧ c ≠ '\\'

instance (c : Char) : Decidable (IsPlain c) := inferInstanceAs (Decidable (_ ∧ _))

/-- What may stand behind a backslash. -/
inductive IsEscape : List Char → Prop
  | letter {c d : Char} (h : (c, d) ∈ escapes) : IsEscape [c]
  | unit {n : Nat} {u : List Char} (h : IsUnit n u) : IsEscape ('u' :: u)

/-- What may stand behind a backslash so that the escape makes a character: a letter, the number of the
character, or a surrogate and behind another backslash the one that goes with it. -/
inductive Denotes : List Char → Char → Prop
  | letter {c d : Char} (h : (c, d) ∈ escapes) : Denotes [c] d
  | unit {c : Char} {u : List Char} (h : IsUnit c.toNat u) : Denotes ('u' :: u) c
  | pair {c : Char} {high low : Nat} {u v : List Char} (hu : IsUnit high u) (hv : IsUnit low v)
    (hhigh : 0xD800 ≤ high ∧ high < 0xDC00) (hlow : 0xDC00 ≤ low ∧ low < 0xE000)
    (hc : c.toNat = 0x10000 + (high - 0xD800) * 0x400 + (low - 0xDC00)) :
    Denotes ('u' :: (u ++ '\\' :: 'u' :: v)) c

/-- The inside of a string. -/
inductive IsBody : List Char → Prop
  | nil : IsBody []
  | plain {c : Char} {w : List Char} (hc : IsPlain c) (h : IsBody w) : IsBody (c :: w)
  | escape {e w : List Char} (he : IsEscape e) (h : IsBody w) : IsBody ('\\' :: (e ++ w))

/-- The inside of a string and the text that it spells. -/
inductive Spells : List Char → List Char → Prop
  | nil : Spells [] []
  | plain {c : Char} {w t : List Char} (hc : IsPlain c) (h : Spells w t) : Spells (c :: w) (c :: t)
  | escape {c : Char} {e w t : List Char} (he : Denotes e c) (h : Spells w t) :
    Spells ('\\' :: (e ++ w)) (c :: t)

/-- Characters that need no backslash spell themselves. -/
theorem Spells.of_plain {w t p : List Char} (h : Spells w t) (hp : ∀ c ∈ p, IsPlain c) :
    Spells (p ++ w) (p ++ t) := by
  induction p with
  | nil => exact h
  | cons c p ih => exact .plain (hp c (by simp)) (ih fun d hd => hp d (by simp [hd]))

/-- What spells a text is the inside of a string. -/
theorem Spells.isBody {w t : List Char} (h : Spells w t) : IsBody w := by
  induction h with
  | nil => exact .nil
  | plain hc _ ih => exact .plain hc ih
  | escape he _ ih =>
    cases he with
    | letter h => exact .escape (.letter h) ih
    | unit h => exact .escape (.unit h) ih
    | pair hu hv =>
      -- to the grammar the two surrogates are two escapes
      have hpair := IsBody.escape (.unit hu) (.escape (.unit hv) ih)
      simpa using hpair

/-! ## Numbers -/

/-- Digits, at least one. -/
def IsDigits (w : List Char) : Prop := w ≠ [] ∧ ∀ c ∈ w, '0' ≤ c ∧ c ≤ '9'

/-- The digits before the point. Only a zero that stands alone comes first. -/
def IsInteger (w : List Char) : Prop := IsDigits w ∧ (w.head? = some '0' → w = ['0'])

/-- The point and the digits behind it, if there is a point. -/
def IsFraction (w : List Char) : Prop := w = [] ∨ ∃ ds, w = '.' :: ds ∧ IsDigits ds

/-- The exponent, if there is one. -/
def IsExponent (w : List Char) : Prop :=
  w = [] ∨ ∃ e sign ds, w = e :: (sign ++ ds) ∧ (e = 'e' ∨ e = 'E') ∧
    (sign = [] ∨ sign = ['+'] ∨ sign = ['-']) ∧ IsDigits ds

/-- A number without a sign. -/
def IsNumeral (w : List Char) : Prop :=
  ∃ integer fraction exponent, w = integer ++ (fraction ++ exponent) ∧ IsInteger integer ∧
    IsFraction fraction ∧ IsExponent exponent

/-- A number. -/
def IsNumber (w : List Char) : Prop := IsNumeral w ∨ ∃ w', w = '-' :: w' ∧ IsNumeral w'

/-! ## Values -/

/-- The opening bracket. -/
def Bracket.opening : Bracket → Char
  | .list => '['
  | .object => '\x7b'

/-- The words that are values. -/
def words : List (List Char) := ["null".toList, "true".toList, "false".toList]

/-- The parts of a text that the grammar tells of. -/
inductive Part where
  | value
  /-- A value in a list, or a key and its value in an object, with blanks around. -/
  | item (b : Bracket)
  /-- Such items, at least one, with commas between them. -/
  | items (b : Bracket)
  deriving DecidableEq, Repr

/-- What the grammar derives. -/
inductive Derives : Part → List Char → Prop
  | word {w : List Char} (h : w ∈ words) : Derives .value w
  | number {w : List Char} (h : IsNumber w) : Derives .value w
  | string {w : List Char} (h : IsBody w) : Derives .value ('"' :: (w ++ ['"']))
  | nothing (b : Bracket) {s : List Char} (h : IsBlanks s) :
    Derives .value (b.opening :: (s ++ [b.closing]))
  | bracket {b : Bracket} {w : List Char} (h : Derives (.items b) w) :
    Derives .value (b.opening :: (w ++ [b.closing]))
  | element {s s' w : List Char} (hs : IsBlanks s) (h : Derives .value w) (hs' : IsBlanks s') :
    Derives (.item .list) (s ++ (w ++ s'))
  | member {s₁ s₂ s₃ s₄ key w : List Char} (h₁ : IsBlanks s₁) (hkey : IsBody key) (h₂ : IsBlanks s₂)
    (h₃ : IsBlanks s₃) (h : Derives .value w) (h₄ : IsBlanks s₄) :
    Derives (.item .object) (s₁ ++ '"' :: (key ++ '"' :: (s₂ ++ ':' :: (s₃ ++ (w ++ s₄)))))
  | one {b : Bracket} {w : List Char} (h : Derives (.item b) w) : Derives (.items b) w
  | more {b : Bracket} {w w' : List Char} (h : Derives (.item b) w) (h' : Derives (.items b) w') :
    Derives (.items b) (w ++ ',' :: w')

/-- Something with blanks around. -/
def Padded (P : List Char → Prop) (w : List Char) : Prop :=
  ∃ s v s', w = s ++ (v ++ s') ∧ IsBlanks s ∧ P v ∧ IsBlanks s'

/-- A JSON text: a value with blanks around. -/
def IsJson (w : List Char) : Prop := Padded (Derives .value) w

/-! ## What may stand behind a value -/

/-- Whether a text does not go on with a character of some kind. -/
def Stops (p : Char → Bool) (rest : List Char) : Prop := ∀ c tail, rest = c :: tail → p c = false

theorem stops_nil (p : Char → Bool) : Stops p [] := by
  intro c tail h
  cases h

theorem stops_cons {p : Char → Bool} {c : Char} {tail : List Char} (h : p c = false) :
    Stops p (c :: tail) := by
  rintro _ _ ⟨⟩
  exact h

/-- Whether a character belongs to a number that goes on. -/
def continuesNumber (c : Char) : Bool := isDigit c || c = '.' || isExponentMark c

/-- Blanks, commas and brackets do not go on with a number. -/
theorem stops_of_blanks {s rest : List Char} (hs : IsBlanks s) (h : Stops continuesNumber rest) :
    Stops continuesNumber (s ++ rest) := by
  cases s with
  | nil => exact h
  | cons c s =>
    refine stops_cons ?_
    have hc := hs c (by simp)
    simp only [List.mem_cons, List.not_mem_nil, or_false] at hc
    rcases hc with rfl | rfl | rfl | rfl <;> rfl

theorem stops_closing (b : Bracket) (tail : List Char) :
    Stops continuesNumber (b.closing :: tail) := by
  cases b <;> exact stops_cons rfl

/-! ## Blanks -/

section blanks

variable {s w rest : List Char} {c : Char}

/-- The characters that are skipped are the blanks of the grammar. -/
theorem isBlank_iff : isBlank c = true ↔ c ∈ [' ', '\n', '\t', '\r'] := by
  simp [isBlank, or_assoc]

theorem isBlanks_nil : IsBlanks [] := by
  intro c hc
  cases hc

theorem IsBlanks.append {s' : List Char} (hs : IsBlanks s) (hs' : IsBlanks s') :
    IsBlanks (s ++ s') := by
  intro c hc
  rcases List.mem_append.mp hc with h | h
  · exact hs c h
  · exact hs' c h

/-- Blanks are skipped. -/
theorem skipBlanks_append (hs : IsBlanks s) (w : List Char) : skipBlanks (s ++ w) = skipBlanks w := by
  induction s with
  | nil => rfl
  | cons c s ih =>
    have hc := isBlank_iff.mpr (hs c (by simp))
    have hrest := ih fun d hd => hs d (by simp [hd])
    rw [List.cons_append, skipBlanks, List.dropWhile_cons_of_pos hc]
    exact hrest

theorem skipBlanks_cons (h : isBlank c = false) (w : List Char) : skipBlanks (c :: w) = c :: w := by
  rw [skipBlanks, List.dropWhile_cons_of_neg (by simp [h])]

/-- What is skipped is blanks. -/
theorem exists_blanks (w : List Char) : ∃ s, IsBlanks s ∧ w = s ++ skipBlanks w := by
  refine ⟨w.takeWhile isBlank, ?_, List.takeWhile_append_dropWhile.symm⟩
  intro c hc
  exact isBlank_iff.mp (List.all_eq_true.mp List.all_takeWhile c hc)

theorem exists_blanks_of_eq (h : skipBlanks w = rest) : ∃ s, IsBlanks s ∧ w = s ++ rest := by
  obtain ⟨s, hs, hw⟩ := exists_blanks w
  exact ⟨s, hs, by rw [← h]; exact hw⟩

/-- Nothing is left of blanks only. -/
theorem skipBlanks_eq_nil_iff : skipBlanks s = [] ↔ IsBlanks s := by
  constructor
  · intro h
    obtain ⟨s', hs', rfl⟩ := exists_blanks_of_eq h
    rw [List.append_nil]
    exact hs'
  · intro h
    have hskip := skipBlanks_append h []
    rw [List.append_nil] at hskip
    exact hskip

end blanks

end FragmentFeed.Json
