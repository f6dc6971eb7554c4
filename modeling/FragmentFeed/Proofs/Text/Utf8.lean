import FragmentFeed.Text.Charset

/-!
# UTF-8 there and back

`next` takes the bytes of a character off the front and nothing else (`next_eq_some_iff`). So the strict
reader reads what was written and only that (`decode?_eq_some_iff`), and the other one agrees with it
(`decodeLossy_encode`). Where a text is read in the charset of its byte order mark, UTF-8 that begins with
no mark is left as it is (`decode_utf8_encode`). A place between characters that is counted in bytes cuts a text
there (`cutAt?_append`).
-/

namespace FragmentFeed.Text

namespace Utf8

variable {b : UInt8} {bs rest : List UInt8} {c : Char} {cs : List Char}

/-! ## Bytes that follow a lead byte -/

section tails

variable {lo hi : UInt8} {acc v : Nat}

theorem tails_succ_iff {n : Nat} :
    tails (n + 1) lo hi acc bs = (some v, rest) ↔
      ∃ d ds, bs = d :: ds ∧ lo.toNat ≤ d.toNat ∧ d.toNat ≤ hi.toNat ∧
        tails n 0x80 0xBF (acc * 64 + (d.toNat - 0x80)) ds = (some v, rest) := by
  cases bs with
  | nil => simp [tails]
  | cons d ds =>
    have hwithin : (decide (lo ≤ d) && decide (d ≤ hi)) = true
        ↔ lo.toNat ≤ d.toNat ∧ d.toNat ≤ hi.toNat := by
      simp [UInt8.le_iff_toNat_le]
    rw [tails]
    split
    · rename_i h
      obtain ⟨hlo, hhi⟩ := hwithin.mp h
      constructor
      · intro htails
        exact ⟨d, ds, rfl, hlo, hhi, htails⟩
      · rintro ⟨d', ds', heq, -, -, htails⟩
        cases heq
        exact htails
    · rename_i h
      constructor
      · intro htails
        cases htails
      · rintro ⟨d', ds', heq, hlo, hhi, -⟩
        cases heq
        exact absurd (hwithin.mpr ⟨hlo, hhi⟩) h

theorem tails_one_iff :
    tails 1 lo hi acc bs = (some v, rest) ↔
      ∃ d, bs = d :: rest ∧ lo.toNat ≤ d.toNat ∧ d.toNat ≤ hi.toNat ∧
        v = acc * 64 + (d.toNat - 0x80) := by
  rw [tails_succ_iff]
  constructor
  · rintro ⟨d, ds, rfl, hlo, hhi, h⟩
    rw [tails, Prod.mk.injEq, Option.some.injEq] at h
    exact ⟨d, by rw [h.2], hlo, hhi, h.1.symm⟩
  · rintro ⟨d, rfl, hlo, hhi, hv⟩
    exact ⟨d, rest, rfl, hlo, hhi, by rw [tails, hv]⟩

theorem tails_two_iff :
    tails 2 lo hi acc bs = (some v, rest) ↔
      ∃ d e, bs = d :: e :: rest ∧ lo.toNat ≤ d.toNat ∧ d.toNat ≤ hi.toNat ∧
        0x80 ≤ e.toNat ∧ e.toNat ≤ 0xBF ∧
        v = (acc * 64 + (d.toNat - 0x80)) * 64 + (e.toNat - 0x80) := by
  rw [tails_succ_iff]
  simp only [tails_one_iff]
  constructor
  · rintro ⟨d, ds, rfl, hlo, hhi, e, rfl, he, he', hv⟩
    exact ⟨d, e, rfl, hlo, hhi, he, he', hv⟩
  · rintro ⟨d, e, rfl, hlo, hhi, he, he', hv⟩
    exact ⟨d, _, rfl, hlo, hhi, e, rfl, he, he', hv⟩

theorem tails_three_iff :
    tails 3 lo hi acc bs = (some v, rest) ↔
      ∃ d e f, bs = d :: e :: f :: rest ∧ lo.toNat ≤ d.toNat ∧ d.toNat ≤ hi.toNat ∧
        0x80 ≤ e.toNat ∧ e.toNat ≤ 0xBF ∧ 0x80 ≤ f.toNat ∧ f.toNat ≤ 0xBF ∧
        v = ((acc * 64 + (d.toNat - 0x80)) * 64 + (e.toNat - 0x80)) * 64 + (f.toNat - 0x80) := by
  rw [tails_succ_iff]
  simp only [tails_two_iff]
  constructor
  · rintro ⟨d, ds, rfl, hlo, hhi, e, f, rfl, he, he', hf, hf', hv⟩
    exact ⟨d, e, f, rfl, hlo, hhi, he, he', hf, hf', hv⟩
  · rintro ⟨d, e, f, rfl, hlo, hhi, he, he', hf, hf', hv⟩
    exact ⟨d, _, rfl, hlo, hhi, e, f, rfl, he, he', hf, hf', hv⟩

end tails

theorem toNat_ite (p : Prop) [Decidable p] (x y : UInt8) :
    p ∧ (if p then x else y).toNat = x.toNat ∨ ¬ p ∧ (if p then x else y).toNat = y.toNat := by
  split
  · rename_i h
    exact Or.inl ⟨h, rfl⟩
  · rename_i h
    exact Or.inr ⟨h, rfl⟩

/-- What lead bytes announce, by how many bytes follow. -/
theorem lead?_eq_some_iff {l : Lead} :
    lead? b = some l ↔
      (0xC2 ≤ b.toNat ∧ b.toNat < 0xE0 ∧ l = ⟨1, 0x80, 0xBF, b.toNat - 0xC0⟩) ∨
      (0xE0 ≤ b.toNat ∧ b.toNat < 0xF0 ∧
        l = ⟨2, if b.toNat = 0xE0 then 0xA0 else 0x80, if b.toNat = 0xED then 0x9F else 0xBF,
          b.toNat - 0xE0⟩) ∨
      (0xF0 ≤ b.toNat ∧ b.toNat < 0xF5 ∧
        l = ⟨3, if b.toNat = 0xF0 then 0x90 else 0x80, if b.toNat = 0xF4 then 0x8F else 0xBF,
          b.toNat - 0xF0⟩) := by
  unfold lead?
  simp only [UInt8.lt_iff_toNat_lt, ← UInt8.toNat_inj, UInt8.reduceToNat]
  grind

/-! ## The bytes of a character -/

/-- Whether bytes are those of the character of a number: as many as it needs, with its bits spread over
them. -/
inductive Spreads (v : Nat) : List UInt8 → Prop
  | one {b : UInt8} (hv : v < 0x80) (hb : b.toNat = v) : Spreads v [b]
  | two {b d : UInt8} (hv : 0x80 ≤ v ∧ v < 0x800) (hb : b.toNat = 0xC0 + v / 0x40)
    (hd : d.toNat = 0x80 + v % 0x40) : Spreads v [b, d]
  | three {b d e : UInt8} (hv : 0x800 ≤ v ∧ v < 0x10000) (hb : b.toNat = 0xE0 + v / 0x1000)
    (hd : d.toNat = 0x80 + v / 0x40 % 0x40) (he : e.toNat = 0x80 + v % 0x40) : Spreads v [b, d, e]
  | four {b d e f : UInt8} (hv : 0x10000 ≤ v) (hb : b.toNat = 0xF0 + v / 0x40000)
    (hd : d.toNat = 0x80 + v / 0x1000 % 0x40) (he : e.toNat = 0x80 + v / 0x40 % 0x40)
    (hf : f.toNat = 0x80 + v % 0x40) : Spreads v [b, d, e, f]

theorem spreads_utf8EncodeChar (c : Char) : Spreads c.toNat (String.utf8EncodeChar c) := by
  have hlt : c.toNat < 0x110000 := by
    rcases c.valid with h | h
    · exact Nat.lt_trans h (by decide)
    · exact h.2
  unfold String.utf8EncodeChar
  simp only [Char.toNat_val]
  split
  · exact .one (by omega) (by simp; omega)
  · split
    · exact .two (by omega) (by simp; omega) (by simp; omega)
    · split
      · exact .three (by omega) (by simp; omega) (by simp; omega) (by simp; omega)
      · exact .four (by omega) (by simp; omega) (by simp; omega) (by simp; omega) (by simp; omega)

/-- They are determined by the number. -/
theorem Spreads.unique {v : Nat} {bs bs' : List UInt8} (h : Spreads v bs) (h' : Spreads v bs') :
    bs = bs' := by
  cases h <;> cases h' <;> first | omega | skip
  all_goals simp only [List.cons.injEq, ← UInt8.toNat_inj, and_true]; omega

theorem toNat_ofNat_of_isValidChar {v : Nat} (h : v.isValidChar) : (Char.ofNat v).toNat = v := by
  rw [Char.ofNat, dif_pos h]
  rfl

/-- A reading that succeeds has met the bytes of its character. -/
theorem exists_spreads_of_next (h : next b bs = (some c, rest)) :
    ∃ ds, bs = ds ++ rest ∧ Spreads c.toNat (b :: ds) := by
  unfold next at h
  split at h
  · rename_i hb
    have hlt : b.toNat < 0x80 := UInt8.lt_iff_toNat_lt.mp hb
    cases h
    rw [toNat_ofNat_of_isValidChar (Or.inl (by omega))]
    exact ⟨[], rfl, .one hlt rfl⟩
  · split at h
    · cases h
    · rename_i l hl
      obtain ⟨hc, hrest⟩ := Prod.mk.inj h
      obtain ⟨v, hv, rfl⟩ := Option.map_eq_some_iff.mp hc
      have htails : tails l.tails l.least l.greatest l.bits bs = (some v, rest) := Prod.ext hv hrest
      have hspreads : v.isValidChar ∧ ∃ ds, bs = ds ++ rest ∧ Spreads v (b :: ds) := by
        rcases lead?_eq_some_iff.mp hl with ⟨_, _, rfl⟩ | ⟨_, _, rfl⟩ | ⟨_, _, rfl⟩
        · obtain ⟨d, rfl, _, _, _⟩ := tails_one_iff.mp htails
          simp only [UInt8.reduceToNat] at *
          exact ⟨Or.inl (by omega), [d], rfl, .two (by omega) (by omega) (by omega)⟩
        · obtain ⟨d, e, rfl, _, _, _, _, _⟩ := tails_two_iff.mp htails
          have _least := toNat_ite (b.toNat = 0xE0) 0xA0 0x80
          have _greatest := toNat_ite (b.toNat = 0xED) 0x9F 0xBF
          simp only [UInt8.reduceToNat] at *
          exact ⟨by rw [Nat.isValidChar]; omega, [d, e], rfl,
            .three (by omega) (by omega) (by omega) (by omega)⟩
        · obtain ⟨d, e, f, rfl, _, _, _, _, _, _, _⟩ := tails_three_iff.mp htails
          have _least := toNat_ite (b.toNat = 0xF0) 0x90 0x80
          have _greatest := toNat_ite (b.toNat = 0xF4) 0x8F 0xBF
          simp only [UInt8.reduceToNat] at *
          exact ⟨by rw [Nat.isValidChar]; omega, [d, e, f], rfl,
            .four (by omega) (by omega) (by omega) (by omega) (by omega)⟩
      obtain ⟨hvalid, ds, hds, hspreads⟩ := hspreads
      rw [toNat_ofNat_of_isValidChar hvalid]
      exact ⟨ds, hds, hspreads⟩

/-- The bytes of a character are read as that character. -/
theorem next_of_spreads {ds : List UInt8} (h : Spreads c.toNat (b :: ds)) (rest : List UInt8) :
    next b (ds ++ rest) = (some c, rest) := by
  have hvalid : c.toNat < 0xD800 ∨ 0xDFFF < c.toNat ∧ c.toNat < 0x110000 := c.valid
  have hlong {l : Lead} (hb : 0x80 ≤ b.toNat) (hlead : lead? b = some l)
      (htails : tails l.tails l.least l.greatest l.bits (ds ++ rest) = (some c.toNat, rest)) :
      next b (ds ++ rest) = (some c, rest) := by
    unfold next
    rw [if_neg fun hlt => Nat.not_lt.mpr hb (UInt8.lt_iff_toNat_lt.mp hlt), hlead]
    simp only [htails, Option.map_some, Char.ofNat_toNat]
  cases h with
  | one hv hb =>
    unfold next
    rw [if_pos (UInt8.lt_iff_toNat_lt.mpr (by rw [hb]; exact hv)), hb, Char.ofNat_toNat]
    rfl
  | @two b d hv hb hd =>
    refine hlong (by omega) (lead?_eq_some_iff.mpr (Or.inl ⟨by omega, by omega, rfl⟩)) ?_
    have _least : (0x80 : UInt8).toNat = 0x80 := rfl
    have _greatest : (0xBF : UInt8).toNat = 0xBF := rfl
    dsimp only
    exact tails_one_iff.mpr ⟨d, rfl, by omega, by omega, by omega⟩
  | @three b d e hv hb hd he =>
    refine hlong (by omega) (lead?_eq_some_iff.mpr (Or.inr (Or.inl ⟨by omega, by omega, rfl⟩))) ?_
    have _least := toNat_ite (b.toNat = 0xE0) 0xA0 0x80
    have _greatest := toNat_ite (b.toNat = 0xED) 0x9F 0xBF
    simp only [UInt8.reduceToNat] at *
    exact tails_two_iff.mpr ⟨d, e, rfl, by omega, by omega, by omega, by omega, by omega⟩
  | @four b d e f hv hb hd he hf =>
    refine hlong (by omega) (lead?_eq_some_iff.mpr (Or.inr (Or.inr ⟨by omega, by omega, rfl⟩))) ?_
    have _least := toNat_ite (b.toNat = 0xF0) 0x90 0x80
    have _greatest := toNat_ite (b.toNat = 0xF4) 0x8F 0xBF
    simp only [UInt8.reduceToNat] at *
    exact tails_three_iff.mpr
      ⟨d, e, f, rfl, by omega, by omega, by omega, by omega, by omega, by omega, by omega⟩

/-- **One reading takes the bytes of one character off the front.** -/
theorem next_eq_some_iff :
    next b bs = (some c, rest) ↔ b :: bs = String.utf8EncodeChar c ++ rest := by
  constructor
  · intro h
    obtain ⟨ds, rfl, hds⟩ := exists_spreads_of_next h
    rw [← hds.unique (spreads_utf8EncodeChar c), List.cons_append]
  · intro h
    have hspreads := spreads_utf8EncodeChar c
    cases hbytes : String.utf8EncodeChar c with
    | nil => exact absurd hbytes String.utf8EncodeChar_ne_nil
    | cons b' ds =>
      rw [hbytes] at h hspreads
      obtain ⟨rfl, rfl⟩ := List.cons.inj h
      exact next_of_spreads hspreads rest

/-! ## Whole texts -/

@[simp] theorem encode_cons : encode (c :: cs) = String.utf8EncodeChar c ++ encode cs := rfl

/-- The first byte of a character, and what is read behind it. -/
theorem exists_next_encode (c : Char) (cs : List Char) :
    ∃ b bs, encode (c :: cs) = b :: bs ∧ next b bs = (some c, encode cs) := by
  cases hbytes : encode (c :: cs) with
  | nil =>
    rw [encode_cons] at hbytes
    exact absurd (List.append_eq_nil_iff.mp hbytes).1 String.utf8EncodeChar_ne_nil
  | cons b bs => exact ⟨b, bs, rfl, next_eq_some_iff.mpr hbytes.symm⟩

theorem decode?_encode (cs : List Char) : decode? (encode cs) = some cs := by
  induction cs with
  | nil => rw [encode, List.flatMap_nil, decode?]
  | cons c cs ih =>
    obtain ⟨b, bs, hbytes, hnext⟩ := exists_next_encode c cs
    rw [hbytes, decode?, hnext]
    simp only [ih, Option.map_some]

theorem encode_of_decode? {bs : List UInt8} : ∀ {cs : List Char}, decode? bs = some cs → bs = encode cs := by
  fun_induction decode? bs with
  | case1 =>
    intro cs h
    cases h
    rfl
  | case2 b bs hnext =>
    intro cs h
    cases h
  | case3 b bs c hnext ih =>
    intro cs h
    obtain ⟨ds, hds, rfl⟩ := Option.map_eq_some_iff.mp h
    rw [encode_cons, ← ih hds]
    exact next_eq_some_iff.mp (Prod.ext hnext rfl)

/-- **The strict reader reads what was written, and nothing else.** -/
theorem decode?_eq_some_iff : decode? bs = some cs ↔ bs = encode cs :=
  ⟨encode_of_decode?, fun h => h ▸ decode?_encode cs⟩

/-- Well-formed bytes are read without replacements. -/
theorem decodeLossy_encode (cs : List Char) : decodeLossy (encode cs) = cs := by
  induction cs with
  | nil => rw [encode, List.flatMap_nil, decodeLossy]
  | cons c cs ih =>
    obtain ⟨b, bs, hbytes, hnext⟩ := exists_next_encode c cs
    rw [hbytes, decodeLossy, hnext]
    simp only [ih, Option.getD_some]

/-! ## Places counted in bytes -/

@[simp] theorem byteLength_nil : byteLength [] = 0 := rfl

@[simp] theorem byteLength_cons : byteLength (c :: cs) = c.utf8Size + byteLength cs := rfl

@[simp] theorem byteLength_append (a b : List Char) : byteLength (a ++ b) = byteLength a + byteLength b := by
  induction a with
  | nil => simp
  | cons c a ih => simp [ih, Nat.add_assoc]

/-- A text is cut behind the bytes of its beginning. -/
theorem cutAt?_append (a b : List Char) : cutAt? (byteLength a) (a ++ b) = some (a, b) := by
  induction a with
  | nil => cases b <;> rfl
  | cons c a ih =>
    obtain ⟨n, hn⟩ : ∃ n, byteLength (c :: a) = n + 1 :=
      Nat.exists_eq_add_one_of_ne_zero (Nat.ne_of_gt (Nat.add_pos_left c.utf8Size_pos _))
    have hrest : n + 1 - c.utf8Size = byteLength a := by rw [← hn, byteLength_cons, Nat.add_sub_cancel_left]
    have hle : c.utf8Size ≤ n + 1 := hn ▸ Nat.le_add_right _ _
    rw [hn, List.cons_append, cutAt?, if_pos hle, hrest, ih]
    rfl

end Utf8

/-! ## Byte order marks -/

namespace Charset

variable {tables : Tables} {cs : List Char}

/-- The mark is taken off. -/
theorem decode_utf8_mark (cs : List Char) :
    decode tables .utf8 (Utf8.encode ('\uFEFF' :: cs)) = cs := Utf8.decodeLossy_encode cs

/-- A text in UTF-8 is taken for nothing else. -/
theorem decode_utf8_encode (h : cs.head? ≠ some '\uFEFF') : decode tables .utf8 (Utf8.encode cs) = cs := by
  cases cs with
  | nil => exact Utf8.decodeLossy_encode []
  | cons c cs =>
    obtain ⟨b, bs, hbytes, hnext⟩ := Utf8.exists_next_encode c cs
    have hread := Utf8.decodeLossy_encode (c :: cs)
    rw [hbytes] at hread ⊢
    unfold decode
    split
    · next rest heq =>
      -- the bytes of the mark make the mark
      obtain ⟨rfl, rfl⟩ := List.cons.inj heq
      have hmark : Utf8.next 0xEF (0xBB :: 0xBF :: rest) = (some '\uFEFF', rest) :=
        Utf8.next_eq_some_iff.mpr rfl
      rw [hmark] at hnext
      cases hnext
      exact absurd rfl h
    · next rest heq =>
      obtain ⟨rfl, rfl⟩ := List.cons.inj heq
      cases hnext
    · next rest heq =>
      obtain ⟨rfl, rfl⟩ := List.cons.inj heq
      cases hnext
    · exact hread

end Charset

end FragmentFeed.Text
