import FragmentFeed.Proofs.Json.Grammar
import FragmentFeed.Proofs.Text.Digit
import FragmentFeed.Proofs.Text.Utf8

/-!
# Reading strings

Both readers of strings stop behind the quote that closes the string. `skipString` accepts the inside of
any string (`skipString_eq_ok_iff`); `string` accepts one that spells a text, and gives the text
(`string_eq_ok_iff`).
-/

namespace FragmentFeed.Json

open Text

variable {cs rest w t e : List Char} {c : Char} {n : Nat}

/-! ## Escapes -/

/-- The letters that are read behind a backslash are those of the grammar. -/
theorem escaped?_eq_some_iff {d : Char} : escaped? c = some d ↔ (c, d) ∈ escapes := by
  unfold escaped? escapes
  constructor
  · intro h
    split at h
    · next hc =>
      cases h
      rcases hc with rfl | rfl | rfl <;> simp
    · repeat' split at h
      all_goals cases h
      all_goals simp_all
  · intro h
    simp only [List.mem_cons, Prod.mk.injEq, List.not_mem_nil, or_false] at h
    rcases h with ⟨rfl, rfl⟩ | ⟨rfl, rfl⟩ | ⟨rfl, rfl⟩ | ⟨rfl, rfl⟩ | ⟨rfl, rfl⟩ | ⟨rfl, rfl⟩ |
      ⟨rfl, rfl⟩ | ⟨rfl, rfl⟩ <;> rfl

/-- None of them is the one that a number follows. -/
theorem ne_u_of_mem_escapes {d : Char} (h : (c, d) ∈ escapes) : c ≠ 'u' := by
  rintro rfl
  simp [escapes] at h

/-- A digit is a character of one byte. -/
theorem toNat_lt_of_value? {d : Nat} (h : Digit.value? 16 c = some d) : c.toNat < 0x80 := by
  unfold Digit.value? at h
  simp only [Option.ite_none_right_eq_some] at h
  have hlt := h.1
  split at hlt
  · next hrange => exact Nat.lt_of_le_of_lt hrange.2 (by decide)
  · split at hlt
    · next hrange => exact Nat.lt_of_le_of_lt hrange.2 (by decide)
    · split at hlt
      · next hrange => exact Nat.lt_of_le_of_lt hrange.2 (by decide)
      · omega

/-- The digits that are read are those of the grammar. -/
theorem value?_eq_some_iff {d : Nat} : Digit.value? 16 c = some d ↔ IsHexDigit d c := by
  constructor
  · intro h
    have hall : ∀ n ∈ List.range 0x80, ∀ d ∈ (Digit.value? 16 (Char.ofNat n)).toList,
        IsHexDigit d (Char.ofNat n) := by
      unfold IsHexDigit
      decide +kernel
    have hdigit := hall c.toNat (List.mem_range.mpr (toNat_lt_of_value? h)) d
    rw [Char.ofNat_toNat, h] at hdigit
    exact hdigit (List.mem_singleton.mpr rfl)
  · intro h
    have hall : ∀ e ∈ List.range 16,
        ("0123456789abcdef".toList[e]?).bind (Digit.value? 16) = some e ∧
          ("0123456789ABCDEF".toList[e]?).bind (Digit.value? 16) = some e := by
      decide
    rcases h with h | h
    · have hd := (List.getElem?_eq_some_iff.mp h).1
      have hvalue := (hall d (List.mem_range.mpr hd)).1
      rw [h] at hvalue
      exact hvalue
    · have hd := (List.getElem?_eq_some_iff.mp h).1
      have hvalue := (hall d (List.mem_range.mpr hd)).2
      rw [h] at hvalue
      exact hvalue

theorem gather?_cons_iff {acc : Nat} {ds : List Char} :
    Digit.gather? 16 acc (c :: ds) = some n ↔
      ∃ d, IsHexDigit d c ∧ Digit.gather? 16 (acc * 16 + d) ds = some n := by
  rw [Digit.gather?_cons_eq_some_iff]
  exact exists_congr fun d => and_congr_left' value?_eq_some_iff

theorem gather?_nil_iff {acc : Nat} : Digit.gather? 16 acc [] = some n ↔ acc = n := by
  rw [Digit.gather?, Option.some.injEq]

/-- Four digits are read as the number that they make. -/
theorem gather?_four_iff {a b c d : Char} :
    Digit.gather? 16 0 [a, b, c, d] = some n ↔ IsUnit n [a, b, c, d] := by
  simp only [gather?_cons_iff, gather?_nil_iff]
  constructor
  · rintro ⟨i, hi, j, hj, k, hk, l, hl, hn⟩
    exact ⟨i, a, j, b, k, c, l, d, rfl, by omega, hi, hj, hk, hl⟩
  · rintro ⟨i, _, j, _, k, _, l, _, heq, hn, hi, hj, hk, hl⟩
    cases heq
    exact ⟨i, hi, j, hj, k, hk, l, hl, by omega⟩

theorem hexUnit_eq_ok_iff : hexUnit cs = .ok (n, rest) ↔ ∃ u, IsUnit n u ∧ cs = u ++ rest := by
  constructor
  · intro h
    unfold hexUnit at h
    split at h
    · next a b c d tail =>
      split at h
      · next m hm =>
        cases h
        exact ⟨[a, b, c, d], gather?_four_iff.mp hm, rfl⟩
      · unfold hexUnit.broken at h
        split at h <;> cases h
    · unfold hexUnit.broken at h
      split at h <;> cases h
  · rintro ⟨u, hu, rfl⟩
    have hdigits := hu
    obtain ⟨i, a, j, b, k, c, l, d, rfl, -⟩ := hdigits
    unfold hexUnit
    simp only [List.cons_append, List.nil_append, gather?_four_iff.mpr hu]

/-! ## Numbers of characters -/

theorem IsHexDigit.lt {d : Nat} (h : IsHexDigit d c) : d < 16 := by
  rcases h with h | h
  · exact (List.getElem?_eq_some_iff.mp h).1
  · exact (List.getElem?_eq_some_iff.mp h).1

/-- Four hexadecimal digits make a number of sixteen bits. -/
theorem IsUnit.lt {u : List Char} (h : IsUnit n u) : n < 0x10000 := by
  obtain ⟨i, a, j, b, k, c, l, d, -, rfl, hi, hj, hk, hl⟩ := h
  have := hi.lt
  have := hj.lt
  have := hk.lt
  have := hl.lt
  omega

/-- A number that is not a surrogate is that of a character. -/
theorem toNat_ofNat_of_unit {u : List Char} (h : IsUnit n u) (hlow : Utf16.isLow n = false)
    (hhigh : Utf16.isHigh n = false) : (Char.ofNat n).toNat = n := by
  have hlt := h.lt
  simp only [Utf16.isLow, Utf16.isHigh, Bool.and_eq_false_iff, decide_eq_false_iff_not] at hlow hhigh
  refine Utf8.toNat_ofNat_of_isValidChar ?_
  rw [Nat.isValidChar]
  omega

theorem isHigh_iff : Utf16.isHigh n = true ↔ 0xD800 ≤ n ∧ n < 0xDC00 := by
  simp [Utf16.isHigh]

theorem isLow_iff : Utf16.isLow n = true ↔ 0xDC00 ≤ n ∧ n < 0xE000 := by
  simp [Utf16.isLow]

/-- The character of a pair of surrogates. -/
theorem toNat_ofPair {high low : Nat} (hhigh : 0xD800 ≤ high ∧ high < 0xDC00)
    (hlow : 0xDC00 ≤ low ∧ low < 0xE000) :
    (Utf16.ofPair high low).toNat = 0x10000 + (high - 0xD800) * 0x400 + (low - 0xDC00) := by
  rw [Utf16.ofPair, Utf8.toNat_ofNat_of_isValidChar]
  · omega
  · rw [Nat.isValidChar]
    omega

/-- The number of a character is no surrogate. -/
theorem not_surrogate (c : Char) : Utf16.isLow c.toNat = false ∧ Utf16.isHigh c.toNat = false := by
  have hvalid : c.toNat.isValidChar := c.valid
  simp only [Utf16.isLow, Utf16.isHigh, Bool.and_eq_false_iff, decide_eq_false_iff_not]
  rw [Nat.isValidChar] at hvalid
  omega

/-! ## Escapes that make characters -/

theorem lowSurrogate_eq_ok_iff {high : Nat} :
    lowSurrogate high cs = .ok (c, rest) ↔
      ∃ low v, IsUnit low v ∧ Utf16.isLow low = true ∧ c = Utf16.ofPair high low ∧
        cs = '\\' :: 'u' :: (v ++ rest) := by
  constructor
  · intro h
    unfold lowSurrogate at h
    split at h
    · next tail =>
      split at h
      · cases h
      · next low rest' hunit =>
        split at h
        · next hlow =>
          obtain ⟨v, hv, rfl⟩ := hexUnit_eq_ok_iff.mp hunit
          simp only [Except.ok.injEq, Prod.mk.injEq] at h
          exact ⟨low, v, hv, hlow, h.1.symm, by rw [h.2]⟩
        · cases h
    all_goals cases h
  · rintro ⟨low, v, hv, hlow, hc, rfl⟩
    rw [lowSurrogate, hexUnit_eq_ok_iff.mpr ⟨v, hv, rfl⟩, hc]
    exact if_pos hlow

theorem exists_denotes_of_escape (h : escape cs = .ok (c, rest)) :
    ∃ e, Denotes e c ∧ cs = e ++ rest := by
  unfold escape at h
  split at h
  · cases h
  · next tail =>
    split at h
    · cases h
    · next n rest' hunit =>
      obtain ⟨u, hu, rfl⟩ := hexUnit_eq_ok_iff.mp hunit
      split at h
      · cases h
      · next hlow =>
        split at h
        · next hhigh =>
          obtain ⟨low, v, hv, hlow', hc, rfl⟩ := lowSurrogate_eq_ok_iff.mp h
          have hfirst := isHigh_iff.mp hhigh
          have hsecond := isLow_iff.mp hlow'
          have hpair : Denotes ('u' :: (u ++ '\\' :: 'u' :: v)) c :=
            .pair hu hv hfirst hsecond (by rw [hc, toNat_ofPair hfirst hsecond])
          exact ⟨_, hpair, by simp⟩
        · next hhigh =>
          cases h
          have hc := toNat_ofNat_of_unit hu (by simpa using hlow) (by simpa using hhigh)
          exact ⟨'u' :: u, .unit (hc.symm ▸ hu), rfl⟩
  · next c' tail hne =>
    split at h
    · next d hd =>
      cases h
      exact ⟨[c'], .letter (escaped?_eq_some_iff.mp hd), rfl⟩
    · cases h

theorem Denotes.escape_eq (h : Denotes e c) (rest : List Char) :
    Json.escape (e ++ rest) = .ok (c, rest) := by
  cases h with
  | @letter c' d h =>
    have hne := ne_u_of_mem_escapes h
    have hd := escaped?_eq_some_iff.mpr h
    show Json.escape (c' :: rest) = _
    rw [Json.escape]
    · rw [hd]
    · exact hne
  | @unit c u h =>
    obtain ⟨hlow, hhigh⟩ := not_surrogate c
    rw [List.cons_append, Json.escape, hexUnit_eq_ok_iff.mpr ⟨u, h, rfl⟩]
    simp [hlow, hhigh, Char.ofNat_toNat]
  | @pair c high low u v hu hv hhigh hlow hc =>
    have hsecond : lowSurrogate high ('\\' :: 'u' :: (v ++ rest)) = .ok (c, rest) := by
      refine lowSurrogate_eq_ok_iff.mpr ⟨low, v, hv, isLow_iff.mpr hlow, ?_, rfl⟩
      exact Char.toNat_inj.mp (hc.trans (toNat_ofPair hhigh hlow).symm)
    have hnot : Utf16.isLow high = false := by
      simp only [Utf16.isLow, Bool.and_eq_false_iff, decide_eq_false_iff_not]
      omega
    have happend : 'u' :: (u ++ '\\' :: 'u' :: v) ++ rest
        = 'u' :: (u ++ '\\' :: 'u' :: (v ++ rest)) := by simp
    rw [happend, Json.escape, hexUnit_eq_ok_iff.mpr ⟨u, hu, rfl⟩]
    simp [hnot, isHigh_iff.mpr hhigh, hsecond]

/-- **An escape is read as the character that it denotes.** -/
theorem escape_eq_ok_iff : escape cs = .ok (c, rest) ↔ ∃ e, Denotes e c ∧ cs = e ++ rest := by
  refine ⟨exists_denotes_of_escape, ?_⟩
  rintro ⟨e, he, rfl⟩
  exact he.escape_eq rest

/-- An escape is skipped if it is one. -/
theorem skipEscape_eq_ok_iff : skipEscape cs = .ok rest ↔ ∃ e, IsEscape e ∧ cs = e ++ rest := by
  constructor
  · intro h
    unfold skipEscape at h
    split at h
    · cases h
    · next tail =>
      cases hunit : hexUnit tail with
      | error f => rw [hunit] at h; cases h
      | ok r =>
        obtain ⟨n, rest'⟩ := r
        rw [hunit] at h
        cases h
        obtain ⟨u, hu, rfl⟩ := hexUnit_eq_ok_iff.mp hunit
        exact ⟨'u' :: u, .unit hu, rfl⟩
    · next c' tail hne =>
      split at h
      · next d hd =>
        cases h
        exact ⟨[c'], .letter (escaped?_eq_some_iff.mp hd), rfl⟩
      · cases h
  · rintro ⟨e, he, rfl⟩
    cases he with
    | @letter c' d h =>
      have hne := ne_u_of_mem_escapes h
      have hd := escaped?_eq_some_iff.mpr h
      show skipEscape (c' :: rest) = _
      rw [skipEscape]
      · rw [hd]
      · exact hne
    | @unit n u h =>
      rw [List.cons_append, skipEscape, hexUnit_eq_ok_iff.mpr ⟨u, h, rfl⟩]
      rfl

/-! ## Strings -/

theorem isControl_eq_false_iff : isControl c = false ↔ 0x20 ≤ c.toNat := by
  simp [isControl]

theorem exists_spells {read s : List Char} (h : stringFrom read cs = .ok (s, rest)) :
    ∃ w t, Spells w t ∧ cs = w ++ '"' :: rest ∧ s = read.reverse ++ t := by
  fun_induction stringFrom read cs with
  | case1 read => cases h
  | case2 read tail =>
    cases h
    exact ⟨[], [], .nil, rfl, (List.append_nil _).symm⟩
  | case3 read tail e he => cases h
  | case4 read tail d tail' he _ ih =>
    obtain ⟨w, t, hw, rfl, rfl⟩ := ih h
    obtain ⟨e, hdenotes, rfl⟩ := escape_eq_ok_iff.mp he
    exact ⟨_, _, .escape hdenotes hw, by simp, by simp⟩
  | case5 read c tail => cases h
  | case6 read c tail hquote hbackslash hcontrol ih =>
    obtain ⟨w, t, hw, rfl, rfl⟩ := ih h
    have hplain : IsPlain c :=
      ⟨isControl_eq_false_iff.mp (by simpa using hcontrol), hquote, hbackslash⟩
    exact ⟨_, _, .plain hplain hw, by simp, by simp⟩

theorem Spells.stringFrom_eq (h : Spells w t) (read rest : List Char) :
    stringFrom read (w ++ '"' :: rest) = .ok (read.reverse ++ t, rest) := by
  induction h generalizing read with
  | nil =>
    rw [List.nil_append, stringFrom, if_pos rfl, List.append_nil]
  | @plain c w t hc _ ih =>
    obtain ⟨hcontrol, hquote, hbackslash⟩ := hc
    rw [List.cons_append, stringFrom, if_neg hquote, if_neg hbackslash,
      if_neg (by simp [isControl_eq_false_iff.mpr hcontrol]), ih]
    simp
  | @escape c e w t he _ ih =>
    have hread := he.escape_eq (w ++ '"' :: rest)
    rw [List.cons_append, List.append_assoc, stringFrom, if_neg (by decide), if_pos rfl]
    split
    · next f hf =>
      rw [hread] at hf
      cases hf
    · next d tail htail =>
      rw [hread] at htail
      cases htail
      rw [ih]
      simp

/-- **A string is read as the text that its inside spells**, and not read if that spells none. -/
theorem string_eq_ok_iff :
    string cs = .ok (t, rest) ↔ ∃ w, Spells w t ∧ cs = w ++ '"' :: rest := by
  constructor
  · intro h
    obtain ⟨w, t', hw, hcs, ht⟩ := exists_spells h
    rw [List.reverse_nil, List.nil_append] at ht
    exact ⟨w, ht ▸ hw, hcs⟩
  · rintro ⟨w, hw, rfl⟩
    exact hw.stringFrom_eq [] rest

theorem exists_isBody (h : skipString cs = .ok rest) : ∃ w, IsBody w ∧ cs = w ++ '"' :: rest := by
  fun_induction skipString cs with
  | case1 => cases h
  | case2 tail =>
    cases h
    exact ⟨[], .nil, rfl⟩
  | case3 tail e he => cases h
  | case4 tail tail' he _ ih =>
    obtain ⟨w, hw, rfl⟩ := ih h
    obtain ⟨e, hescape, rfl⟩ := skipEscape_eq_ok_iff.mp he
    exact ⟨_, .escape hescape hw, by simp⟩
  | case5 c tail => cases h
  | case6 c tail hquote hbackslash hcontrol ih =>
    obtain ⟨w, hw, rfl⟩ := ih h
    have hplain : IsPlain c :=
      ⟨isControl_eq_false_iff.mp (by simpa using hcontrol), hquote, hbackslash⟩
    exact ⟨_, .plain hplain hw, by simp⟩

theorem IsBody.skipString_eq (h : IsBody w) (rest : List Char) :
    skipString (w ++ '"' :: rest) = .ok rest := by
  induction h with
  | nil => rw [List.nil_append, skipString, if_pos rfl]
  | @plain c w hc _ ih =>
    obtain ⟨hcontrol, hquote, hbackslash⟩ := hc
    rw [List.cons_append, skipString, if_neg hquote, if_neg hbackslash,
      if_neg (by simp [isControl_eq_false_iff.mpr hcontrol]), ih]
  | @escape e w he _ ih =>
    have hread : skipEscape (e ++ (w ++ '"' :: rest)) = .ok (w ++ '"' :: rest) :=
      skipEscape_eq_ok_iff.mpr ⟨e, he, rfl⟩
    rw [List.cons_append, List.append_assoc, skipString, if_neg (by decide), if_pos rfl]
    split
    · next f hf =>
      rw [hread] at hf
      cases hf
    · next tail htail =>
      rw [hread] at htail
      cases htail
      exact ih

/-- **A string is skipped if its inside is one.** -/
theorem skipString_eq_ok_iff :
    skipString cs = .ok rest ↔ ∃ w, IsBody w ∧ cs = w ++ '"' :: rest := by
  refine ⟨exists_isBody, ?_⟩
  rintro ⟨w, hw, rfl⟩
  exact hw.skipString_eq rest

end FragmentFeed.Json
