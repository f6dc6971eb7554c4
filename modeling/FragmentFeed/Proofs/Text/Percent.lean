import FragmentFeed.Proofs.Text.Digit
import FragmentFeed.Proofs.Text.Utf8
import FragmentFeed.Text.Percent

/-!
# What percent-encoded texts are made of

An encoded text holds characters of the text that need not be encoded, and otherwise percent signs and
digits (`mem_encode`), so that there is nothing left in it to encode (`isEncoded_encode`). The texts that
stand for a dot are the dot and its two encodings (`exists_of_decode_eq_cons_dot`).
-/

namespace FragmentFeed.Text

/-- Whether a character is one of the visible ones of ASCII. -/
def IsVisible (c : Char) : Prop := 0x21 ≤ c.toNat ∧ c.toNat ≤ 0x7E

instance (c : Char) : Decidable (IsVisible c) := inferInstanceAs (Decidable (_ ∧ _))

namespace Percent

variable {set : EncodeSet} {cs : List Char} {c : Char} {bs : List UInt8}

/-- What an encoded text is made of. -/
theorem mem_encode (h : c ∈ encode set cs) :
    c ∈ cs ∧ set c = false ∨ c = '%' ∨ ∃ d ∈ List.range 16, c = Digit.upper d := by
  obtain ⟨d, hd, hc⟩ := List.mem_flatMap.mp h
  unfold encodeChar at hc
  split at hc
  · obtain ⟨b, -, hb⟩ := List.mem_flatMap.mp hc
    have hlt : b.toNat < 256 := b.toNat_lt
    rw [encodeByte, List.mem_cons, List.mem_cons, List.mem_singleton] at hb
    rcases hb with hpercent | hdigit | hdigit
    · exact Or.inr (Or.inl hpercent)
    · exact Or.inr (Or.inr ⟨_, List.mem_range.mpr (by omega), hdigit⟩)
    · exact Or.inr (Or.inr ⟨_, List.mem_range.mpr (by omega), hdigit⟩)
  · rename_i hset
    obtain rfl := List.mem_singleton.mp hc
    exact Or.inl ⟨hd, Bool.eq_false_iff.mpr hset⟩

/-! ## Nothing left to encode -/

/-- Whether there is nothing in a text that is encoded. -/
def IsEncoded (set : EncodeSet) (cs : List Char) : Prop := ∀ c ∈ cs, set c = false

/-- Whether a set spares what encoding writes. -/
def Spares (set : EncodeSet) : Prop :=
  set '%' = false ∧ ∀ d ∈ List.range 16, set (Digit.upper d) = false

instance (set : EncodeSet) : Decidable (Spares set) := inferInstanceAs (Decidable (_ ∧ _))

/-- **What has been encoded is not encoded again.** -/
theorem isEncoded_encode (hset : Spares set) (cs : List Char) : IsEncoded set (encode set cs) := by
  intro c hc
  rcases mem_encode hc with ⟨-, hspared⟩ | rfl | ⟨d, hd, rfl⟩
  · exact hspared
  · exact hset.1
  · exact hset.2 d hd

theorem encode_ne_nil (h : cs ≠ []) : encode set cs ≠ [] := by
  cases cs with
  | nil => exact absurd rfl h
  | cons d cs =>
    have hchar : encodeChar set d ≠ [] := by
      unfold encodeChar
      split
      · rw [ne_eq, List.flatMap_eq_nil_iff]
        obtain ⟨b, bs, hbytes⟩ := List.exists_cons_of_ne_nil (String.utf8EncodeChar_ne_nil (c := d))
        rw [hbytes]
        exact fun hnil => List.cons_ne_nil _ _ (hnil b (by simp))
      · exact List.cons_ne_nil _ _
    exact fun hnil => hchar (List.append_eq_nil_iff.mp hnil).1

/-- Blanks and whatever is beyond ASCII are encoded in every part of a URL. -/
theorem isVisible_of_controlSet (h : controlSet c = false) (hspace : c ≠ ' ') : IsVisible c := by
  have hrange : 0x20 ≤ c.toNat ∧ c.toNat ≤ 0x7E := by simpa [controlSet] using h
  have hne : c.toNat ≠ 0x20 := fun heq => hspace (Char.toNat_inj.mp heq)
  exact ⟨by omega, hrange.2⟩

theorem isVisible_of_fragmentSet (h : fragmentSet c = false) : IsVisible c := by
  simp only [fragmentSet, Bool.or_eq_false_iff, beq_eq_false_iff_ne] at h
  obtain ⟨⟨⟨⟨⟨hcontrol, hspace⟩, -⟩, -⟩, -⟩, -⟩ := h
  exact isVisible_of_controlSet hcontrol hspace

/-- Neither query nor fragment begins within a path. -/
theorem of_pathSet (h : pathSet c = false) : IsVisible c ∧ c ≠ '?' ∧ c ≠ '#' := by
  simp only [pathSet, Bool.or_eq_false_iff, beq_eq_false_iff_ne] at h
  obtain ⟨⟨⟨⟨hfragment, hhash⟩, hmark⟩, -⟩, -⟩ := h
  exact ⟨isVisible_of_fragmentSet hfragment, hmark, hhash⟩

/-- No fragment begins within a query. -/
theorem of_specialQuerySet (h : specialQuerySet c = false) : IsVisible c ∧ c ≠ '#' := by
  simp only [specialQuerySet, querySet, Bool.or_eq_false_iff, beq_eq_false_iff_ne] at h
  obtain ⟨⟨⟨⟨⟨⟨hcontrol, hspace⟩, -⟩, hhash⟩, -⟩, -⟩, -⟩ := h
  exact ⟨isVisible_of_controlSet hcontrol hspace, hhash⟩

/-! ## Decoding -/

/-- A text without percent signs stands for itself. -/
theorem decode_eq_encode (h : ∀ c ∈ cs, c ≠ '%') : decode cs = Utf8.encode cs := by
  induction cs with
  | nil => rfl
  | cons c cs ih =>
    obtain ⟨hc, hcs⟩ := List.forall_mem_cons.mp h
    rw [decode, ih hcs]
    · rfl
    · rintro a b rest rfl
      exact fun _ => hc rfl

/-! ## Dots -/

theorem decode_eq_nil_iff : decode cs = [] ↔ cs = [] := by
  constructor
  · intro h
    unfold decode at h
    split at h
    · rfl
    · split at h
      · cases h
      · cases h
    · exact absurd (List.append_eq_nil_iff.mp h).1 String.utf8EncodeChar_ne_nil
  · rintro rfl
    rfl

/-- What stands for a text that begins with a dot begins with the dot, as it is or encoded. -/
theorem exists_of_decode_eq_cons_dot (h : decode cs = 0x2E :: bs) :
    ∃ rest, decode rest = bs ∧
      (cs = '.' :: rest ∨ cs = '%' :: '2' :: 'e' :: rest ∨ cs = '%' :: '2' :: 'E' :: rest) := by
  unfold decode at h
  split at h
  · cases h
  · rename_i a b rest
    split at h
    · rename_i x y hx hy
      obtain ⟨hbyte, hrest⟩ := List.cons.inj h
      obtain ⟨-, hx16, hx⟩ := Digit.value?_eq_some_iff.mp hx
      obtain ⟨-, hy16, hy⟩ := Digit.value?_eq_some_iff.mp hy
      have hvalue : (16 * x + y) % 256 = 0x2E := by
        have hnat := congrArg UInt8.toNat hbyte
        rwa [UInt8.toNat_ofNat'] at hnat
      have ha : a = '2' := Char.toNat_inj.mp (by rw [show '2'.toNat = 0x32 from rfl]; omega)
      subst ha
      have hb : b = 'e' ∨ b = 'E' := by
        have hby : b.toNat = 0x65 ∨ b.toNat = 0x45 := by omega
        rcases hby with hb | hb
        · exact Or.inl (Char.toNat_inj.mp hb)
        · exact Or.inr (Char.toNat_inj.mp hb)
      rcases hb with rfl | rfl
      · exact ⟨rest, hrest, Or.inr (Or.inl rfl)⟩
      · exact ⟨rest, hrest, Or.inr (Or.inr rfl)⟩
    · exact absurd (List.cons.inj h).1 (by decide)
  · rename_i d rest _
    -- the bytes of a character that begin with that of the dot are those of the dot
    have hdot : Utf8.next 0x2E bs = (some '.', bs) := Utf8.next_eq_some_iff.mpr rfl
    have hread : Utf8.next 0x2E bs = (some d, decode rest) := Utf8.next_eq_some_iff.mpr h.symm
    rw [hdot] at hread
    cases hread
    exact ⟨rest, rfl, Or.inl rfl⟩

end Percent

end FragmentFeed.Text
