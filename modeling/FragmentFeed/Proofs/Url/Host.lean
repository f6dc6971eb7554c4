import FragmentFeed.Proofs.Text.Percent
import FragmentFeed.Proofs.Url.Domain.Written
import FragmentFeed.Proofs.Url.Ipv4
import FragmentFeed.Proofs.Url.Ipv6
import FragmentFeed.Url.Parser

/-!
# Hosts there and back

A host is read as it is written, be it an address or a name without labels in Punycode (`isReadBack_of_parse`).
And its text is found in an authority again: whatever follows, it ends where it ended (`Host.IsReadBack`).
-/

namespace FragmentFeed

open Text

/-! ## Characters of an authority -/

namespace Url

variable {c : Char} {cs : List Char} {bracketed : Bool}

/-- Whether a character neither ends an authority nor the user information in it. -/
structure IsInner (c : Char) : Prop where
  visible : IsVisible c
  notEnd : endsAuthority .special c = false
  notAt : c ≠ '@'

instance (c : Char) : Decidable (IsInner c) :=
  decidable_of_iff (IsVisible c ∧ endsAuthority .special c = false ∧ c ≠ '@')
    ⟨fun h => ⟨h.1, h.2.1, h.2.2⟩, fun h => ⟨h.visible, h.notEnd, h.notAt⟩⟩

theorem isInner_of_isDigit (h : c.isDigit = true) : IsInner c ∧ c ≠ ':' := by
  have hrange := Char.isDigit_iff_toNat.mp h
  exact of_ascii (P := fun c => c.isDigit = true → IsInner c ∧ c ≠ ':') (by decide +kernel)
    (Nat.lt_of_le_of_lt hrange.2 (by decide)) h

/-- Whether a character stands for itself in the text of a host: no bracket, nor a colon outside brackets. -/
structure IsHostChar (bracketed : Bool) (c : Char) : Prop where
  inner : IsInner c
  notOpening : c ≠ '['
  notClosing : c ≠ ']'
  notColon : bracketed = false → c ≠ ':'

instance (bracketed : Bool) (c : Char) : Decidable (IsHostChar bracketed c) :=
  decidable_of_iff (IsInner c ∧ c ≠ '[' ∧ c ≠ ']' ∧ (bracketed = false → c ≠ ':'))
    ⟨fun h => ⟨h.1, h.2.1, h.2.2.1, h.2.2.2⟩, fun h => ⟨h.inner, h.notOpening, h.notClosing, h.notColon⟩⟩

theorem hostLength_append (h : ∀ c ∈ cs, IsHostChar bracketed c) (rest : List Char) :
    hostLength .special bracketed (cs ++ rest) = cs.length + hostLength .special bracketed rest := by
  induction cs with
  | nil => rw [List.nil_append, List.length_nil, Nat.zero_add]
  | cons c cs ih =>
    obtain ⟨hc, hcs⟩ := List.forall_mem_cons.mp h
    have hgoes : ¬ (c = ':' ∧ bracketed = false ∨ endsAuthority .special c = true) := by
      rintro (⟨hcolon, hout⟩ | hend)
      · exact hc.notColon hout hcolon
      · exact absurd (hc.inner.notEnd.symm.trans hend) Bool.false_ne_true
    rw [List.cons_append, hostLength, if_neg hgoes, if_neg hc.notOpening, if_neg hc.notClosing, ih hcs,
      List.length_cons]
    omega

end Url

namespace Host

variable {host : Host} {name text : List Char} {c : Char}

/-- Whether a host is read as it is written, and its text does not end early in an authority. -/
structure IsReadBack (host : Host) : Prop where
  parse : Host.parse host.toText = .ok host
  inner : ∀ c ∈ host.toText, Url.IsInner c
  hostLength (rest : List Char) :
    Url.hostLength .special false (host.toText ++ rest)
      = host.toText.length + Url.hostLength .special false rest

/-- There is no host without a text. -/
theorem IsReadBack.ne_nil (h : IsReadBack host) : host.toText ≠ [] := by
  intro hnil
  have hparse := h.parse
  rw [hnil] at hparse
  have hnone : (Host.parse []).toOption = none := by decide +kernel
  rw [hparse] at hnone
  cases hnone

/-! ## Names -/

/-- The characters of a name are neither those that delimit a host nor percent signs. -/
theorem isHostChar_of_isWritten (h : Domain.IsWritten name) (hc : c ∈ name) :
    Url.IsHostChar false c ∧ c ≠ '%' :=
  of_ascii (P := fun c => Domain.forbidden c = false → Url.IsHostChar false c ∧ c ≠ '%') (by decide +kernel)
    (h.lower c hc).1 (h.allowed c hc)

/-- Such a text is taken for the name that it spells. -/
theorem parse_eq_parseName (h : Domain.IsWritten name) : parse name = parseName name := by
  have hdecode : Utf8.decode? (Percent.decode name) = some name := by
    rw [Percent.decode_eq_encode fun c hc => (isHostChar_of_isWritten h hc).2, Utf8.decode?_encode]
  unfold parse
  split
  · exact absurd rfl (isHostChar_of_isWritten h List.mem_cons_self).1.notOpening
  · rw [hdecode]

theorem parseName_of_isWritten (h : Domain.IsWritten name) (hne : name ≠ []) :
    parseName name =
      if Ipv4.endsInNumber name then
        match Ipv4.parse? name with
        | some a => .ok (.ipv4 a)
        | none => .error .invalidIpv4
      else .ok (.domain name) := by
  unfold parseName
  rw [Domain.toAscii?_eq_self h]
  split
  · rename_i hnone
    cases hnone
  · rename_i hnil
    exact absurd (Option.some.inj hnil) hne
  · rename_i hname
    cases hname
    rfl

theorem isReadBack_domain (h : Domain.IsWritten name) (hne : name ≠ []) (hnumber : Ipv4.endsInNumber name = false) :
    IsReadBack (.domain name) where
  parse := by
    show Host.parse name = _
    rw [parse_eq_parseName h, parseName_of_isWritten h hne, hnumber]
    rfl
  inner := fun c hc => (isHostChar_of_isWritten h hc).1.inner
  hostLength := Url.hostLength_append fun c hc => (isHostChar_of_isWritten h hc).1

/-! ## Addresses -/

/-- The text of an IPv4 address is one of a name as well. -/
theorem isWritten_toText (a : Ipv4) : Domain.IsWritten a.toText := by
  have hrange {c : Char} (hc : c ∈ a.toText) : c.toNat < 0x40 := by
    rcases Ipv4.isDigit_of_mem_toText hc with hdigit | rfl
    · exact Nat.lt_of_le_of_lt (Char.isDigit_iff_toNat.mp hdigit).2 (by decide)
    · decide
  refine ⟨fun c hc => ?_, fun c hc => ?_, fun label hlabel => ?_⟩
  · have hlt := hrange hc
    refine ⟨by omega, Bool.eq_false_iff.mpr fun hupper => ?_⟩
    have hletter := (isUpper_iff.mp hupper).1
    omega
  · rcases Ipv4.isDigit_of_mem_toText hc with hdigit | rfl
    · exact of_ascii (P := fun c => c.isDigit = true → Domain.forbidden c = false) (by decide +kernel)
        (Nat.lt_trans (hrange hc) (by decide)) hdigit
    · decide
  · refine Bool.eq_false_iff.mpr fun hmark => ?_
    obtain ⟨rest, rfl⟩ := List.isPrefixOf_iff_prefix.mp hmark
    have hmem : 'x' ∈ Domain.encodedMark ++ rest := List.mem_cons_self
    have hx := hrange (not_isSeparator_of_mem_pieces hlabel 'x' hmem).1
    exact absurd hx (by decide)

theorem isReadBack_ipv4 (a : Ipv4) : IsReadBack (.ipv4 a) where
  parse := by
    have hwritten := isWritten_toText a
    have hne : a.toText ≠ [] := by
      intro hnil
      have hnumber := a.endsInNumber_toText
      rw [hnil] at hnumber
      exact absurd hnumber (by decide)
    show Host.parse a.toText = _
    rw [parse_eq_parseName hwritten, parseName_of_isWritten hwritten hne, a.endsInNumber_toText, a.parse?_toText]
    rfl
  inner := fun c hc => (isHostChar_of_isWritten (isWritten_toText a) hc).1.inner
  hostLength := Url.hostLength_append fun c hc => (isHostChar_of_isWritten (isWritten_toText a) hc).1

theorem isHostChar_of_mem_toText {a : Ipv6} (hc : c ∈ a.toText) : Url.IsHostChar true c := by
  rcases Ipv6.isDigit_of_mem_toText hc with rfl | ⟨v, hv⟩
  · decide
  · have hlt : c.toNat < 0x80 := by
      obtain ⟨-, hlt, hrange⟩ := Digit.value?_eq_some_iff.mp hv
      omega
    have hsome : (Digit.value? 16 c).isSome = true := Option.isSome_of_eq_some hv
    exact of_ascii (P := fun c => (Digit.value? 16 c).isSome = true → Url.IsHostChar true c) (by decide +kernel)
      hlt hsome

theorem isReadBack_ipv6 (a : Ipv6) : IsReadBack (.ipv6 a) where
  parse := by
    show parseBracketed (a.toText ++ [']']) = _
    unfold parseBracketed
    rw [List.getLast?_concat, if_pos rfl, List.dropLast_concat, a.parse?_toText]
  inner := by
    show ∀ c ∈ '[' :: a.toText ++ [']'], Url.IsInner c
    intro c hc
    rcases List.mem_append.mp hc with hc | hc
    · rcases List.mem_cons.mp hc with rfl | hc
      · decide
      · exact (isHostChar_of_mem_toText hc).inner
    · obtain rfl := List.mem_singleton.mp hc
      decide
  hostLength := fun rest => by
    have hopening (cs : List Char) :
        Url.hostLength .special false ('[' :: cs) = Url.hostLength .special true cs + 1 := rfl
    have hclosing (cs : List Char) :
        Url.hostLength .special true (']' :: cs) = Url.hostLength .special false cs + 1 := rfl
    show Url.hostLength .special false ('[' :: a.toText ++ [']'] ++ rest) = ('[' :: a.toText ++ [']']).length + _
    rw [List.append_assoc, List.cons_append, hopening, Url.hostLength_append fun c hc => isHostChar_of_mem_toText hc,
      List.singleton_append, hclosing, List.length_append, List.length_cons, List.length_singleton]
    omega

/-! ## Hosts -/

/-- The kinds of hosts that there are behind a special scheme. -/
theorem cases_of_parse (h : parse text = .ok host) :
    (∃ a, host = .ipv6 a) ∨ (∃ a, host = .ipv4 a) ∨
      ∃ name cs, host = .domain name ∧ Domain.toAscii? cs = some name ∧ name ≠ [] ∧
        Ipv4.endsInNumber name = false := by
  unfold parse at h
  split at h
  · unfold parseBracketed at h
    split at h
    · split at h
      · cases h
        exact Or.inl ⟨_, rfl⟩
      · cases h
    · cases h
  · split at h
    · cases h
    · rename_i cs hcs
      unfold parseName at h
      split at h
      · cases h
      · cases h
      · rename_i name hne hname
        split at h
        · split at h
          · cases h
            exact Or.inr (Or.inl ⟨_, rfl⟩)
          · cases h
        · rename_i hnumber
          cases h
          exact Or.inr (Or.inr ⟨name, cs, rfl, hname, hne, Bool.eq_false_iff.mpr hnumber⟩)

/-- **A host that has been read is read back**, if no label of its name is in Punycode. -/
theorem isReadBack_of_parse (h : parse text = .ok host)
    (hplain : ∀ name, host = .domain name →
      ∀ label ∈ pieces (· = '.') name, Domain.encodedMark.isPrefixOf label = false) :
    IsReadBack host := by
  rcases cases_of_parse h with ⟨a, rfl⟩ | ⟨a, rfl⟩ | ⟨name, cs, rfl, hname, hne, hnumber⟩
  · exact isReadBack_ipv6 a
  · exact isReadBack_ipv4 a
  · exact isReadBack_domain (Domain.isWritten_of_toAscii? hname (hplain name rfl)) hne hnumber

end Host

end FragmentFeed
