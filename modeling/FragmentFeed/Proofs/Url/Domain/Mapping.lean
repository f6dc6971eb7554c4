import FragmentFeed.Proofs.Text.Characters
import FragmentFeed.Proofs.Unicode.StepTable
import FragmentFeed.Url.Domain.Mapping

/-!
# Mapped names are in lower case

No character is mapped to a capital letter of ASCII (`not_isUpper_of_mapAll`), so that a name of ASCII
characters which has been mapped is not changed by mapping it again (`mapAll_eq_self`). Beyond ASCII that is a
matter of the table: each of its rows is looked through.
-/

namespace FragmentFeed.Domain

open Text Unicode

variable {c : Char} {cs ds : List Char} {start stop n : Nat} {tag : List Char}

/-! ## The rows of the table -/

/-- Whether a row maps no character of its range to a capital letter: where something is taken off, the whole
range stays on one side of the letters, and where other characters are named, none is one of them. -/
def sparesCapitals (start stop : Nat) : List Char → Bool
  | 'd' :: '-' :: amount =>
    match Digit.gather? 10 0 amount with
    | some k => stop ≤ 0x41 + k || 0x5B + k ≤ start
    | none => true
  | 'm' :: cs =>
    match (pieces (· = ',') cs).mapM (Digit.gather? 16 0) with
    | some ns => ns.all fun n => n < 0x41 || 0x5A < n
    | none => true
  | _ => true

theorem checkRows_steps : StepTable.checkRows sparesCapitals steps.toList = true := by
  apply StepTable.of_lines (P := fun rows => StepTable.checkRows sparesCapitals rows = true)
  · repeat (first | exact StepTable.toLists_nil | apply StepTable.toLists_cons rfl)
  · decide +kernel

theorem not_isUpper_ofNat (h : n < 0x41 ∨ 0x5A < n) : (Char.ofNat n).isUpper = false := by
  refine Bool.eq_false_iff.mpr fun hupper => ?_
  have hrange := isUpper_iff.mp hupper
  rcases toNat_ofNat n with heq | heq
  · omega
  · omega

theorem not_isUpper_of_le (h : 0x80 ≤ c.toNat) : c.isUpper = false := by
  refine Bool.eq_false_iff.mpr fun hupper => ?_
  have hrange := isUpper_iff.mp hupper
  omega

/-- What a row that spares the capitals makes of a character has none. -/
theorem not_isUpper_of_ofTag (hspares : sparesCapitals start stop tag = true) (hn : start ≤ n ∧ n < stop)
    (hascii : 0x80 ≤ n) (h : Mapping.ofTag start n tag = .become cs) : ∀ c ∈ cs, c.isUpper = false := by
  unfold Mapping.ofTag at h
  split at h
  · cases h
  · cases h
  · split at h
    · cases h
      exact List.forall_mem_singleton.mpr (not_isUpper_ofNat (by omega))
    · cases h
  · rename_i amount
    split at h
    · rename_i k hk
      cases h
      simp only [sparesCapitals, hk, Bool.or_eq_true, decide_eq_true_eq] at hspares
      exact List.forall_mem_singleton.mpr (not_isUpper_ofNat (by omega))
    · cases h
  · split at h
    · cases h
      exact List.forall_mem_singleton.mpr (not_isUpper_ofNat (by omega))
    · cases h
  · rename_i names
    split at h
    · rename_i ns hns
      cases h
      simp only [sparesCapitals, hns, List.all_eq_true, Bool.or_eq_true, decide_eq_true_eq] at hspares
      intro c hc
      obtain ⟨n, hn, rfl⟩ := List.mem_map.mp hc
      exact not_isUpper_ofNat (hspares n hn)
    · cases h
  · cases h

/-! ## Characters and names -/

theorem not_isUpper_toLower (c : Char) : c.toLower.isUpper = false := by
  unfold Char.toLower
  split
  · rename_i hupper
    have hrange := isUpper_iff.mp (decide_eq_true hupper)
    refine Bool.eq_false_iff.mpr fun hlower => ?_
    have hsum : (c.val + ('a'.val - 'A'.val)).toNat = c.toNat + 0x20 := by
      rw [UInt32.toNat_add, show ('a'.val - 'A'.val).toNat = 0x20 from rfl]
      exact Nat.mod_eq_of_lt (by rw [Char.toNat_val]; omega)
    have hrange' : 0x41 ≤ c.toNat + 0x20 ∧ c.toNat + 0x20 ≤ 0x5A := by
      rw [← hsum]
      exact isUpper_iff.mp hlower
    omega
  · rename_i hupper
    exact Bool.eq_false_iff.mpr fun h => hupper (of_decide_eq_true h)

/-- No character becomes a capital letter. -/
theorem not_isUpper_of_mapping (h : mapping c = .become cs) : ∀ d ∈ cs, d.isUpper = false := by
  unfold mapping at h
  split at h
  · split at h
    · cases h
      exact List.forall_mem_singleton.mpr (not_isUpper_toLower c)
    · cases h
  · rename_i hascii
    split at h
    · rename_i start tag hfind
      obtain ⟨stop, hle, hlt, hspares⟩ := StepTable.check_of_find? checkRows_steps (toNat_lt c) hfind
      exact not_isUpper_of_ofTag hspares ⟨hle, hlt⟩ (Nat.not_lt.mp hascii) h
    · cases h

/-- And none that stays is one. -/
theorem not_isUpper_of_keep (h : mapping c = .keep) : c.isUpper = false := by
  unfold mapping at h
  split at h
  · split at h
    · cases h
    · rename_i hupper
      exact Bool.eq_false_iff.mpr hupper
  · rename_i hascii
    exact not_isUpper_of_le (Nat.not_lt.mp hascii)

/-- **A mapped name has no capital letters.** -/
theorem not_isUpper_of_mapAll (h : mapAll cs = some ds) : ∀ d ∈ ds, d.isUpper = false := by
  induction cs generalizing ds with
  | nil =>
    cases h
    exact List.forall_mem_nil _
  | cons c rest ih =>
    rw [mapAll] at h
    split at h
    · rename_i hkeep
      obtain ⟨es, hes, rfl⟩ := Option.map_eq_some_iff.mp h
      exact List.forall_mem_cons.mpr ⟨not_isUpper_of_keep hkeep, ih hes⟩
    · exact ih h
    · rename_i become hbecome
      obtain ⟨es, hes, rfl⟩ := Option.map_eq_some_iff.mp h
      exact List.forall_mem_append.mpr ⟨not_isUpper_of_mapping hbecome, ih hes⟩
    · cases h

/-- A name in lower case stays as it is. -/
theorem mapAll_eq_self (h : ∀ c ∈ cs, c.toNat < 0x80 ∧ c.isUpper = false) : mapAll cs = some cs := by
  induction cs with
  | nil => rfl
  | cons c rest ih =>
    obtain ⟨⟨hascii, hupper⟩, hrest⟩ := List.forall_mem_cons.mp h
    have hkeep : mapping c = .keep := by
      unfold mapping
      rw [if_pos hascii, if_neg (Bool.eq_false_iff.mp hupper)]
    rw [mapAll, hkeep, ih hrest]
    rfl

end FragmentFeed.Domain
