import FragmentFeed.Proofs.Text.Pieces
import FragmentFeed.Proofs.Unicode.Normal
import FragmentFeed.Proofs.Url.Domain.Mapping
import FragmentFeed.Url.Domain

/-!
# Names as they are written

A name that is written in ASCII, without a label in Punycode, is in lower case and holds nothing forbidden
(`isWritten_of_toAscii?`), and such a name is written as it is (`toAscii?_eq_self`). For a label beyond ASCII
would be written in Punycode, and no character beyond ASCII gets lost before the labels are written.
-/

namespace FragmentFeed.Domain

open Text Unicode

variable {name cs : List Char} {ls : List (List Char)} {labels : List Label} {l : Label}

/-- Whether a name is as it is written, and not in Punycode. -/
structure IsWritten (name : List Char) : Prop where
  lower : ∀ c ∈ name, c.toNat < 0x80 ∧ c.isUpper = false
  allowed : ∀ c ∈ name, forbidden c = false
  plain : ∀ label ∈ pieces (· = '.') name, encodedMark.isPrefixOf label = false

theorem isAscii_iff : isAscii cs = true ↔ ∀ c ∈ cs, c.toNat < 0x80 := by
  simp [isAscii]

theorem hasForeign_iff : HasForeign cs ↔ ¬ isAscii cs = true := by
  simp [isAscii, HasForeign]

/-! ## Labels and dots -/

theorem join_cons_cons (l l' : List Char) (ls : List (List Char)) :
    join (l :: l' :: ls) = l ++ '.' :: join (l' :: ls) := rfl

/-- Labels joined come apart again, as far as there are dots in them. -/
theorem pieces_join (hne : ls ≠ []) :
    pieces (· = '.') (join ls) = ls.flatMap (pieces (· = '.')) := by
  fun_induction join ls with
  | case1 => exact absurd rfl hne
  | case2 l => simp
  | case3 l rest hrest ih =>
    have hne' : rest ≠ [] := fun h => hrest h
    rw [pieces_append_separator (by decide), ih hne', List.flatMap_cons]

theorem join_pieces (cs : List Char) : join (pieces (· = '.') cs) = cs := by
  induction cs with
  | nil => rfl
  | cons c cs ih =>
    obtain ⟨p, ps, hps⟩ := List.exists_cons_of_ne_nil (pieces_ne_nil (fun c : Char => decide (c = '.')) cs)
    rw [hps] at ih
    rw [pieces, hps]
    split
    · rename_i hdot
      rw [join_cons_cons, ih, of_decide_eq_true hdot]
      rfl
    · cases ps with
      | nil =>
        rw [← ih]
        rfl
      | cons q ps =>
        rw [join_cons_cons] at ih
        show c :: p ++ '.' :: join (q :: ps) = c :: cs
        rw [List.cons_append, ih]

theorem isAscii_join (h : ∀ label ∈ ls, isAscii label = true) : isAscii (join ls) = true := by
  fun_induction join ls with
  | case1 => rfl
  | case2 l => exact h l (by simp)
  | case3 l rest hrest ih =>
    obtain ⟨hl, hothers⟩ := List.forall_mem_cons.mp h
    simp only [isAscii, List.all_append, List.all_cons, Bool.and_eq_true]
    exact ⟨hl, by decide, ih hothers⟩

/-- A label that begins with the mark of Punycode shows among the labels of the whole name. -/
theorem exists_of_mem_join {label : List Char} (hmem : label ∈ ls) (hmark : encodedMark.isPrefixOf label = true) :
    ∃ piece ∈ pieces (· = '.') (join ls), encodedMark.isPrefixOf piece = true := by
  obtain ⟨rest, rfl⟩ := List.isPrefixOf_iff_prefix.mp hmark
  obtain ⟨p, ps, hps⟩ := List.exists_cons_of_ne_nil (pieces_ne_nil (fun c : Char => decide (c = '.')) rest)
  have hnodot : ∀ c ∈ encodedMark, decide (c = '.') = false := by simp [encodedMark]
  have hpieces : pieces (· = '.') (encodedMark ++ rest) = (encodedMark ++ p) :: ps :=
    pieces_append_of_head hnodot hps
  refine ⟨encodedMark ++ p, ?_, List.isPrefixOf_iff_prefix.mpr (List.prefix_append _ _)⟩
  rw [pieces_join (List.ne_nil_of_mem hmem)]
  exact List.mem_flatMap.mpr ⟨_, hmem, by rw [hpieces]; exact List.mem_cons_self⟩

/-! ## Labels that are not written in Punycode -/

/-- Such a label is one of ASCII, and itself. -/
theorem eq_of_ofMapped? (h : Label.ofMapped? cs = some l) (hplain : encodedMark.isPrefixOf l.written = false) :
    l = ⟨cs, cs⟩ ∧ isAscii cs = true := by
  unfold Label.ofMapped? at h
  split at h
  · rename_i hmark
    split at h
    · cases h
    · split at h
      · cases h
        exact absurd (hplain.symm.trans hmark) Bool.false_ne_true
      · cases h
  · split at h
    · rename_i hascii
      cases h
      exact ⟨rfl, hascii⟩
    · split at h
      · cases h
        have hmark : encodedMark.isPrefixOf (encodedMark ++ Punycode.encode cs) = true :=
          List.isPrefixOf_iff_prefix.mpr (List.prefix_append _ _)
        exact absurd (hplain.symm.trans hmark) Bool.false_ne_true
      · cases h

theorem ofMapped?_of_plain (hascii : isAscii cs = true) (hplain : encodedMark.isPrefixOf cs = false) :
    Label.ofMapped? cs = some ⟨cs, cs⟩ := by
  unfold Label.ofMapped?
  rw [if_neg (Bool.eq_false_iff.mp hplain), if_pos hascii]

theorem mapM_ofMapped?_sound (h : ls.mapM Label.ofMapped? = some labels)
    (hplain : ∀ l ∈ labels, encodedMark.isPrefixOf l.written = false) :
    labels.map (·.written) = ls ∧ ∀ label ∈ ls, isAscii label = true := by
  induction ls generalizing labels with
  | nil =>
    cases h
    exact ⟨rfl, List.forall_mem_nil _⟩
  | cons cs ls ih =>
    rw [List.mapM_cons] at h
    obtain ⟨l, hl, h⟩ := Option.bind_eq_some_iff.mp h
    obtain ⟨rest, hrest, h⟩ := Option.bind_eq_some_iff.mp h
    cases h
    obtain ⟨hfirst, hothers⟩ := List.forall_mem_cons.mp hplain
    obtain ⟨rfl, hascii⟩ := eq_of_ofMapped? hl hfirst
    obtain ⟨hwritten, hall⟩ := ih hrest hothers
    exact ⟨by rw [List.map_cons, hwritten], List.forall_mem_cons.mpr ⟨hascii, hall⟩⟩

theorem mapM_ofMapped?_complete
    (h : ∀ label ∈ ls, isAscii label = true ∧ encodedMark.isPrefixOf label = false) :
    ls.mapM Label.ofMapped? = some (ls.map fun label => ⟨label, label⟩) := by
  induction ls with
  | nil => rfl
  | cons cs ls ih =>
    obtain ⟨⟨hascii, hplain⟩, hrest⟩ := List.forall_mem_cons.mp h
    rw [List.mapM_cons, ofMapped?_of_plain hascii hplain, ih hrest]
    rfl

/-! ## Names -/

/-- There is no right-to-left character in ASCII. -/
theorem not_isRightToLeft {c : Char} (h : c.toNat < 0x80) : (direction c).isRightToLeft = false := by
  unfold direction
  rw [if_pos h]
  split
  · rfl
  · split
    · rfl
    · rfl

theorem directionsFit_of_isAscii (h : ∀ label ∈ ls, isAscii label = true) :
    directionsFit (ls.map fun label => ⟨label, label⟩) = true := by
  have hnone : ((ls.map fun label => (⟨label, label⟩ : Label)).any
      (·.text.any fun c => (direction c).isRightToLeft)) = false := by
    rw [List.any_map, List.any_eq_false]
    intro label hlabel
    rw [Bool.not_eq_true]
    show (label.any fun c => (direction c).isRightToLeft) = false
    rw [List.any_eq_false]
    intro c hc
    rw [not_isRightToLeft (isAscii_iff.mp (h label hlabel) c hc)]
    exact Bool.false_ne_true
  unfold directionsFit
  rw [hnone]
  rfl

/-- **What is written is written as it is.** -/
theorem toAscii?_eq_self (h : IsWritten name) : toAscii? name = some name := by
  have hascii : isAscii name = true := isAscii_iff.mpr fun c hc => (h.lower c hc).1
  have hlabel : ∀ label ∈ pieces (· = '.') name, isAscii label = true := fun label hlabel =>
    isAscii_iff.mpr fun c hc => isAscii_iff.mp hascii c (not_isSeparator_of_mem_pieces hlabel c hc).1
  have hallowed : name.any forbidden = false := by
    rw [List.any_eq_false]
    intro c hc
    rw [h.allowed c hc]
    exact Bool.false_ne_true
  have hwritten : ((pieces (· = '.') name).map fun label => (⟨label, label⟩ : Label)).map (·.written)
      = pieces (· = '.') name := by
    rw [List.map_map]
    exact List.map_id _
  unfold toAscii?
  rw [mapAll_eq_self h.lower]
  simp only [Option.bind_eq_bind, Option.bind_some, hascii, if_true,
    mapM_ofMapped?_complete fun label hmem => ⟨hlabel label hmem, h.plain label hmem⟩,
    directionsFit_of_isAscii hlabel, hwritten, join_pieces, hallowed]
  rfl

/-- **A name without labels in Punycode is as it is written.** -/
theorem isWritten_of_toAscii? (h : toAscii? cs = some name)
    (hplain : ∀ label ∈ pieces (· = '.') name, encodedMark.isPrefixOf label = false) : IsWritten name := by
  unfold toAscii? at h
  obtain ⟨mapped, hmapped, h⟩ := Option.bind_eq_some_iff.mp h
  obtain ⟨labels, hlabels, h⟩ := Option.bind_eq_some_iff.mp h
  dsimp only at h
  split at h
  · rename_i hfits
    have hname : join (labels.map (·.written)) = name := Option.some.inj h
    obtain ⟨-, hforbidden⟩ := Bool.and_eq_true_iff.mp hfits
    rw [hname] at hforbidden
    have hwritten : ∀ l ∈ labels, encodedMark.isPrefixOf l.written = false := by
      intro l hl
      refine Bool.eq_false_iff.mpr fun hmark => ?_
      obtain ⟨piece, hpiece, hmark⟩ := exists_of_mem_join (List.mem_map_of_mem hl) hmark
      rw [hname] at hpiece
      exact absurd ((hplain piece hpiece).symm.trans hmark) Bool.false_ne_true
    obtain ⟨heq, hascii⟩ := mapM_ofMapped?_sound hlabels hwritten
    have hnormal := isAscii_join hascii
    rw [heq, join_pieces] at hname
    rw [join_pieces, hname] at hnormal
    -- had there been a character beyond ASCII, there would still be one
    have hmappedAscii : isAscii mapped = true := by
      refine Classical.byContradiction fun hforeign => ?_
      rw [if_neg hforeign] at hname
      have hstill : HasForeign (normalize mapped) := hasForeign_normalize (hasForeign_iff.mpr hforeign)
      rw [hname] at hstill
      exact hasForeign_iff.mp hstill hnormal
    rw [if_pos hmappedAscii] at hname
    subst hname
    have hupper := not_isUpper_of_mapAll hmapped
    exact ⟨fun c hc => ⟨isAscii_iff.mp hnormal c hc, hupper c hc⟩, by simpa using hforbidden, hplain⟩
  · cases h

end FragmentFeed.Domain
