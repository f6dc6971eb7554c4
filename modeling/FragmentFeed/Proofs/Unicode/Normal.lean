import FragmentFeed.Proofs.Text.Characters
import FragmentFeed.Proofs.Unicode.StepTable
import FragmentFeed.Unicode.Normal

/-!
# Normalization does not lead into ASCII

A text with a character beyond ASCII still has one when it has been normalized (`hasForeign_normalize`). Each
step keeps one: what is taken apart leaves one, to order loses nothing, and what is put together is beyond ASCII
itself.
-/

namespace FragmentFeed.Unicode

open Text

variable {c d p s : Char} {cs marks : List Char} {n : Nat} {row : Nat × List Char}

/-- Whether there is a character beyond ASCII in a text. -/
def HasForeign (cs : List Char) : Prop := ∃ c ∈ cs, 0x80 ≤ c.toNat

/-! ## The rows of the table -/

/-- Whether a row is about a character beyond ASCII, which is taken apart into two of which the second is beyond
ASCII too. -/
def isForeignRow (row : Nat × List Char) : Bool :=
  0x80 ≤ (Char.ofNat row.1).toNat && (pairOf row.2).all fun pair => 0x80 ≤ pair.2.toNat

theorem all_pairRows : pairRows.toList.all isForeignRow = true := by
  apply StepTable.of_lines (P := fun rows => rows.all isForeignRow = true)
  · repeat (first | exact StepTable.toLists_nil | apply StepTable.toLists_cons rfl)
  · decide +kernel

theorem of_mem_pairRows (h : row ∈ pairRows.toList) :
    0x80 ≤ (Char.ofNat row.1).toNat ∧ ∀ a b, pairOf row.2 = some (a, b) → 0x80 ≤ b.toNat := by
  obtain ⟨hrow, hpair⟩ := Bool.and_eq_true_iff.mp (List.all_eq_true.mp all_pairRows row h)
  refine ⟨of_decide_eq_true hrow, fun a b hab => ?_⟩
  rw [hab] at hpair
  exact of_decide_eq_true hpair

/-! ## Taking apart -/

theorem le_of_hangulSplit {parts : Nat × Nat} (h : hangulSplit n = some parts) :
    0x80 ≤ parts.1 ∧ parts.1 < 0xD800 := by
  unfold hangulSplit at h
  split at h
  · dsimp only at h
    split at h
    · obtain rfl := Option.some.inj h
      dsimp only
      omega
    · obtain rfl := Option.some.inj h
      dsimp only
      omega
  · cases h

/-- One part at least is beyond ASCII. -/
theorem hasForeign_of_parts? {parts : Char × Char} (h : parts? c = some parts) :
    HasForeign [parts.1, parts.2] := by
  rcases Option.or_eq_some_iff.mp h with hhangul | ⟨-, htable⟩
  · obtain ⟨pair, hpair, rfl⟩ := Option.map_eq_some_iff.mp hhangul
    obtain ⟨hle, hlt⟩ := le_of_hangulSplit hpair
    refine ⟨Char.ofNat pair.1, by simp, ?_⟩
    rw [toNat_ofNat_of_lt hlt]
    exact hle
  · obtain ⟨row, hfilter, hpair⟩ := Option.bind_eq_some_iff.mp htable
    have hrow := StepTable.mem_of_find? (Option.filter_eq_some_iff.mp hfilter).1
    exact ⟨parts.2, by simp, (of_mem_pairRows hrow).2 parts.1 parts.2 hpair⟩

theorem hasForeign_splitOnce (h : 0x80 ≤ c.toNat) : HasForeign (splitOnce c) := by
  unfold splitOnce
  split
  · rename_i a b hparts
    exact hasForeign_of_parts? hparts
  · exact ⟨c, by simp, h⟩

theorem hasForeign_flatMap_splitOnce (h : HasForeign cs) : HasForeign (cs.flatMap splitOnce) := by
  obtain ⟨c, hc, hforeign⟩ := h
  obtain ⟨d, hd, hforeign⟩ := hasForeign_splitOnce hforeign
  exact ⟨d, List.mem_flatMap.mpr ⟨c, hc, hd⟩, hforeign⟩

/-! ## Ordering -/

theorem mem_insertMark : d ∈ insertMark c cs ↔ d = c ∨ d ∈ cs := by
  induction cs with
  | nil => simp [insertMark]
  | cons e rest ih =>
    rw [insertMark]
    split
    · rw [List.mem_cons, ih, List.mem_cons, or_left_comm]
    · rw [List.mem_cons]

/-- To order loses no character. -/
theorem mem_reorder (h : d ∈ marks ∨ d ∈ cs) : d ∈ reorder marks cs := by
  fun_induction reorder marks cs with
  | case1 marks =>
    rcases h with h | h
    · exact h
    · cases h
  | case2 marks c rest hclass ih =>
    rcases h with h | h
    · exact List.mem_append_left _ h
    · rcases List.mem_cons.mp h with rfl | h
      · exact List.mem_append_right _ (by simp)
      · exact List.mem_append_right _ (List.mem_cons_of_mem _ (ih (Or.inr h)))
  | case3 marks c rest hclass ih =>
    rcases h with h | h
    · exact ih (Or.inl (mem_insertMark.mpr (Or.inr h)))
    · rcases List.mem_cons.mp h with rfl | h
      · exact ih (Or.inl (mem_insertMark.mpr (Or.inl rfl)))
      · exact ih (Or.inr h)

/-! ## Putting together -/

theorem mem_of_lookup {α β : Type} [BEq α] {a : α} {b : β} {l : List (α × β)} (h : l.lookup a = some b) :
    ∃ a', (a', b) ∈ l := by
  induction l with
  | nil => cases h
  | cons q l ih =>
    rw [List.lookup_cons] at h
    split at h
    · cases h
      exact ⟨q.1, by simp⟩
    · obtain ⟨a', ha'⟩ := ih h
      exact ⟨a', List.mem_cons_of_mem q ha'⟩

theorem le_of_hangulJoin {a b : Nat} (h : hangulJoin a b = some n) : 0x80 ≤ n ∧ n < 0xD800 := by
  unfold hangulJoin at h
  split at h
  · obtain rfl := Option.some.inj h
    omega
  · split at h
    · obtain rfl := Option.some.inj h
      omega
    · cases h

/-- What two characters make is beyond ASCII. -/
theorem le_of_join? (h : join? s c = some p) : 0x80 ≤ p.toNat := by
  unfold join? at h
  split at h
  · rename_i n hn
    obtain rfl := Option.some.inj h
    obtain ⟨hle, hlt⟩ := le_of_hangulJoin hn
    rw [toNat_ofNat_of_lt hlt]
    exact hle
  · obtain ⟨pair, hpair⟩ := mem_of_lookup h
    obtain ⟨row, hrow, hmade⟩ := List.mem_filterMap.mp hpair
    obtain ⟨_, -, heq⟩ := Option.map_eq_some_iff.mp hmade
    cases heq
    exact (of_mem_pairRows hrow).1

/-- To put together leaves a character beyond ASCII. -/
theorem hasForeign_recompose {starter : Option Char} (h : HasForeign (starter.toList ++ marks ++ cs)) :
    HasForeign (recompose starter marks cs) := by
  -- what has been put behind stays, and the rest keeps one by induction
  have hsplit (before : List Char) {rest rest' : List Char} (h : HasForeign (before ++ rest))
      (hrest : HasForeign rest → HasForeign rest') : HasForeign (before ++ rest') := by
    obtain ⟨c, hc, hforeign⟩ := h
    rcases List.mem_append.mp hc with hc | hc
    · exact ⟨c, List.mem_append_left _ hc, hforeign⟩
    · obtain ⟨d, hd, hforeign⟩ := hrest ⟨c, hc, hforeign⟩
      exact ⟨d, List.mem_append_right _ hd, hforeign⟩
  fun_induction recompose starter marks cs with
  | case1 starter marks => simpa using h
  | case2 marks c rest hclass ih => exact hsplit _ (by simpa using h) fun hrest => ih (by simpa using hrest)
  | case3 marks c rest hclass ih => exact ih (by simpa using h)
  | case4 s marks c rest reaches p hjoin ih =>
    have hp : 0x80 ≤ p.toNat := by
      split at hjoin
      · exact le_of_join? hjoin
      · cases hjoin
    exact ih ⟨p, by simp, hp⟩
  | case5 s marks c rest reaches hjoin hclass ih =>
    exact hsplit (s :: marks) (by simpa using h) fun hrest => ih (by simpa using hrest)
  | case6 s marks c rest reaches hjoin hclass ih => exact ih (by simpa using h)

/-- **To normalize does not lead into ASCII.** -/
theorem hasForeign_normalize (h : HasForeign cs) : HasForeign (normalize cs) := by
  have happart : HasForeign (decompose cs) :=
    hasForeign_flatMap_splitOnce (hasForeign_flatMap_splitOnce
      (hasForeign_flatMap_splitOnce (hasForeign_flatMap_splitOnce h)))
  obtain ⟨c, hc, hforeign⟩ := happart
  exact hasForeign_recompose ⟨c, mem_reorder (Or.inr hc), hforeign⟩

end FragmentFeed.Unicode
