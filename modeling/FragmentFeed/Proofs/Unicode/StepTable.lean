import FragmentFeed.Unicode.StepTable

/-!
# Rows of step tables

The row found for a code point begins at or before it, and the row behind that one begins after it
(`find?_eq_some`), whether or not the rows ascend. So what has been looked through once, row by row, holds of
every row found (`check_of_find?`).
-/

namespace FragmentFeed.Unicode.StepTable

variable {t : StepTable} {n lo hi start : Nat} {row : Nat × List Char} {tag : List Char}

/-! ## Searching -/

/-- What is known where the search ends: it has met the row before, unless it is where it began, and the row
there, unless it is at the other end. -/
theorem search_spec (h : lo ≤ hi) :
    (search t n lo hi = lo ∨ ∃ k r, search t n lo hi = k + 1 ∧ t[k]? = some r ∧ r.1 ≤ n) ∧
      (search t n lo hi = hi ∨ ∀ r, t[search t n lo hi]? = some r → n < r.1) := by
  fun_induction search t n lo hi with
  | case1 lo hi hlt mid hnone ih =>
    obtain ⟨hbefore, hthere⟩ := ih (by omega)
    refine ⟨hbefore, Or.inr ?_⟩
    rcases hthere with heq | hall
    · intro r hr
      rw [heq, hnone] at hr
      cases hr
    · exact hall
  | case2 lo hi hlt mid r hr hle ih =>
    obtain ⟨hbefore, hthere⟩ := ih (by omega)
    refine ⟨Or.inr ?_, hthere⟩
    rcases hbefore with heq | hmet
    · exact ⟨mid, r, heq, hr, hle⟩
    · exact hmet
  | case3 lo hi hlt mid r hr hgt ih =>
    obtain ⟨hbefore, hthere⟩ := ih (by omega)
    refine ⟨hbefore, Or.inr ?_⟩
    rcases hthere with heq | hall
    · intro r' hr'
      rw [heq, hr] at hr'
      cases hr'
      omega
    · exact hall
  | case4 lo hi hge => exact ⟨Or.inl rfl, Or.inl (by omega)⟩

/-- **The row found holds the code point.** -/
theorem find?_eq_some (h : t.find? n = some row) :
    ∃ k, t[k]? = some row ∧ row.1 ≤ n ∧ ∀ next, t[k + 1]? = some next → n < next.1 := by
  obtain ⟨hbefore, hthere⟩ := search_spec (t := t) (n := n) (Nat.zero_le t.size)
  unfold find? at h
  split at h
  · cases h
  · rename_i k hk
    rw [hk] at hbefore hthere
    refine ⟨k, h, ?_, ?_⟩
    · rcases hbefore with hzero | ⟨k', r, hsucc, hr, hle⟩
      · cases hzero
      · cases hsucc
        cases h.symm.trans hr
        exact hle
    · rcases hthere with hsize | hall
      · intro next hnext
        have hlast : t[k + 1]? = none := by rw [show k + 1 = t.size from hsize, Array.getElem?_size]
        rw [hlast] at hnext
        cases hnext
      · exact hall

theorem mem_of_find? (h : t.find? n = some row) : row ∈ t.toList := by
  obtain ⟨k, hk, -, -⟩ := find?_eq_some h
  rw [← Array.getElem?_toList] at hk
  exact List.mem_of_getElem? hk

/-! ## Looking through a table -/

/-- Whether each row passes a check, which is told where its range begins and where it stops, and its tag. The
last row stops behind the last code point. -/
def checkRows (check : Nat → Nat → List Char → Bool) : List (Nat × List Char) → Bool
  | [] => true
  | [r] => check r.1 0x110000 r.2
  | r :: s :: rest => check r.1 s.1 r.2 && checkRows check (s :: rest)

theorem check_of_getElem? {check : Nat → Nat → List Char → Bool} {rows : List (Nat × List Char)}
    (h : checkRows check rows = true) {k : Nat} (hk : rows[k]? = some row) :
    check row.1 ((rows[k + 1]?.map (·.1)).getD 0x110000) row.2 = true := by
  fun_induction checkRows check rows generalizing k with
  | case1 => cases hk
  | case2 r =>
    cases k with
    | zero =>
      cases hk
      exact h
    | succ k => cases hk
  | case3 r s rest ih =>
    obtain ⟨hr, hrest⟩ := Bool.and_eq_true_iff.mp h
    cases k with
    | zero =>
      cases hk
      exact hr
    | succ k => exact ih hrest hk

/-- **What every row of a table passes, the row of a code point does.** -/
theorem check_of_find? {check : Nat → Nat → List Char → Bool} (h : checkRows check t.toList = true)
    (hn : n < 0x110000) (hfind : t.find? n = some (start, tag)) :
    ∃ stop, start ≤ n ∧ n < stop ∧ check start stop tag = true := by
  obtain ⟨k, hk, hle, hnext⟩ := find?_eq_some hfind
  rw [← Array.getElem?_toList] at hk
  refine ⟨_, hle, ?_, check_of_getElem? h hk⟩
  cases hsucc : t.toList[k + 1]? with
  | none => exact hn
  | some next =>
    rw [Array.getElem?_toList] at hsucc
    exact hnext next hsucc

/-! ## The characters of a table

The kernel takes long over the characters of a literal, unless they are spelled out. So a table is looked
through when its lines have been, by unification with `String.ofList`. -/

section lines

variable {s : String} {l : List Char} {ss lines : List String} {ls : List (List Char)}

theorem toLists_nil : ([] : List String).map String.toList = [] := rfl

theorem toLists_cons (h : s = String.ofList l) (hs : ss.map String.toList = ls) :
    (s :: ss).map String.toList = l :: ls := by
  rw [List.map_cons, h, String.toList_ofList, hs]

theorem of_lines {P : List (Nat × List Char) → Prop} (h : lines.map String.toList = ls)
    (hrows : P (ls.flatMap rowsOf)) : P (ofLines lines).toList := by
  rw [ofLines, h]
  exact hrows

end lines

end FragmentFeed.Unicode.StepTable
