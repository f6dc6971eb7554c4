import Mathlib.Data.List.Induction
import FragmentFeed.Log.Filter

/-!
# Precedence of rules

Specificity is a linear order up to rules for the same events (`specificity_eq_eq_iff`). A table of rules
that are put in their places falls in specificity (`descends_table`), and holds of several rules for the
same events the last one (`mem_table_iff`).
-/

namespace FragmentFeed.Log

namespace Rule

/-- Specificity as one comparison after the other. -/
theorem specificity_def :
    specificity = compareLex
      (compareLex (compareOn fun r : Rule => r.target.map Text.Utf8.byteLength)
        (compareOn fun r : Rule => r.fields.length))
      (compareLex (compareOn (·.target)) (compareOn (·.fields))) := rfl

instance : Std.TransCmp specificity := by
  rw [specificity_def]
  infer_instance

variable {a b c : Rule}

/-- Rules compare equal if they are for the same events. -/
theorem specificity_eq_eq_iff : specificity a b = .eq ↔ a.target = b.target ∧ a.fields = b.fields := by
  simp only [specificity, Ordering.then_eq_eq, Std.compare_eq_iff_eq]
  constructor
  · exact fun h => h.2
  · exact fun h => ⟨⟨by rw [h.1], by rw [h.2]⟩, h⟩

end Rule

namespace Filter

open Std

variable {r s : Rule} {rules rs : List Rule}

/-! ## Tables -/

/-- Whether each rule is more specific than those behind it. -/
def Descends (rules : List Rule) : Prop := rules.Pairwise fun a b => a.specificity b = .gt

/-- A rule that is put in its place takes that of one for the same events, and of no other. -/
theorem mem_insertRule_iff (h : Descends rules) :
    s ∈ insertRule r rules ↔ s = r ∨ s ∈ rules ∧ r.specificity s ≠ .eq := by
  induction rules with
  | nil => simp [insertRule]
  | cons t rules ih =>
    obtain ⟨hall, hrest⟩ := List.pairwise_cons.mp h
    rw [insertRule]
    cases hcmp : r.specificity t with
    | gt =>
      have hfar : s ∈ t :: rules → r.specificity s ≠ .eq := by
        intro hs
        rcases List.mem_cons.mp hs with rfl | hs
        · rw [hcmp]
          decide
        · rw [TransCmp.gt_trans hcmp (hall s hs)]
          decide
      simp only [List.mem_cons] at hfar ⊢
      grind
    | eq =>
      have hfar : s ∈ rules → r.specificity s ≠ .eq := by
        intro hs
        rw [TransCmp.gt_of_eq_of_gt hcmp (hall s hs)]
        decide
      have hself : s = t → r.specificity s = .eq := by
        rintro rfl
        exact hcmp
      simp only [List.mem_cons]
      grind
    | lt =>
      have hself : s = t → r.specificity s ≠ .eq := by
        rintro rfl
        rw [hcmp]
        decide
      simp only [List.mem_cons, ih hrest]
      grind

theorem descends_insertRule (h : Descends rules) : Descends (insertRule r rules) := by
  induction rules with
  | nil => exact List.pairwise_singleton _ _
  | cons t rules ih =>
    obtain ⟨hall, hrest⟩ := List.pairwise_cons.mp h
    rw [insertRule]
    cases hcmp : r.specificity t with
    | gt =>
      refine List.pairwise_cons.mpr ⟨fun u hu => ?_, h⟩
      rcases List.mem_cons.mp hu with rfl | hu
      · exact hcmp
      · exact TransCmp.gt_trans hcmp (hall u hu)
    | eq => exact List.pairwise_cons.mpr ⟨fun u hu => TransCmp.gt_of_eq_of_gt hcmp (hall u hu), hrest⟩
    | lt =>
      refine List.pairwise_cons.mpr ⟨fun u hu => ?_, ih hrest⟩
      rcases (mem_insertRule_iff hrest).mp hu with rfl | ⟨hu, -⟩
      · exact OrientedCmp.gt_of_lt hcmp
      · exact hall u hu

/-- The table that rules make, put in place one after the other. -/
def table (rs : List Rule) : List Rule := rs.foldl (fun rules r => insertRule r rules) []

theorem table_append_singleton (rs : List Rule) (r : Rule) :
    table (rs ++ [r]) = insertRule r (table rs) := by
  rw [table, List.foldl_append]
  rfl

theorem descends_table (rs : List Rule) : Descends (table rs) := by
  induction rs using List.reverseRecOn with
  | nil => exact List.Pairwise.nil
  | append_singleton rs r ih =>
    rw [table_append_singleton]
    exact descends_insertRule ih

/-- Whether a rule is among others, none of which behind it is for the same events. -/
def IsLast (rs : List Rule) (s : Rule) : Prop :=
  ∃ before after, rs = before ++ s :: after ∧ ∀ r ∈ after, r.specificity s ≠ .eq

theorem isLast_append_singleton :
    IsLast (rs ++ [r]) s ↔ s = r ∨ IsLast rs s ∧ r.specificity s ≠ .eq := by
  constructor
  · rintro ⟨before, after, heq, hafter⟩
    rcases List.eq_nil_or_concat after with rfl | ⟨after, t, rfl⟩
    · obtain ⟨-, hlast⟩ := List.append_inj' heq rfl
      exact Or.inl (List.cons.inj hlast).1.symm
    · rw [List.concat_eq_append] at heq hafter
      rw [← List.cons_append, ← List.append_assoc] at heq
      obtain ⟨hrs, hlast⟩ := List.append_inj' heq rfl
      obtain ⟨rfl, -⟩ := List.cons.inj hlast
      exact Or.inr ⟨⟨before, after, hrs, fun u hu => hafter u (by simp [hu])⟩, hafter r (by simp)⟩
  · rintro (rfl | ⟨⟨before, after, rfl, hafter⟩, hr⟩)
    · exact ⟨rs, [], rfl, by simp⟩
    · refine ⟨before, after ++ [r], by simp, fun t ht => ?_⟩
      rcases List.mem_append.mp ht with ht | ht
      · exact hafter t ht
      · rw [List.mem_singleton.mp ht]
        exact hr

/-- **Of several rules for the same events the last one is in the table.** -/
theorem mem_table_iff : s ∈ table rs ↔ IsLast rs s := by
  induction rs using List.reverseRecOn with
  | nil => simp [table, IsLast]
  | append_singleton rs r ih =>
    rw [table_append_singleton, mem_insertRule_iff (descends_table rs), ih, isLast_append_singleton]

end Filter

end FragmentFeed.Log
