import Mathlib.Data.List.Basic
import FragmentFeed.Proofs.Log.Precedence
import FragmentFeed.Proofs.Text.Utf8

/-!
# The directive that governs a target

Where directives name neither spans nor fields, the one with the longest target that a target begins with
decides which of its events are let through, of several with that target the last one
(`enabled_of_governs`, `exists_governs`). In which order directives with different targets stand does not
matter (`ofDirectives_perm`).
-/

namespace FragmentFeed.Log

open Text

namespace Directive

/-- Whether a directive names neither a span nor fields. -/
def IsPlain (d : Directive) : Prop := d.span = none ∧ d.fields = []

/-- Whether a directive is for the events of a target, which begins as that of the directive. A directive
without a target is for all events. -/
def IsFor (d : Directive) (target : List Char) : Prop := ∀ t, d.target = some t → t <+: target

/-- How long the target is; there is nothing shorter than none. -/
def reach (d : Directive) : Option Nat := d.target.map List.length

/-- The rule that a directive makes that names neither a span nor fields. -/
def rule (d : Directive) : Rule := ⟨d.target, [], d.threshold⟩

end Directive

/-- Whether a directive is the most specific one for a target: none for it has a longer target, and none
behind it has the same. -/
structure Governs (ds : List Directive) (target : List Char) (d : Directive) : Prop where
  isFor : d.IsFor target
  longest : ∀ e ∈ ds, e.IsFor target → e.reach ≤ d.reach
  last : ∃ before after, ds = before ++ d :: after ∧ ∀ e ∈ after, e.target ≠ d.target

variable {ds : List Directive} {target : List Char} {d e : Directive} {level : Level}

/-! ## Rules of directives -/

namespace Directive

theorem covers_rule : d.rule.covers target = true ↔ d.IsFor target := by
  unfold rule Rule.covers IsFor
  cases d.target with
  | none => simp
  | some t => simp

theorem specificity_rule_eq_eq_iff : d.rule.specificity e.rule = .eq ↔ d.target = e.target := by
  rw [Rule.specificity_eq_eq_iff]
  exact ⟨fun h => h.1, fun h => ⟨h, rfl⟩⟩

end Directive

/-- Of two beginnings of a text the one with fewer bytes has fewer characters. -/
theorem length_le_of_byteLength_le {a b : List Char} (ha : a <+: target) (hb : b <+: target)
    (h : Utf8.byteLength b ≤ Utf8.byteLength a) : b.length ≤ a.length := by
  rcases List.prefix_or_prefix_of_prefix ha hb with ⟨c, rfl⟩ | hba
  · cases c with
    | nil => simp
    | cons x c =>
      have hpos : 0 < x.utf8Size := x.utf8Size_pos
      rw [Utf8.byteLength_append, Utf8.byteLength_cons] at h
      omega
  · exact hba.length_le

theorem reach_refl (d : Directive) : d.reach ≤ d.reach := by
  cases d.reach with
  | none => exact Option.none_le
  | some n => exact Nat.le_refl n

theorem reach_antisymm (hd : d.reach ≤ e.reach) (he : e.reach ≤ d.reach) : d.reach = e.reach := by
  cases hdr : d.reach with
  | none =>
    rw [hdr] at he
    cases her : e.reach with
    | none => rfl
    | some m => rw [her] at he; exact he.elim
  | some n =>
    rw [hdr] at hd he
    cases her : e.reach with
    | none => rw [her] at hd; exact hd.elim
    | some m =>
      rw [her] at hd he
      exact congrArg some (Nat.le_antisymm hd he)

/-- Beginnings of a text that are as long as each other are the same. -/
theorem target_eq_of_reach_eq (hd : d.IsFor target) (he : e.IsFor target) (h : d.reach = e.reach) :
    d.target = e.target := by
  unfold Directive.reach at h
  cases ht : d.target with
  | none =>
    rw [ht] at h
    exact (Option.map_eq_none_iff.mp h.symm).symm
  | some t =>
    rw [ht] at h
    obtain ⟨u, hu, hlength⟩ := Option.map_eq_some_iff.mp h.symm
    rw [hu, List.prefix_iff_eq_take.mp (hd t ht), List.prefix_iff_eq_take.mp (he u hu), hlength]

/-- The more specific one of two directives for a target is that with the longer target. -/
theorem reach_le_of_specificity (hd : d.IsFor target) (he : e.IsFor target)
    (h : d.rule.specificity e.rule = .gt) : e.reach ≤ d.reach := by
  have hbytes : compare (d.target.map Utf8.byteLength) (e.target.map Utf8.byteLength) ≠ .lt := by
    intro hlt
    rw [Rule.specificity, show d.rule.target = d.target from rfl, show e.rule.target = e.target from rfl,
      hlt] at h
    cases h
  unfold Directive.reach
  cases het : e.target with
  | none => exact Option.none_le
  | some u =>
    cases hdt : d.target with
    | none => exact absurd (by rw [hdt, het]; rfl) hbytes
    | some t =>
      rw [hdt, het] at hbytes
      have hle : Utf8.byteLength u ≤ Utf8.byteLength t := Nat.compare_ne_lt.mp hbytes
      exact length_le_of_byteLength_le (hd t hdt) (he u het) hle

/-! ## The table of directives -/

/-- The table of the directives' rules. -/
def rulesOf (ds : List Directive) : List Rule := Filter.table (ds.map Directive.rule)

theorem ofDirectives_of_isPlain (h : ∀ d ∈ ds, d.IsPlain) :
    Filter.ofDirectives ds = ⟨rulesOf ds, Filter.ceilingOf ds⟩ := by
  have hnone : ds.filter (!·.fields.isEmpty) = [] := by
    refine List.filter_eq_nil_iff.mpr fun d hd => ?_
    simp [(h d hd).2]
  have hall : ds.filter (·.fields.isEmpty) = ds := by
    refine List.filter_eq_self.mpr fun d hd => ?_
    simp [(h d hd).2]
  have hrule : ds.filterMap Rule.ofDirective? = ds.map Directive.rule := by
    rw [← List.filterMap_eq_map]
    refine List.filterMap_congr fun d hd => ?_
    obtain ⟨hspan, hfields⟩ := h d hd
    simp [Rule.ofDirective?, Directive.asksForValue, Directive.rule, hspan, hfields]
  rw [Filter.ofDirectives, Filter.inOrder, hall, hnone, List.append_nil, hrule]
  rfl

/-- The rules in the table are those of the last directives with their targets. -/
theorem mem_rulesOf_iff {r : Rule} :
    r ∈ rulesOf ds ↔ ∃ before d after, ds = before ++ d :: after ∧ r = d.rule ∧
      ∀ e ∈ after, e.target ≠ d.target := by
  rw [rulesOf, Filter.mem_table_iff, Filter.IsLast]
  constructor
  · rintro ⟨before, after, heq, hafter⟩
    obtain ⟨before, rest, rfl, rfl, hrest⟩ := List.map_eq_append_iff.mp heq
    obtain ⟨d, after, rfl, rfl, rfl⟩ := List.map_eq_cons_iff.mp hrest
    refine ⟨before, d, after, rfl, rfl, fun e he => ?_⟩
    exact fun htarget => hafter e.rule (List.mem_map_of_mem he)
      (Directive.specificity_rule_eq_eq_iff.mpr htarget)
  · rintro ⟨before, d, after, rfl, rfl, hafter⟩
    refine ⟨before.map Directive.rule, after.map Directive.rule, by simp, fun r hr => ?_⟩
    obtain ⟨e, he, rfl⟩ := List.mem_map.mp hr
    exact fun hcmp => hafter e he (Directive.specificity_rule_eq_eq_iff.mp hcmp)

/-- Every directive has a last one with its target. -/
theorem exists_last (h : d ∈ ds) :
    ∃ before e after, ds = before ++ e :: after ∧ e.target = d.target ∧
      ∀ f ∈ after, f.target ≠ e.target := by
  induction ds using List.reverseRecOn with
  | nil => cases h
  | append_singleton ds g ih =>
    by_cases hg : g.target = d.target
    · exact ⟨ds, g, [], rfl, hg, by simp⟩
    · have hd : d ∈ ds := by
        rcases List.mem_append.mp h with hd | hd
        · exact hd
        · exact absurd (by rw [List.mem_singleton.mp hd]) hg
      obtain ⟨before, e, after, rfl, he, hafter⟩ := ih hd
      refine ⟨before, e, after ++ [g], by simp, he, fun f hf => ?_⟩
      rcases List.mem_append.mp hf with hf | hf
      · exact hafter f hf
      · rw [List.mem_singleton.mp hf, he]
        exact hg

/-- No two directives govern a target. -/
theorem Governs.unique (hd : Governs ds target d) (he : Governs ds target e) : d = e := by
  obtain ⟨before, after, hds, hlast⟩ := hd.last
  obtain ⟨before', after', hds', hlast'⟩ := he.last
  have htarget : d.target = e.target := by
    refine target_eq_of_reach_eq hd.isFor he.isFor (reach_antisymm ?_ ?_)
    · exact he.longest d (by rw [hds]; simp) hd.isFor
    · exact hd.longest e (by rw [hds']; simp) he.isFor
  rcases List.append_eq_append_iff.mp (hds.symm.trans hds') with ⟨more, rfl, hmore⟩ | ⟨more, rfl, hmore⟩
  · cases more with
    | nil => exact (List.cons.inj hmore).1
    | cons f more =>
      obtain ⟨rfl, rfl⟩ := List.cons.inj hmore
      exact absurd htarget.symm (hlast e (by simp))
  · cases more with
    | nil => exact (List.cons.inj hmore).1.symm
    | cons f more =>
      obtain ⟨rfl, rfl⟩ := List.cons.inj hmore
      exact absurd htarget (hlast' d (by simp))

/-! ## Looking up -/

/-- What is found in the table for a target is the rule of the directive that governs it. -/
theorem governs_of_find? {r : Rule} (h : (rulesOf ds).find? (·.covers target) = some r) :
    ∃ d, Governs ds target d ∧ r = d.rule := by
  obtain ⟨hcovers, front, back, hrules, hfront⟩ := List.find?_eq_some_iff_append.mp h
  obtain ⟨before, d, after, hds, rfl, hlast⟩ := mem_rulesOf_iff.mp (List.mem_of_find?_eq_some h)
  have hfor : d.IsFor target := Directive.covers_rule.mp hcovers
  refine ⟨d, ⟨hfor, fun e he hefor => ?_, before, after, hds, hlast⟩, rfl⟩
  -- the last directive with the same target as `e` has a rule in the table, which is not before that of `d`
  obtain ⟨before', f, after', hds', hf, hlast'⟩ := exists_last he
  have hffor : f.IsFor target := fun t ht => hefor t (hf ▸ ht)
  have hmem : f.rule ∈ rulesOf ds := mem_rulesOf_iff.mpr ⟨before', f, after', hds', rfl, hlast'⟩
  have hreach : f.reach = e.reach := by rw [Directive.reach, hf, Directive.reach]
  rw [← hreach]
  rw [hrules] at hmem
  rcases List.mem_append.mp hmem with hmem | hmem
  · have hnot := hfront _ hmem
    rw [Directive.covers_rule.mpr hffor] at hnot
    cases hnot
  · rcases List.mem_cons.mp hmem with heq | hmem
    · have htarget : f.target = d.target := congrArg Rule.target heq
      rw [Directive.reach, htarget, Directive.reach]
      exact reach_refl d
    · have hdescends := Filter.descends_table (ds.map Directive.rule)
      rw [← rulesOf, hrules] at hdescends
      have hcmp := (List.pairwise_cons.mp (List.pairwise_append.mp hdescends).2.1).1 _ hmem
      exact reach_le_of_specificity hfor hffor hcmp

/-- Nothing is found only where no directive is for the target. -/
theorem find?_eq_none_iff :
    (rulesOf ds).find? (·.covers target) = none ↔ ∀ d ∈ ds, ¬ d.IsFor target := by
  rw [List.find?_eq_none]
  constructor
  · intro h d hd hfor
    obtain ⟨before, e, after, hds, he, hlast⟩ := exists_last hd
    refine h e.rule (mem_rulesOf_iff.mpr ⟨before, e, after, hds, rfl, hlast⟩) ?_
    exact Directive.covers_rule.mpr fun t ht => hfor t (he ▸ ht)
  · intro h r hr hcovers
    obtain ⟨before, d, after, rfl, rfl, -⟩ := mem_rulesOf_iff.mp hr
    exact h d (by simp) (Directive.covers_rule.mp hcovers)

/-- Where a directive is for a target, one governs it. -/
theorem exists_governs (hd : d ∈ ds) (hfor : d.IsFor target) : ∃ e, Governs ds target e := by
  cases hfind : (rulesOf ds).find? (·.covers target) with
  | none => exact absurd hfor (find?_eq_none_iff.mp hfind d hd)
  | some r =>
    obtain ⟨e, he, -⟩ := governs_of_find? hfind
    exact ⟨e, he⟩

theorem Governs.mem (h : Governs ds target d) : d ∈ ds := by
  obtain ⟨before, after, rfl, -⟩ := h.last
  simp

/-- **The directive that governs a target decides which of its events are let through.** -/
theorem enabled_of_governs (hplain : ∀ d ∈ ds, d.IsPlain) (h : Governs ds target d) (level : Level) :
    (Filter.ofDirectives ds).enabled target level = d.threshold.allows level := by
  rw [ofDirectives_of_isPlain hplain, Filter.enabled]
  cases hfind : (rulesOf ds).find? (·.covers target) with
  | none => exact absurd h.isFor (find?_eq_none_iff.mp hfind d h.mem)
  | some r =>
    obtain ⟨e, he, rfl⟩ := governs_of_find? hfind
    rw [h.unique he]
    rfl

/-- Where no directive is for a target, none of its events is let through. -/
theorem enabled_of_not_isFor (hplain : ∀ d ∈ ds, d.IsPlain) (h : ∀ d ∈ ds, ¬ d.IsFor target)
    (level : Level) : (Filter.ofDirectives ds).enabled target level = false := by
  rw [ofDirectives_of_isPlain hplain, Filter.enabled, find?_eq_none_iff.mpr h]

/-! ## The ceiling -/

theorem allows_max (a b : Threshold) (level : Level) :
    (a.max b).allows level = true ↔ a.allows level = true ∨ b.allows level = true := by
  unfold Threshold.max Threshold.allows
  simp only [decide_eq_true_eq]
  split
  · omega
  · omega

/-- What one of the directives lets through does not pass the ceiling, and nothing else does. -/
theorem allows_ceilingOf (hplain : ∀ d ∈ ds, d.IsPlain) (level : Level) :
    (Filter.ceilingOf ds).allows level = true ↔ ∃ d ∈ ds, d.threshold.allows level = true := by
  have hnone : ds.any (·.asksForValue) = false := by
    refine List.any_eq_false.mpr fun d hd => ?_
    simp [Directive.asksForValue, (hplain d hd).2]
  have hfold (es : List Directive) (t : Threshold) :
      (es.foldl (fun t d => t.max d.threshold) t).allows level = true
        ↔ t.allows level = true ∨ ∃ d ∈ es, d.threshold.allows level = true := by
    induction es generalizing t with
    | nil => simp
    | cons e es ih => rw [List.foldl_cons, ih, allows_max]; simp [or_assoc]
  have hoff : Threshold.off.allows level = false := by cases level <;> rfl
  rw [Filter.ceilingOf, hnone, if_neg Bool.false_ne_true, hfold, hoff]
  simp

/-- What is let through does not pass the ceiling. -/
theorem allows_ceiling (hplain : ∀ d ∈ ds, d.IsPlain)
    (h : (Filter.ofDirectives ds).enabled target level = true) :
    (Filter.ofDirectives ds).ceiling.allows level = true := by
  by_cases hfor : ∀ d ∈ ds, ¬ d.IsFor target
  · rw [enabled_of_not_isFor hplain hfor] at h
    cases h
  · obtain ⟨d, hd, hfor⟩ : ∃ d ∈ ds, d.IsFor target := by simpa using hfor
    obtain ⟨e, he⟩ := exists_governs hd hfor
    rw [enabled_of_governs hplain he] at h
    exact (allows_ceilingOf hplain level).mpr ⟨e, he.mem, h⟩

/-! ## The order of directives -/

/-- Thresholds that let the same through are the same. -/
theorem threshold_ext {a b : Threshold}
    (h : ∀ level : Level, a.allows level = true ↔ b.allows level = true) : a = b := by
  have hpos (l : Level) : 0 < l.rank := by cases l <;> decide
  simp only [Threshold.allows, decide_eq_true_eq] at h
  cases a with
  | off =>
    cases b with
    | off => rfl
    | upTo l => exact absurd ((h l).mpr (Nat.le_refl _)) (Nat.not_le.mpr (hpos l))
  | upTo k =>
    cases b with
    | off => exact absurd ((h k).mp (Nat.le_refl _)) (Nat.not_le.mpr (hpos k))
    | upTo l =>
      have hrank : k.rank = l.rank := Nat.le_antisymm ((h k).mp (Nat.le_refl _)) ((h l).mpr (Nat.le_refl _))
      cases k <;> cases l <;> first | rfl | cases hrank

/-- Where all targets are different every directive has its rule in the table. -/
theorem mem_rulesOf_of_nodup (hdistinct : (ds.map (·.target)).Nodup) {r : Rule} :
    r ∈ rulesOf ds ↔ ∃ d ∈ ds, r = d.rule := by
  rw [mem_rulesOf_iff]
  constructor
  · rintro ⟨before, d, after, rfl, rfl, -⟩
    exact ⟨d, by simp, rfl⟩
  · rintro ⟨d, hd, rfl⟩
    obtain ⟨before, after, rfl⟩ := List.append_of_mem hd
    refine ⟨before, d, after, rfl, rfl, fun e he htarget => ?_⟩
    rw [List.map_append, List.map_cons] at hdistinct
    refine (List.nodup_cons.mp (List.nodup_append.mp hdistinct).2.1).1 ?_
    rw [← htarget]
    exact List.mem_map_of_mem he

/-- **In which order directives with different targets stand makes no difference.** -/
theorem ofDirectives_perm (hplain : ∀ d ∈ ds, d.IsPlain) {ds' : List Directive} (hperm : ds.Perm ds')
    (hdistinct : (ds.map (·.target)).Nodup) : Filter.ofDirectives ds' = Filter.ofDirectives ds := by
  have hplain' : ∀ d ∈ ds', d.IsPlain := fun d hd => hplain d (hperm.mem_iff.mpr hd)
  have hdistinct' : (ds'.map (·.target)).Nodup := (hperm.map _).nodup_iff.mp hdistinct
  have hirrefl {r s : Rule} (h : r.specificity s = .gt) : r ≠ s := by
    rintro rfl
    rw [Rule.specificity_eq_eq_iff.mpr ⟨rfl, rfl⟩] at h
    cases h
  have hnodup (es : List Directive) : (rulesOf es).Nodup := (Filter.descends_table _).imp hirrefl
  have hrules : (rulesOf ds').Perm (rulesOf ds) := by
    refine (List.perm_ext_iff_of_nodup (hnodup ds') (hnodup ds)).mpr fun r => ?_
    rw [mem_rulesOf_of_nodup hdistinct, mem_rulesOf_of_nodup hdistinct']
    exact ⟨fun ⟨d, hd, hr⟩ => ⟨d, hperm.mem_iff.mpr hd, hr⟩,
      fun ⟨d, hd, hr⟩ => ⟨d, hperm.mem_iff.mp hd, hr⟩⟩
  rw [ofDirectives_of_isPlain hplain, ofDirectives_of_isPlain hplain']
  congr 1
  · refine hrules.eq_of_pairwise ?_ (Filter.descends_table _) (Filter.descends_table _)
    intro r s _ _ hrs hsr
    rw [Std.OrientedCmp.gt_iff_lt, hrs] at hsr
    cases hsr
  · refine threshold_ext fun level => ?_
    rw [allows_ceilingOf hplain, allows_ceilingOf hplain']
    exact ⟨fun ⟨d, hd, hr⟩ => ⟨d, hperm.mem_iff.mpr hd, hr⟩,
      fun ⟨d, hd, hr⟩ => ⟨d, hperm.mem_iff.mp hd, hr⟩⟩

end FragmentFeed.Log
