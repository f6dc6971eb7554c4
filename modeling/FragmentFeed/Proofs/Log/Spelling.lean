import Mathlib.Data.List.Forall2
import FragmentFeed.Proofs.Log.Choice
import FragmentFeed.Proofs.Log.Governing
import FragmentFeed.Proofs.Log.Reading

/-!
# Spellings of directives

A directive that names neither a span nor fields is written as a level, as a target, or as both
(`parse_of_spells`). Texts of such directives put together make the filter of these directives, from
the environment and from the configuration (`filter_init_of_spells`).
-/

namespace FragmentFeed.Log

open Text

variable {compile : Compiler} {text w rest : List Char} {d : Directive} {ds : List Directive}

namespace Directive

/-- Whether a text can stand as a target or as a level: it begins like a word, and has none of the marks that
end one. -/
structure IsWord (w : List Char) : Prop where
  starts : ∃ c ∈ w.head?, startsWord c = true
  noThreshold : '=' ∉ w
  noSpan : '[' ∉ w

/-- How directives are written that name neither a span nor fields. Through a target that has no level
everything is let. -/
inductive Spells : List Char → Directive → Prop
  | level {w : List Char} {t : Threshold} (hw : IsWord w) (ht : Threshold.parse? w = some t) :
    Spells w ⟨t, none, none, []⟩
  | target {w : List Char} (hw : IsWord w) (ht : Threshold.parse? w = none) :
    Spells w ⟨.upTo .trace, some w, none, []⟩
  | targetAndLevel {w v : List Char} {t : Threshold} (hw : IsWord w) (ht : Threshold.parse? v = some t) :
    Spells (w ++ '=' :: v) ⟨t, some w, none, []⟩

/-- Whether there are no blanks around a text. -/
def IsTrimmed (text : List Char) : Prop :=
  ∀ c, text.head? = some c ∨ text.getLast? = some c → Unicode.isBlank c = false

theorem Spells.isPlain (h : Spells text d) : d.IsPlain := by
  cases h <;> exact ⟨rfl, rfl⟩

/-! ## Words -/

/-- Within a word nothing happens before one of the marks. -/
theorem steps_word (hthreshold : '=' ∉ w) (hspan : '[' ∉ w) (i : Nat) :
    steps compile text i (w ++ rest) .word d = steps compile text (i + Utf8.byteLength w) rest .word d := by
  induction w generalizing i with
  | nil => rfl
  | cons c w ih =>
    rw [List.mem_cons, not_or] at hthreshold hspan
    rw [List.cons_append, steps, step, if_neg (Ne.symm hthreshold.1), if_neg (Ne.symm hspan.1)]
    show steps compile text (i + c.utf8Size) (w ++ rest) .word d = _
    rw [ih hthreshold.2 hspan.2, Nat.add_assoc, Utf8.byteLength_cons]

theorem steps_of_isWord (h : IsWord w) :
    steps compile text 0 (w ++ rest) .nothing start
      = steps compile text (Utf8.byteLength w) rest .word start := by
  obtain ⟨⟨c, hc, hstarts⟩, hthreshold, hspan⟩ := h
  cases w with
  | nil => cases hc
  | cons b w =>
    obtain rfl : b = c := Option.some.inj hc
    rw [List.mem_cons, not_or] at hthreshold hspan
    rw [List.cons_append, steps, step, if_neg (Ne.symm hspan.1), if_pos hstarts]
    show steps compile text (0 + b.utf8Size) (w ++ rest) .word start = _
    rw [steps_word hthreshold.2 hspan.2, Nat.zero_add, Utf8.byteLength_cons]

theorem steps_threshold (i s : Nat) :
    steps compile text i rest (.threshold s) d = .ok (.threshold s, d) := by
  induction rest generalizing i with
  | nil => rfl
  | cons c rest ih => exact ih (i + c.utf8Size)

/-- Where the steps through a text come to an end, they are finished to a directive. -/
theorem parse_of_steps {r : Reading} (htrimmed : IsTrimmed text)
    (h : steps compile text 0 text .nothing start = .ok (r, d)) : parse compile text = finish text r d := by
  rw [parse, trim_eq_self htrimmed, h]

/-- **A directive is read as it is written.** -/
theorem parse_of_spells (compile : Compiler) (h : Spells text d) (htrimmed : IsTrimmed text) :
    parse compile text = .ok d := by
  have hword {w : List Char} (hw : IsWord w) : steps compile w 0 w .nothing start = .ok (.word, start) := by
    have hsteps : steps compile w 0 (w ++ []) .nothing start
        = steps compile w (Utf8.byteLength w) [] .word start := steps_of_isWord hw
    rwa [List.append_nil] at hsteps
  cases h with
  | level hw ht =>
    rw [parse_of_steps htrimmed (hword hw), finish, ht]
    rfl
  | target hw ht =>
    rw [parse_of_steps htrimmed (hword hw), finish, ht]
    rfl
  | @targetAndLevel w v t hw ht =>
    have hlevel : sliceFrom (w ++ '=' :: v) (Utf8.byteLength w + 1) = .ok v := by
      have hrest := sliceFrom_append (w ++ ['=']) v
      rwa [byteLength_concat rfl, List.append_assoc] at hrest
    have hsteps : steps compile (w ++ '=' :: v) 0 (w ++ '=' :: v) .nothing start
        = .ok (.threshold (Utf8.byteLength w + 1), { start with target := some w }) := by
      rw [steps_of_isWord hw, steps, step, if_pos rfl, slice_zero]
      exact steps_threshold _ _
    rw [parse_of_steps htrimmed hsteps, finish, hlevel]
    cases v with
    | nil => cases ht
    | cons c v =>
      simp only [ht]
      rfl

end Directive

/-! ## Filters -/

namespace Output

/-- **Directives make the same filter wherever they are asked for**, in the environment or in the
configuration. -/
theorem filter_init_of_spells (compile : Compiler) {texts : List (List Char)}
    (hspells : List.Forall₂ Directive.Spells texts ds)
    (htexts : ∀ t ∈ texts, ',' ∉ t ∧ Directive.IsTrimmed t) (hne : texts ≠ []) (config : Config)
    (base : Option String) :
    (empty.init (Directive.parse compile) (some (Utf8.encode ([','].intercalate texts))) config).filter
      = some (.ofDirectives ds) ∧
    (empty.init (Directive.parse compile) none
      ⟨base, some (String.ofList ([','].intercalate texts))⟩).filter = some (.ofDirectives ds) := by
  have hmap : texts.map (Directive.parse compile) = ds.map .ok := by
    clear hne
    induction hspells with
    | nil => rfl
    | cons hd _ ih =>
      rw [List.map_cons, Directive.parse_of_spells compile hd (htexts _ (by simp)).2,
        ih fun t ht => htexts t (by simp [ht]), List.map_cons]
  refine filter_init_of_map hmap (fun t ht => ⟨?_, (htexts t ht).1⟩) hne config base
  rintro rfl
  obtain ⟨d, hd⟩ := Filter.exists_directive_of_map hmap ht
  cases hd

end Output

end FragmentFeed.Log
