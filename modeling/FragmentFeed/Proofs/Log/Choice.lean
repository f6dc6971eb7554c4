import Mathlib.Data.List.Basic
import FragmentFeed.Log.Output
import FragmentFeed.Proofs.Log.Reading

/-!
# The choice of the filter

The filter is chosen once. The environment is asked first, and has to be right as a whole (`Denotes`); of what is
configured the directives that are wrong are left out (`accepted_filter_isOk`). Where all are right both read the
same (`init_chooses_once`). Of the library that reads the directives nothing is asked but that each is right or
wrong (`Answers`), and it is told where it does not keep to that (`answers_of_head?`, `init_of_breakdown`).
-/

namespace FragmentFeed.Log

open Text

variable {read : Reader} {text : List Char} {ds : List Directive}

/-! ## Reading as a whole -/

namespace Filter

/-- Whether a text is a list of directives, each of which is right. -/
def Denotes (read : Reader) (text : List Char) (ds : List Directive) : Prop :=
  (directiveTexts text).map read = ds.map .ok

theorem mapM_eq_ok_iff {ε α β : Type} {f : α → Except ε β} {xs : List α} {ys : List β} :
    xs.mapM f = .ok ys ↔ xs.map f = ys.map .ok := by
  induction xs generalizing ys with
  | nil =>
    rw [List.mapM_nil, List.map_nil, eq_comm (a := []), List.map_eq_nil_iff]
    exact ⟨fun h => (Except.ok.inj h).symm, fun h => h ▸ rfl⟩
  | cons x xs ih =>
    rw [List.mapM_cons, List.map_cons, eq_comm (b := ys.map _), List.map_eq_cons_iff]
    constructor
    · intro h
      cases hx : f x with
      | error e => rw [hx] at h; cases h
      | ok y =>
        cases hxs : xs.mapM f with
        | error e => rw [hx, hxs] at h; cases h
        | ok zs =>
          rw [hx, hxs] at h
          cases h
          exact ⟨y, zs, rfl, rfl, (ih.mp hxs).symm⟩
    · rintro ⟨y, zs, rfl, hx, hxs⟩
      rw [← hx, ih.mpr hxs.symm]
      rfl

/-- A text is read as a whole if it is a list of directives. -/
theorem parse_eq_ok_iff {f : Filter} :
    parse read text = .ok f ↔ ∃ ds, Denotes read text ds ∧ f = ofDirectives ds := by
  unfold parse Denotes
  constructor
  · intro h
    cases hds : (directiveTexts text).mapM read with
    | error e => rw [hds] at h; cases h
    | ok ds =>
      rw [hds] at h
      exact ⟨ds, mapM_eq_ok_iff.mp hds, (Except.ok.inj h).symm⟩
  · rintro ⟨ds, hds, rfl⟩
    rw [mapM_eq_ok_iff.mpr hds]
    rfl

theorem mapM_eq_error {ε α β : Type} {f : α → Except ε β} {xs : List α} {e : ε} (h : xs.mapM f = .error e) :
    ∃ x ∈ xs, f x = .error e := by
  induction xs with
  | nil => cases h
  | cons x xs ih =>
    rw [List.mapM_cons] at h
    cases hx : f x with
    | error e' =>
      rw [hx] at h
      cases h
      exact ⟨x, by simp, hx⟩
    | ok y =>
      cases hxs : xs.mapM f with
      | error e' =>
        rw [hx, hxs] at h
        cases h
        obtain ⟨z, hz, hread⟩ := ih hxs
        exact ⟨z, by simp [hz], hread⟩
      | ok ys =>
        rw [hx, hxs] at h
        cases h

/-- Whether each of some texts is read to an end: a directive comes of it, or it is wrong. -/
def Answers (read : Reader) (texts : List (List Char)) : Prop := ∀ t ∈ texts, read t ≠ .error .breakdown

/-- A text of which nothing breaks down is read as a whole or is wrong. -/
theorem exists_wrong_of_parse (hanswers : Answers read (directiveTexts text)) (h : ¬ ∃ ds, Denotes read text ds) :
    ∃ e, parse read text = .error (.wrong e) := by
  cases hparse : parse read text with
  | ok f =>
    obtain ⟨ds, hds, -⟩ := parse_eq_ok_iff.mp hparse
    exact absurd ⟨ds, hds⟩ h
  | error e =>
    cases e with
    | wrong e => exact ⟨e, rfl⟩
    | breakdown =>
      unfold parse at hparse
      cases hmap : (directiveTexts text).mapM read with
      | ok ds => rw [hmap] at hparse; cases hparse
      | error e =>
        rw [hmap] at hparse
        cases hparse
        obtain ⟨t, ht, hread⟩ := mapM_eq_error hmap
        exact absurd hread (hanswers t ht)

/-! ## Reading in parts -/

/-- What is put together from texts without commas are these, less the empty ones. -/
theorem directiveTexts_intercalate {texts : List (List Char)} (hcomma : ∀ t ∈ texts, ',' ∉ t) :
    directiveTexts ([','].intercalate texts) = texts.filter (· ≠ []) := by
  rw [directiveTexts]
  by_cases hne : texts = []
  · subst hne
    rfl
  · rw [pieces_intercalate (by decide) hne]
    intro t ht c hc
    rw [decide_eq_false_iff_not]
    rintro rfl
    exact hcomma t ht hc

theorem accepted_of_map {texts : List (List Char)} (h : texts.map read = ds.map .ok) :
    accepted read texts = ds := by
  have hmap : accepted read texts = (texts.map read).filterMap Except.toOption := by
    rw [List.filterMap_map]
    rfl
  rw [hmap, h, List.filterMap_map]
  exact List.filterMap_some

theorem exists_directive_of_map {texts : List (List Char)} {t : List Char} (h : texts.map read = ds.map .ok)
    (ht : t ∈ texts) : ∃ d, read t = .ok d := by
  obtain ⟨d, -, hd⟩ := List.mem_map.mp (h ▸ List.mem_map_of_mem ht)
  exact ⟨d, hd.symm⟩

/-- **Where nothing breaks down the directives that are right make the filter.** -/
theorem parseLossy_of_answers (hanswers : Answers read (directiveTexts text)) :
    parseLossy read text = some (ofDirectives (if accepted read (directiveTexts text) = [] then [fallback]
      else accepted read (directiveTexts text))) := by
  have hany : (directiveTexts text).any (breaksDown read) = false := by
    rw [List.any_eq_false]
    intro t ht hbreak
    unfold breaksDown at hbreak
    split at hbreak
    · exact hanswers t ht ‹_›
    · cases hbreak
  unfold parseLossy
  simp only [hany]
  cases accepted read (directiveTexts text) with
  | nil => rfl
  | cons d ds => rfl

end Filter

/-! ## Setting up -/

namespace Output

variable {o : Output} {setting : Option (List UInt8)} {config : Config} {texts : List (List Char)}

theorem filter_emit (o : Output) (e : Event) : (o.emit e).filter = o.filter := by
  rw [emit]
  split
  · rfl
  · rfl

theorem filter_init (read : Reader) (setting : Option (List UInt8)) (config : Config) :
    (empty.init read setting config).filter = (begin read setting config).filter := filter_emit _ _

theorem environment?_encode (text : List Char) : environment? (some (Utf8.encode text)) = some text :=
  Utf8.decode?_encode text

/-- What the environment asks for is in force. -/
theorem filter_init_of_denotes (h : Filter.Denotes read text ds) (config : Config) :
    (empty.init read (some (Utf8.encode text)) config).filter = some (.ofDirectives ds) := by
  rw [filter_init, begin, environment?_encode]
  simp only [Filter.parse_eq_ok_iff.mpr ⟨ds, h, rfl⟩]

/-- Where the reading of it breaks down no filter comes in force, then or later. -/
theorem init_of_breakdown (h : Filter.parse read text = .error .breakdown) (config : Config) :
    empty.init read (some (Utf8.encode text)) config = ⟨none, true, []⟩ := by
  show (begin read (some (Utf8.encode text)) config).emit .initialized = _
  rw [begin, environment?_encode]
  simp only [h]
  rfl

/-! ## What the configuration asks for -/

/-- The texts of the directives that are to be read for the first attempt. -/
def asked (setting : Option (List UInt8)) (config : Config) : List (List Char) :=
  ((environment? setting).map Filter.directiveTexts).getD [] ++ Filter.directiveTexts config.filter.toList

/-- Where the environment does not ask for a filter, what is configured is in force. -/
theorem filter_init_of_not_denotes (hanswers : Filter.Answers read (asked setting config))
    (hsetting : ¬ ∃ text ds, setting = some (Utf8.encode text) ∧ Filter.Denotes read text ds)
    (h : Filter.accepted read (Filter.directiveTexts config.filter.toList) = ds) :
    (empty.init read setting config).filter
      = some (.ofDirectives (if ds = [] then [Filter.fallback] else ds)) := by
  have hconfigured : (configured read config).filter
      = some (.ofDirectives (if ds = [] then [Filter.fallback] else ds)) := by
    have hlossy := Filter.parseLossy_of_answers fun t ht => hanswers t (List.mem_append_right _ ht)
    rwa [h] at hlossy
  rw [filter_init, begin]
  cases htext : environment? setting with
  | none => exact hconfigured
  | some text =>
    obtain ⟨bytes, rfl, hdecode⟩ := Option.bind_eq_some_iff.mp htext
    obtain rfl := Utf8.decode?_eq_some_iff.mp hdecode
    have hasked : Filter.Answers read (Filter.directiveTexts text) := by
      intro t ht
      refine hanswers t (List.mem_append_left _ ?_)
      rw [htext]
      exact ht
    obtain ⟨e, he⟩ := Filter.exists_wrong_of_parse hasked fun ⟨ds, hds⟩ => hsetting ⟨text, ds, rfl, hds⟩
    simp only [he]
    exact hconfigured

/-- Where the environment asks for nothing, the directives among configured texts are in force. -/
theorem filter_init_of_texts (hanswers : Filter.Answers read texts) (hcomma : ∀ t ∈ texts, ',' ∉ t)
    (h : Filter.accepted read (texts.filter (· ≠ [])) = ds) (base : Option String) :
    (empty.init read none ⟨base, some (String.ofList ([','].intercalate texts))⟩).filter
      = some (.ofDirectives (if ds = [] then [Filter.fallback] else ds)) := by
  have htexts : Filter.directiveTexts
      (Config.filter ⟨base, some (String.ofList ([','].intercalate texts))⟩).toList = texts.filter (· ≠ []) := by
    rw [Config.filter, Option.getD_some, String.toList_ofList, Filter.directiveTexts_intercalate hcomma]
  refine filter_init_of_not_denotes ?_ ?_ (by rw [htexts, h])
  · rw [asked, htexts]
    exact fun t ht => hanswers t (List.mem_filter.mp ht).1
  · rintro ⟨text, ds, h, -⟩
    cases h

/-- **Directives that are all right make the same filter wherever they are asked for**, in the environment or
in the configuration. -/
theorem filter_init_of_map (h : texts.map read = ds.map .ok) (htexts : ∀ t ∈ texts, t ≠ [] ∧ ',' ∉ t)
    (hne : texts ≠ []) (config : Config) (base : Option String) :
    (empty.init read (some (Utf8.encode ([','].intercalate texts))) config).filter = some (.ofDirectives ds) ∧
    (empty.init read none ⟨base, some (String.ofList ([','].intercalate texts))⟩).filter
      = some (.ofDirectives ds) := by
  have hcomma : ∀ t ∈ texts, ',' ∉ t := fun t ht => (htexts t ht).2
  have hnonempty : texts.filter (· ≠ []) = texts :=
    List.filter_eq_self.mpr fun t ht => decide_eq_true (htexts t ht).1
  have hsome : ds ≠ [] := by
    rintro rfl
    rw [List.map_nil, List.map_eq_nil_iff] at h
    exact hne h
  have hanswers : Filter.Answers read texts := by
    intro t ht hbreak
    obtain ⟨d, hd⟩ := Filter.exists_directive_of_map h ht
    cases hbreak.symm.trans hd
  constructor
  · refine filter_init_of_denotes ?_ config
    rwa [Filter.Denotes, Filter.directiveTexts_intercalate hcomma, hnonempty]
  · rw [filter_init_of_texts hanswers hcomma (by rw [hnonempty, Filter.accepted_of_map h]), if_neg hsome]

end Output

end FragmentFeed.Log
