import FragmentFeed.Proofs.Loader.Telling
import FragmentFeed.Proofs.Log.Spelling
import FragmentFeed.Proofs.Text.Digit

/-!
# What is written

Of the events that come, those are written that are let through, in their order (`written_foldl_emit`).
Where no control characters come into their wordings, each makes one line, on which it stands as it is
(`lines_ofEvent`). So the lines written are those of which the governing directives allow the level
(`governed_lines_written`).
-/

namespace FragmentFeed.Log

open Text

/-! ## Texts without control characters -/

/-- Whether a character is a control character. -/
def IsControl (c : Char) : Prop := c.toNat < 0x20 ∨ 0x7F ≤ c.toNat ∧ c.toNat < 0xA0

/-- Whether there are no control characters in a text. -/
def IsClean (text : String) : Prop := ∀ c ∈ text.toList, ¬ IsControl c

instance (c : Char) : Decidable (IsControl c) := inferInstanceAs (Decidable (_ ∨ _))

instance (text : String) : Decidable (IsClean text) := List.decidableBAll _ text.toList

theorem isClean_append {a b : String} : IsClean (a ++ b) ↔ IsClean a ∧ IsClean b := by
  unfold IsClean
  rw [String.toList_append]
  exact List.forall_mem_append

theorem isClean_toString (n : Nat) : IsClean (toString n) := by
  intro c hc
  rw [Nat.toString_eq_ofList_toDigits, String.toList_ofList] at hc
  have hdigit := Digit.toNat_of_mem_toDigits hc
  unfold IsControl
  omega

end FragmentFeed.Log

namespace FragmentFeed

open Log

/-- The texts that an error has. -/
def FetchError.texts : FetchError → List String
  | .invalidUrl url reason => [url, reason]
  | .transport cause => [cause.message]
  | .httpStatus _ => []
  | .bodyRead => []

/-- Whether a source comes back with a text, or with an error in whose texts there are no control
characters. -/
def Reply.IsClean : Reply → Prop
  | .text _ => True
  | .failure e => ∀ t ∈ e.texts, Log.IsClean t
  | .panic _ => False

theorem FetchError.isClean_message {e : FetchError} (h : ∀ t ∈ e.texts, Log.IsClean t) :
    Log.IsClean e.message := by
  cases e with
  | invalidUrl url reason =>
    have hurl : Log.IsClean url := h url (by simp [texts])
    have hreason : Log.IsClean reason := h reason (by simp [texts])
    show Log.IsClean ("invalid fragment url " ++ url ++ ": " ++ reason)
    simp only [isClean_append]
    exact ⟨⟨⟨by decide +kernel, hurl⟩, by decide +kernel⟩, hreason⟩
  | transport cause =>
    have hcause : Log.IsClean cause.message := h cause.message (by simp [texts])
    show Log.IsClean ("request failed: " ++ cause.message)
    exact isClean_append.mpr ⟨by decide +kernel, hcause⟩
  | httpStatus status =>
    show Log.IsClean ("HTTP error status: " ++ toString status)
    exact isClean_append.mpr ⟨by decide +kernel, isClean_toString status⟩
  | bodyRead => decide +kernel

namespace Log.Event

theorem isClean_target (e : Event) : IsClean e.target := by
  cases e with
  | initialized => decide +kernel
  | pending url => exact (by decide +kernel : IsClean "fragment_loader::loader::fragment")
  | fetched status url => exact (by decide +kernel : IsClean "fragment_loader::source::http_source")
  | loaded url bytes => exact (by decide +kernel : IsClean "fragment_loader::loader::fragment")
  | failed url error => exact (by decide +kernel : IsClean "fragment_loader")

/-- What is told of a load is clean where its URL and the texts of its error are. -/
theorem isClean_message_of_mem {l : Loader} {r : Reply} (hurl : IsClean l.url) (hr : r.IsClean)
    {e : Event} (he : e ∈ .pending l.url :: l.eventsOf r) : IsClean e.message := by
  rcases List.mem_cons.mp he with rfl | he
  · show IsClean ("fragment pending url=" ++ l.url)
    exact isClean_append.mpr ⟨by decide +kernel, hurl⟩
  · cases r with
    | text content =>
      obtain rfl := List.mem_singleton.mp he
      show IsClean ("fragment loaded url=" ++ l.url ++ " bytes=" ++ toString content.utf8ByteSize)
      simp only [isClean_append]
      exact ⟨⟨⟨by decide +kernel, hurl⟩, by decide +kernel⟩, isClean_toString _⟩
    | failure error =>
      obtain rfl := List.mem_singleton.mp he
      show IsClean ("Error loading fragment " ++ l.url ++ ": " ++ error.message)
      simp only [isClean_append]
      exact ⟨⟨⟨by decide +kernel, hurl⟩, by decide +kernel⟩, FetchError.isClean_message hr⟩
    | panic m => cases he

end Log.Event

namespace Log

open Text

/-! ## Lines -/

/-- A line as it is written, behind the time. -/
def Line.text (time : String) (line : Line) : String :=
  time ++ " " ++ (Written.column line.1 ++ " " ++ line.2.1 ++ ": " ++ line.2.2)

namespace Written

variable {time message : String} {e : Event}

/-- A clean message is written as it is. -/
theorem encode_of_isClean (h : IsClean message) : encode message = message := by
  have hchar : ∀ c ∈ message.toList, encodeChar c = [c] := by
    intro c hc
    have hcontrol := h c hc
    have hne (d : Char) (hd : IsControl d) : ¬ c = d := by
      rintro rfl
      exact hcontrol hd
    rw [encodeChar, if_neg (hne _ (by decide)), if_neg (hne _ (by decide)), if_neg (hne _ (by decide)),
      if_neg (hne _ (by decide)), if_neg (hne _ (by decide)), if_neg]
    unfold IsControl at hcontrol
    omega
  rw [encode, List.flatMap_congr hchar, List.flatMap_singleton', String.ofList_toList]

/-- A text without line breaks that does not end in a carriage return is one line. -/
theorem linesOf_eq_singleton {text : String} (hbreak : '\n' ∉ text.toList)
    (hreturn : text.toList.getLast? ≠ some '\r') : linesOf text = [text] := by
  have hpieces : pieces (· = '\n') text.toList = [text.toList] := by
    refine pieces_eq_singleton fun c hc => decide_eq_false ?_
    rintro rfl
    exact hbreak hc
  rw [linesOf, hpieces, List.map_singleton, if_neg hreturn, String.ofList_toList]

theorem isClean_column (level : Level) : IsClean (column level) := by
  cases level <;> decide +kernel

/-- **An event with a clean message makes one line.** -/
theorem lines_ofEvent (htime : '\n' ∉ time.toList) (he : IsClean e.message) :
    lines time (ofEvent e) = [Line.text time e.line] := by
  have hclean : IsClean (column e.level ++ " " ++ e.target ++ ": " ++ e.message) := by
    simp only [isClean_append]
    exact ⟨⟨⟨⟨isClean_column e.level, by decide +kernel⟩, e.isClean_target⟩, by decide +kernel⟩, he⟩
  have hwritten : (ofEvent e).text time = Line.text time e.line := by
    rw [ofEvent, encode_of_isClean he]
    rfl
  rw [lines, hwritten]
  refine linesOf_eq_singleton ?_ ?_
  · rw [Line.text, String.toList_append, String.toList_append, List.mem_append, List.mem_append]
    rintro ((h | h) | h)
    · exact htime h
    · exact absurd h (by decide +kernel)
    · exact hclean _ h (by decide)
  · intro h
    rw [Line.text, String.toList_append, List.getLast?_append_of_ne_nil] at h
    · exact hclean _ (List.mem_of_getLast? h) (by decide)
    · simp [Event.line]

end Written

namespace Output

variable {o : Output} {e : Event} {events : List Event}

/-- What is let through depends on the filter only. -/
theorem enabled_emit (o : Output) (e : Event) : (o.emit e).enabled = o.enabled := by
  funext target level
  rw [enabled, filter_emit, enabled]

/-- **Of events that come, those are written that are let through.** -/
theorem written_foldl_emit (o : Output) (events : List Event) :
    (events.foldl emit o).written
      = o.written ++ (events.filter fun e => o.enabled e.target e.level).map .ofEvent := by
  induction events generalizing o with
  | nil => simp
  | cons e events ih =>
    rw [List.foldl_cons, ih, enabled_emit, List.filter_cons, emit]
    split
    · rw [List.map_cons, List.append_assoc]
      rfl
    · rfl

/-- The lines of clean events are written as they are. -/
theorem lines_foldl_emit {time : String} (htime : '\n' ∉ time.toList)
    (hevents : ∀ e ∈ events, IsClean e.message) :
    (events.foldl emit o).lines time
      = o.lines time ++ (((events.map Event.line).filter fun line => o.enabled line.2.1 line.1).map
          (Line.text time)) := by
  have hlines : ∀ e ∈ events.filter fun e => o.enabled e.target e.level,
      Written.lines time (.ofEvent e) = [Line.text time e.line] :=
    fun e he => Written.lines_ofEvent htime (hevents e (List.mem_filter.mp he).1)
  rw [lines, written_foldl_emit, List.flatMap_append, List.flatMap_map, List.flatMap_congr hlines,
    ← List.map_eq_flatMap, lines, List.filter_map, List.map_map]
  rfl

/-! ## Loads -/

/-- What is written before the first event are warnings. -/
theorem plain_of_mem_begin {read : Reader} {setting : Option (List UInt8)} {config : Config} {w : Written}
    (h : w ∈ (begin read setting config).written) : ∃ warning, w = .plain warning := by
  have hconfigured (h : w ∈ (configured read config).written) : ∃ warning, w = .plain warning := by
    obtain ⟨i, -, rfl⟩ := List.mem_map.mp h
    exact ⟨i.message, rfl⟩
  unfold begin at h
  split at h
  · exact hconfigured h
  · split at h
    · cases h
    · exact hconfigured h
    · cases h

theorem enabled_of_filter {f : Filter} (h : o.filter = some f) (target : String) (level : Level) :
    o.enabled target level = f.enabled target.toList level := by
  rw [enabled, h]

end Output

end Log

/-- Whether a load is one of a scripted source, in the lines of which there are no control characters. -/
structure Loader.IsClean (l : Loader) (r : Reply) : Prop where
  scripted : l.origin = .scripted
  url : Log.IsClean l.url
  reply : r.IsClean

/-- A load of a scripted source tells that it begins, and then of its reply. -/
theorem Loader.events_loadInPlace {l : Loader} (h : l.origin = .scripted) (ctx : Context) (r : Reply) :
    (l.loadInPlace ctx ⟨some r, []⟩).2.events = .pending l.url :: l.eventsOf r := by
  rw [loadInPlace, launch, h]
  show (l.opening ++ l.closing r).events = _
  rw [Trace.events_append, events_closing]
  rfl

namespace Log.Output

open Text

/-- The lines of loads, with the first one of all, in the order in which they come. -/
def linesOfLoads (loads : List (Loader × Reply)) : List Line :=
  (.info, "fragment_loader::api::simple", "fragment loader tracing initialized") ::
    loads.flatMap fun (l, r) => Loader.firstLine l.url :: Loader.lastLines l.url r

theorem lines_of_loads (read : Reader) (setting : Option (List UInt8)) (config : Config) {time : String}
    (htime : '\n' ∉ time.toList) {loads : List (Loader × Reply)}
    (hloads : ∀ load ∈ loads, load.1.IsClean load.2) (ctx : Context) :
    ((loads.flatMap fun (l, r) => (l.loadInPlace ctx ⟨some r, []⟩).2.events).foldl emit
        (empty.init read setting config)).lines time
      = (begin read setting config).lines time
        ++ ((linesOfLoads loads).filter fun line =>
            (empty.init read setting config).enabled line.2.1 line.1).map (Line.text time) := by
  have hevents : (loads.flatMap fun (l, r) => (l.loadInPlace ctx ⟨some r, []⟩).2.events)
      = loads.flatMap fun (l, r) => .pending l.url :: l.eventsOf r :=
    List.flatMap_congr fun load hload => Loader.events_loadInPlace (hloads load hload).scripted ctx load.2
  have hclean : ∀ e ∈ Event.initialized :: loads.flatMap fun (l, r) => .pending l.url :: l.eventsOf r,
      IsClean e.message := by
    intro e he
    rcases List.mem_cons.mp he with rfl | he
    · decide +kernel
    · obtain ⟨load, hload, he⟩ := List.mem_flatMap.mp he
      exact Event.isClean_message_of_mem (hloads load hload).url (hloads load hload).reply he
  have htold : (Event.initialized :: loads.flatMap fun (l, r) => .pending l.url :: l.eventsOf r).map Event.line
      = linesOfLoads loads := by
    rw [List.map_cons, List.map_flatMap]
    refine congrArg (_ :: ·) (List.flatMap_congr fun load _ => ?_)
    show Loader.firstLine load.1.url :: (load.1.eventsOf load.2).map Event.line = _
    rw [Loader.map_line_eventsOf]
  have henabled : (begin read setting config).enabled = (empty.init read setting config).enabled :=
    (enabled_emit _ .initialized).symm
  rw [hevents, ← htold, ← henabled, ← lines_foldl_emit htime hclean]
  rfl

/-- **What is let through is what the governing directives let through, and that is written.** Directives
that name neither spans nor fields are in force, which are written as levels, as targets or as both. For an
event the one decides that has the longest target that its own begins with, of several with that target the
last one; it has to allow the level, and then the ceiling does. Where there is none the event is not let
through. In which order directives with different targets stand makes no difference.

Behind the warnings of the beginning, which are no events, the lines of the events that are let through are
written and nothing else: that of the beginning, and for each load the one that it begins and the one that
it has brought a text or failed, in this order. -/
theorem governed_lines_written {read : Reader} {setting : Option (List UInt8)} {config : Config}
    {ds : List Directive} (hfilter : (empty.init read setting config).filter = some (.ofDirectives ds))
    (hplain : ∀ d ∈ ds, d.IsPlain) :
    (∀ (target : String) d, Governs ds target.toList d → ∀ level,
      (empty.init read setting config).enabled target level = d.threshold.allows level) ∧
    (∀ target : String, (∃ d ∈ ds, d.IsFor target.toList) → ∃ d, Governs ds target.toList d) ∧
    (∀ target : String, (∀ d ∈ ds, ¬ d.IsFor target.toList) → ∀ level,
      (empty.init read setting config).enabled target level = false) ∧
    (∀ target level, (empty.init read setting config).enabled target level = true →
      (empty.init read setting config).ceiling.allows level = true) ∧
    (∀ ds', ds.Perm ds' → (ds.map (·.target)).Nodup → Filter.ofDirectives ds' = Filter.ofDirectives ds) ∧
    (∀ texts, List.Forall₂ Directive.Spells texts ds → (∀ t ∈ texts, ',' ∉ t ∧ Directive.IsTrimmed t) →
      texts ≠ [] → ∀ compile other base,
        (empty.init (Directive.parse compile) (some (Utf8.encode ([','].intercalate texts))) other).filter
          = some (.ofDirectives ds) ∧
        (empty.init (Directive.parse compile) none
          ⟨base, some (String.ofList ([','].intercalate texts))⟩).filter = some (.ofDirectives ds)) ∧
    (∀ w ∈ (begin read setting config).written, ∃ warning, w = .plain warning) ∧
    ∀ (ctx : Context) (time : String) (loads : List (Loader × Reply)), '\n' ∉ time.toList →
      (∀ load ∈ loads, load.1.IsClean load.2) →
        ((loads.flatMap fun (l, r) => (l.loadInPlace ctx ⟨some r, []⟩).2.events).foldl emit
            (empty.init read setting config)).lines time
          = (begin read setting config).lines time
            ++ ((linesOfLoads loads).filter fun line =>
                (empty.init read setting config).enabled line.2.1 line.1).map (Line.text time) := by
  have henabled := enabled_of_filter hfilter
  refine ⟨?_, ?_, ?_, ?_, ?_, ?_, ?_, ?_⟩
  · intro target d hd level
    rw [henabled, enabled_of_governs hplain hd]
  · rintro target ⟨d, hd, hfor⟩
    exact exists_governs hd hfor
  · intro target hnone level
    rw [henabled, enabled_of_not_isFor hplain hnone]
  · intro target level h
    rw [henabled] at h
    rw [ceiling, hfilter]
    exact allows_ceiling hplain h
  · intro ds' hperm hdistinct
    exact ofDirectives_perm hplain hperm hdistinct
  · intro texts hspells htexts hne compile other base
    exact filter_init_of_spells compile hspells htexts hne other base
  · intro w hw
    exact plain_of_mem_begin hw
  · intro ctx time loads htime hloads
    exact lines_of_loads read setting config htime hloads ctx

/-- Of a load that fails and one that brings a text only the failure is told, where errors alone are asked for
of the targets that begin with `fragment_loader`. -/
theorem governed_lines_written_errorsOnly :
    let read := Directive.parse fun _ => none
    let setting := some (Utf8.encode "debug,fragment_loader=error".toList)
    let loads := [(Loader.new "/a" .scripted, Reply.failure (.httpStatus 404)),
      (Loader.new "/b" .scripted, Reply.text "b")]
    (empty.init read setting .default).filter = some (.ofDirectives
      [⟨.upTo .debug, none, none, []⟩, ⟨.upTo .error, some "fragment_loader".toList, none, []⟩]) ∧
    (∀ load ∈ loads, load.1.IsClean load.2) ∧
    ((loads.flatMap fun (l, r) => (l.loadInPlace .plain ⟨some r, []⟩).2.events).foldl emit
        (empty.init read setting .default)).lines "TIME"
      = ["TIME ERROR fragment_loader: Error loading fragment /a: HTTP error status: 404"] := by
  intro read setting loads
  have hfilter : (empty.init read setting .default).filter = some (.ofDirectives
      [⟨.upTo .debug, none, none, []⟩, ⟨.upTo .error, some "fragment_loader".toList, none, []⟩]) := by
    decide +kernel
  have hplain : ∀ d ∈ [(⟨.upTo .debug, none, none, []⟩ : Directive),
      ⟨.upTo .error, some "fragment_loader".toList, none, []⟩], d.IsPlain :=
    List.forall_mem_cons.mpr ⟨⟨rfl, rfl⟩, List.forall_mem_singleton.mpr ⟨rfl, rfl⟩⟩
  have hloads : ∀ load ∈ loads, load.1.IsClean load.2 :=
    List.forall_mem_cons.mpr ⟨⟨rfl, by decide +kernel, fun t ht => by cases ht⟩,
      List.forall_mem_singleton.mpr ⟨rfl, by decide +kernel, trivial⟩⟩
  refine ⟨hfilter, hloads, ?_⟩
  obtain ⟨-, -, -, -, -, -, -, hlines⟩ := governed_lines_written hfilter hplain
  rw [hlines _ "TIME" loads (by decide) hloads]
  decide +kernel

end Log.Output

end FragmentFeed
