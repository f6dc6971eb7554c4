import FragmentFeed.Proofs.Config.Draft
import FragmentFeed.Proofs.Json.Skip

/-!
# Reading documents

`Config.read` accepts the documents and nothing else, and gives the configuration that a document spells
(`read_eq_ok_iff`). The readers of the parts are taken in turn, each in two directions: what it takes off
the front of a text is such a part, and such a part is taken off whole.
-/

namespace FragmentFeed.Config

open Json

variable {cs rest w s v key : List Char} {d d' : Draft} {c : Config} {f : Field} {t : Option String}
variable {m : Option Entry} {ms : List (Option Entry)}

/-! ## Texts -/

theorem optionalText_sound (h : optionalText cs = .ok (t, rest)) :
    ∃ s v, IsBlanks s ∧ SpellsText v t ∧ cs = s ++ (v ++ rest) := by
  unfold optionalText at h
  split at h
  · cases h
  · next c tail hskip =>
    obtain ⟨s, hs, rfl⟩ := exists_blanks_of_eq hskip
    split at h
    · next hc =>
      subst hc
      cases hword : word ['u', 'l', 'l'] tail with
      | error e => rw [hword] at h; cases h
      | ok tail' =>
        rw [hword] at h
        cases h
        exact ⟨s, _, hs, .null, by rw [word_sound hword]; rfl⟩
    · split at h
      · next hc =>
        subst hc
        cases hstring : string tail with
        | error e => rw [hstring] at h; cases h
        | ok r =>
          obtain ⟨text, tail'⟩ := r
          rw [hstring] at h
          cases h
          obtain ⟨w, hw, rfl⟩ := string_eq_ok_iff.mp hstring
          refine ⟨s, '"' :: (w ++ ['"']), hs, .string ?_, by simp⟩
          rw [String.toList_ofList]
          exact hw
      · cases h

theorem SpellsText.optionalText_eq (h : SpellsText v t) (hs : IsBlanks s) (rest : List Char) :
    optionalText (s ++ (v ++ rest)) = .ok (t, rest) := by
  unfold optionalText
  rw [skipBlanks_append hs]
  cases h with
  | null =>
    show (word ['u', 'l', 'l'] (['u', 'l', 'l'] ++ rest)).map (none, ·) = _
    rw [word_append]
    rfl
  | @string w text h =>
    show (Json.string (w ++ ['"'] ++ rest)).map (fun r => (some (String.ofList r.1), r.2)) = _
    have hread : Json.string (w ++ ['"'] ++ rest) = .ok (text.toList, rest) :=
      string_eq_ok_iff.mpr ⟨w, h, by simp⟩
    rw [hread]
    show Except.ok (some (String.ofList text.toList), rest) = _
    rw [String.ofList_toList]

/-! ## Members -/

namespace Field

/-- A field is found by its name. -/
theorem ofKey?_eq_some_iff {name : List Char} : ofKey? name = some f ↔ Names name f := by
  constructor
  · intro h
    have hfound := List.find?_some h
    have hname : f.key.toList = name := of_decide_eq_true hfound
    rw [← hname]
    cases f with
    | baseUrl => exact List.mem_cons_self
    | logFilter => exact List.mem_cons_of_mem _ List.mem_cons_self
  · intro h
    simp only [Names, List.mem_cons, Prod.mk.injEq, List.not_mem_nil, or_false] at h
    rcases h with ⟨rfl, rfl⟩ | ⟨rfl, rfl⟩ <;> rfl

theorem ofKey?_eq_none_iff {name : List Char} : ofKey? name = none ↔ ∀ f : Field, ¬Names name f := by
  constructor
  · intro h f hname
    rw [ofKey?_eq_some_iff.mpr hname] at h
    cases h
  · intro h
    cases hf : ofKey? name with
    | none => rfl
    | some f => exact absurd (ofKey?_eq_some_iff.mp hf) (h f)

end Field

theorem member_sound (h : member d cs = .ok (d', rest)) :
    ∃ key s₂ s₃ v m, IsBlanks s₂ ∧ IsBlanks s₃ ∧ Says key v m ∧ d.Admits m ∧ d' = d.note m ∧
      cs = key ++ '"' :: (s₂ ++ ':' :: (s₃ ++ (v ++ rest))) := by
  simp only [member, bind, Except.bind] at h
  split at h
  · cases h
  · next r hstring =>
    obtain ⟨k, tail⟩ := r
    obtain ⟨key, hkey, rfl⟩ := string_eq_ok_iff.mp hstring
    split at h
    · next hnone =>
      split at h
      · cases h
      · next tail' hcolon =>
        obtain ⟨s₂, h₂, htail⟩ := colon_eq_ok_iff.mp hcolon
        split at h
        · cases h
        · next rest' hvalue =>
          obtain ⟨s₃, v, h₃, hv, htail'⟩ := skipValue_sound hvalue
          cases h
          have hname := Field.ofKey?_eq_none_iff.mp hnone
          refine ⟨key, s₂, s₃, v, none, h₂, h₃, .unknown hkey hname hv, ?_, rfl, ?_⟩
          · intro f t hm
            cases hm
          · rw [← htail', ← htail]
    · next f hf =>
      have hname := Field.ofKey?_eq_some_iff.mp hf
      split at h
      · cases h
      · next hfresh =>
        split at h
        · cases h
        · next tail' hcolon =>
          obtain ⟨s₂, h₂, htail⟩ := colon_eq_ok_iff.mp hcolon
          split at h
          · cases h
          · next r hvalue =>
            obtain ⟨t, rest'⟩ := r
            obtain ⟨s₃, v, h₃, hv, htail'⟩ := optionalText_sound hvalue
            cases h
            refine ⟨key, s₂, s₃, v, some (f, t), h₂, h₃, .known hkey hname hv, ?_, rfl, ?_⟩
            · rintro g u ⟨⟩
              exact hfresh
            · rw [← htail', ← htail]

theorem Says.member_eq {s₂ s₃ : List Char} (h : Says key v m) (h₂ : IsBlanks s₂) (h₃ : IsBlanks s₃)
    (hd : d.Admits m) (hrest : Stops continuesNumber rest) :
    member d (key ++ '"' :: (s₂ ++ ':' :: (s₃ ++ (v ++ rest)))) = .ok (d.note m, rest) := by
  have hcolon : colon (s₂ ++ ':' :: (s₃ ++ (v ++ rest))) = .ok (s₃ ++ (v ++ rest)) :=
    colon_eq_ok_iff.mpr ⟨s₂, h₂, rfl⟩
  unfold member
  cases h with
  | @known name f t hkey hname hvalue =>
    have hf : Field.ofKey? name = some f := Field.ofKey?_eq_some_iff.mpr hname
    rw [string_eq_ok_iff.mpr ⟨key, hkey, rfl⟩]
    simp only [bind, Except.bind, hf, hd f t rfl, hcolon, hvalue.optionalText_eq h₃]
    rfl
  | @unknown name hkey hname hvalue =>
    have hnone : Field.ofKey? name = none := Field.ofKey?_eq_none_iff.mpr hname
    rw [string_eq_ok_iff.mpr ⟨key, hkey, rfl⟩]
    simp only [bind, Except.bind, hnone, hcolon, hvalue.skipValue_eq h₃ hrest]
    rfl

/-! ## Objects -/

theorem nextKey_key_iff : nextKey cs = .ok (.key rest) ↔
    ∃ s s', IsBlanks s ∧ IsBlanks s' ∧ cs = s ++ ',' :: (s' ++ '"' :: rest) := by
  constructor
  · intro h
    unfold nextKey at h
    split at h
    · cases h
    · next c tail hskip =>
      obtain ⟨s, hs, rfl⟩ := exists_blanks_of_eq hskip
      split at h
      · cases h
      · split at h
        · next hc =>
          subst hc
          split at h
          · cases h
          · next d tail' hskip' =>
            obtain ⟨s', hs', rfl⟩ := exists_blanks_of_eq hskip'
            split at h
            · next hd =>
              subst hd
              cases h
              exact ⟨s, s', hs, hs', rfl⟩
            · split at h <;> cases h
        · cases h
  · rintro ⟨s, s', hs, hs', rfl⟩
    unfold nextKey
    rw [skipBlanks_append hs, skipBlanks_cons rfl]
    dsimp only
    rw [if_neg (by decide), if_pos rfl, skipBlanks_append hs', skipBlanks_cons rfl]
    rfl

theorem nextKey_done_iff : nextKey cs = .ok (.done rest) ↔
    ∃ s, IsBlanks s ∧ cs = s ++ '\x7d' :: rest := by
  constructor
  · intro h
    unfold nextKey at h
    split at h
    · cases h
    · next c tail hskip =>
      obtain ⟨s, hs, rfl⟩ := exists_blanks_of_eq hskip
      split at h
      · next hc =>
        subst hc
        cases h
        exact ⟨s, hs, rfl⟩
      · split at h
        · split at h
          · cases h
          · split at h
            · cases h
            · split at h <;> cases h
        · cases h
  · rintro ⟨s, hs, rfl⟩
    unfold nextKey
    rw [skipBlanks_append hs, skipBlanks_cons rfl]
    rfl

/-- Blanks may come before members. -/
theorem Separated.blanks_members (hs : IsBlanks s) (h : Separated Member w ms) :
    Separated Member (s ++ w) ms := by
  have hmember : ∀ {v : List Char} {m : Option Entry}, Member v m → Member (s ++ v) m := by
    intro v m hv
    cases hv with
    | mk h₁ h₂ h₃ h₄ hsays =>
      rw [← List.append_assoc]
      exact .mk (hs.append h₁) h₂ h₃ h₄ hsays
  cases h with
  | one h => exact .one (hmember h)
  | more h h' =>
    rw [← List.append_assoc]
    exact .more (hmember h) h'

theorem members_sound (h : members d cs = .ok (d', rest)) :
    ∃ w ms, Separated Member ('"' :: w) ms ∧ d.AdmitsAll ms ∧ d' = ms.foldl Draft.note d ∧
      cs = w ++ '\x7d' :: rest := by
  fun_induction members d cs with
  | case1 | case2 => cases h
  | case3 d cs d₁ tail hmember rest' hnext =>
    obtain ⟨key, s₂, s₃, v, m, h₂, h₃, hsays, hadmits, rfl, rfl⟩ := member_sound hmember
    obtain ⟨s₄, h₄, rfl⟩ := nextKey_done_iff.mp hnext
    cases h
    refine ⟨_, [m], .one (.mk isBlanks_nil h₂ h₃ h₄ hsays), ⟨hadmits, trivial⟩, rfl, by simp⟩
  | case4 d cs d₁ tail hmember rest' hnext ih =>
    obtain ⟨key, s₂, s₃, v, m, h₂, h₃, hsays, hadmits, rfl, rfl⟩ := member_sound hmember
    obtain ⟨s₄, s', h₄, hs', rfl⟩ := nextKey_key_iff.mp hnext
    obtain ⟨w, ms, hms, hall, rfl, rfl⟩ := ih h
    have hmember := Member.mk isBlanks_nil h₂ h₃ h₄ hsays
    exact ⟨_, m :: ms, .more hmember (hms.blanks_members hs'), ⟨hadmits, hall⟩, rfl, by simp⟩

/-- Members are read one after the other, as long as there is another key. -/
theorem members_eq (d : Draft) (cs : List Char) :
    members d cs = (member d cs).bind fun r => (nextKey r.2).bind fun
      | .done rest => .ok (r.1, rest)
      | .key rest => members r.1 rest := by
  conv => lhs; rw [members]
  split
  · next e he =>
    rw [he]
    rfl
  · next d' tail hmember =>
    rw [hmember]
    show _ = (nextKey tail).bind _
    split
    · next e he =>
      rw [he]
      rfl
    · next rest hnext =>
      rw [hnext]
      rfl
    · next rest hnext =>
      rw [hnext]
      rfl

theorem members_of_done {tail : List Char} (hmember : member d cs = .ok (d', tail))
    (hnext : nextKey tail = .ok (.done rest)) : members d cs = .ok (d', rest) := by
  rw [members_eq, hmember, Except.bind, hnext]
  rfl

theorem members_of_key {tail : List Char} (hmember : member d cs = .ok (d', tail))
    (hnext : nextKey tail = .ok (.key rest)) : members d cs = members d' rest := by
  rw [members_eq, hmember, Except.bind, hnext]
  rfl

theorem members_of_error {e : Fault} (h : member d cs = .error e) : members d cs = .error e := by
  rw [members_eq, h]
  rfl

/-- A key that has come up before is refused, whatever its value is. -/
theorem Says.member_eq_error (h : Says key v m) (hd : ¬d.Admits m) (tail : List Char) :
    ∃ f tail', member d (key ++ '"' :: tail) = .error (duplicate f tail') := by
  cases h with
  | unknown hkey hname hvalue =>
    refine absurd ?_ hd
    intro f t hm
    cases hm
  | @known name f t hkey hname hvalue =>
    have hf : Field.ofKey? name = some f := Field.ofKey?_eq_some_iff.mpr hname
    cases hget : d.get f with
    | none =>
      refine absurd ?_ hd
      rintro g u ⟨⟩
      exact hget
    | some u =>
      refine ⟨f, tail, ?_⟩
      unfold member
      rw [string_eq_ok_iff.mpr ⟨key, hkey, rfl⟩]
      simp only [bind, Except.bind, hf, hget]

theorem duplicate_cause (f : Field) (tail : List Char) :
    (duplicate f tail).cause = .duplicateField f.key := by
  unfold duplicate
  split <;> rfl

/-- **Members are read to their end, or until a field comes up again.** -/
theorem Separated.members_eq (h : Separated Member w ms) :
    ∃ s w', IsBlanks s ∧ w = s ++ '"' :: w' ∧ ∀ d rest,
      (d.AdmitsAll ms → members d (w' ++ '\x7d' :: rest) = .ok (ms.foldl Draft.note d, rest)) ∧
      (¬d.AdmitsAll ms → ∃ f tail, members d (w' ++ '\x7d' :: rest) = .error (duplicate f tail)) := by
  induction h with
  | @one _ m h =>
    cases h with
    | @mk s₁ s₂ s₃ s₄ key v _ h₁ h₂ h₃ h₄ hsays =>
      refine ⟨s₁, _, h₁, rfl, fun d rest => ⟨fun hd => ?_, fun hd => ?_⟩⟩
      · have hread := hsays.member_eq h₂ h₃ hd.1 (stops_of_blanks h₄ (stops_closing .object rest))
        have hnext : nextKey (s₄ ++ '\x7d' :: rest) = .ok (.done rest) :=
          nextKey_done_iff.mpr ⟨s₄, h₄, rfl⟩
        simp only [List.append_assoc, List.cons_append]
        exact members_of_done hread hnext
      · have hm : ¬d.Admits m := fun hm => hd ⟨hm, trivial⟩
        simp only [List.append_assoc, List.cons_append]
        obtain ⟨f, tail, hread⟩ := hsays.member_eq_error hm _
        exact ⟨f, tail, members_of_error hread⟩
  | @more v w m ms h _ ih =>
    obtain ⟨s, w', hs, rfl, hmembers⟩ := ih
    cases h with
    | @mk s₁ s₂ s₃ s₄ key v m h₁ h₂ h₃ h₄ hsays =>
      refine ⟨s₁, key ++ '"' :: (s₂ ++ ':' :: (s₃ ++ (v ++ (s₄ ++ ',' :: (s ++ '"' :: w'))))), h₁,
        by simp, fun d rest => ?_⟩
      have hstops : Stops continuesNumber (',' :: (s ++ '"' :: (w' ++ '\x7d' :: rest))) :=
        stops_cons rfl
      have hnext : nextKey (s₄ ++ ',' :: (s ++ '"' :: (w' ++ '\x7d' :: rest)))
          = .ok (.key (w' ++ '\x7d' :: rest)) :=
        nextKey_key_iff.mpr ⟨s₄, s, h₄, hs, rfl⟩
      simp only [List.append_assoc, List.cons_append]
      by_cases hm : d.Admits m
      · have hread := hsays.member_eq h₂ h₃ hm (stops_of_blanks h₄ hstops)
        rw [members_of_key hread hnext]
        obtain ⟨hok, herror⟩ := hmembers (d.note m) rest
        exact ⟨fun hd => hok hd.2, fun hd => herror fun hall => hd ⟨hm, hall⟩⟩
      · obtain ⟨f, tail, hread⟩ := hsays.member_eq_error hm _
        exact ⟨fun hd => absurd hd.1 hm, fun _ => ⟨f, tail, members_of_error hread⟩⟩

/-- So are they behind the opening bracket. -/
theorem Separated.object_eq (h : Separated Member w ms) (rest : List Char) :
    (Draft.empty.AdmitsAll ms →
      object (w ++ '\x7d' :: rest) = .ok (ms.foldl Draft.note .empty, rest)) ∧
    (¬Draft.empty.AdmitsAll ms →
      ∃ f tail, object (w ++ '\x7d' :: rest) = .error (duplicate f tail)) := by
  obtain ⟨s, w', hs, rfl, hmembers⟩ := h.members_eq
  have hfirst : firstKey (s ++ '"' :: w' ++ '\x7d' :: rest) = .ok (.key (w' ++ '\x7d' :: rest)) := by
    rw [List.append_assoc, firstKey, skipBlanks_append hs, List.cons_append, skipBlanks_cons rfl]
    rfl
  rw [object, hfirst]
  exact hmembers .empty rest

theorem firstKey_done {s : List Char} (hs : IsBlanks s) (rest : List Char) :
    firstKey (s ++ '\x7d' :: rest) = .ok (.done rest) := by
  rw [firstKey, skipBlanks_append hs, skipBlanks_cons rfl]
  rfl

theorem object_sound (h : object cs = .ok (d, rest)) :
    ∃ w ms, Enclosed .object Member ('\x7b' :: w) ms ∧ Draft.empty.AdmitsAll ms ∧
      d = ms.foldl Draft.note .empty ∧ cs = w ++ rest := by
  simp only [object, bind, Except.bind] at h
  split at h
  · cases h
  · next follow hfirst =>
    unfold firstKey at hfirst
    split at hfirst
    · cases hfirst
    · next c tail hskip =>
      obtain ⟨s, hs, rfl⟩ := exists_blanks_of_eq hskip
      split at hfirst
      · next hc =>
        subst hc
        cases hfirst
        cases h
        exact ⟨s ++ ['\x7d'], [], .nothing hs, trivial, rfl, by simp⟩
      · split at hfirst
        · next hc =>
          subst hc
          cases hfirst
          obtain ⟨w, ms, hms, hall, rfl, rfl⟩ := members_sound h
          exact ⟨s ++ '"' :: w ++ ['\x7d'], ms, .items (hms.blanks_members hs), hall, rfl, by simp⟩
        · cases hfirst

/-- **An object is read as what its members say**, if no field comes up twice. -/
theorem object_eq_ok_iff : object cs = .ok (d, rest) ↔
    ∃ w ms, Enclosed .object Member ('\x7b' :: w) ms ∧ Draft.empty.AdmitsAll ms ∧
      d = ms.foldl Draft.note .empty ∧ cs = w ++ rest := by
  refine ⟨object_sound, ?_⟩
  rintro ⟨w, ms, hms, hall, rfl, rfl⟩
  generalize hv : '\x7b' :: w = v at hms
  cases hms with
  | @nothing s hs =>
    obtain rfl : w = s ++ ['\x7d'] := (List.cons.inj hv).2
    rw [List.append_assoc, List.singleton_append, object, firstKey_done hs]
    rfl
  | @items v ms h =>
    obtain rfl : w = v ++ ['\x7d'] := (List.cons.inj hv).2
    rw [List.append_assoc]
    exact (h.object_eq rest).1 hall

/-! ## Lists -/

/-- There is no other text before the closing bracket. -/
theorem element?_none_iff {first : Bool} : element? first cs = .ok (none, rest) ↔
    ∃ s tail, IsBlanks s ∧ rest = ']' :: tail ∧ cs = s ++ rest := by
  constructor
  · intro h
    unfold element? at h
    split at h
    · cases h
    · next c tail hskip =>
      obtain ⟨s, hs, rfl⟩ := exists_blanks_of_eq hskip
      split at h
      · next hc =>
        subst hc
        cases h
        exact ⟨s, tail, hs, rfl, rfl⟩
      · have hsome : ∀ {r : Result (Option String)},
            r.map (fun r => (some r.1, r.2)) ≠ .ok (none, rest) := by
          intro r hr
          cases r <;> cases hr
        split at h
        · exact absurd h hsome
        · split at h
          · split at h
            · cases h
            · split at h
              · cases h
              · exact absurd h hsome
          · cases h
  · rintro ⟨s, tail, hs, rfl, rfl⟩
    unfold element?
    rw [skipBlanks_append hs, skipBlanks_cons rfl]
    rfl

theorem element?_closing {first : Bool} (rest : List Char) :
    element? first (']' :: rest) = .ok (none, ']' :: rest) :=
  element?_none_iff.mpr ⟨[], rest, isBlanks_nil, rfl, rfl⟩

theorem map_some_eq_ok_iff {r : Result (Option String)} :
    r.map (fun r => (some r.1, r.2)) = .ok (some t, rest) ↔ r = .ok (t, rest) := by
  cases r with
  | error e =>
    constructor <;> intro h <;> cases h
  | ok r =>
    constructor
    · intro h
      cases h
      rfl
    · intro h
      cases h
      rfl

/-- The first text is one with blanks before it. -/
theorem element?_first_iff : element? true cs = .ok (some t, rest) ↔
    ∃ s v, IsBlanks s ∧ SpellsText v t ∧ cs = s ++ (v ++ rest) := by
  constructor
  · intro h
    unfold element? at h
    split at h
    · cases h
    · next c tail hskip =>
      obtain ⟨s, hs, rfl⟩ := exists_blanks_of_eq hskip
      split at h
      · cases h
      · rw [if_pos rfl, map_some_eq_ok_iff] at h
        obtain ⟨s', v, hs', hv, htail⟩ := optionalText_sound h
        exact ⟨s ++ s', v, hs.append hs', hv, by rw [htail, List.append_assoc]⟩
  · rintro ⟨s, v, hs, hv, rfl⟩
    have hread := hv.optionalText_eq isBlanks_nil rest
    obtain ⟨c, tail, rfl, hblank, hclosing⟩ := hv.derives.exists_cons
    have hc : c ≠ ']' := hclosing .list
    unfold element?
    rw [skipBlanks_append hs, List.cons_append, skipBlanks_cons hblank]
    dsimp only
    rw [if_neg hc, if_pos rfl]
    exact map_some_eq_ok_iff.mpr hread

/-- Any other one has a comma before it. -/
theorem element?_next_iff : element? false cs = .ok (some t, rest) ↔
    ∃ s s' v, IsBlanks s ∧ IsBlanks s' ∧ SpellsText v t ∧ cs = s ++ ',' :: (s' ++ (v ++ rest)) := by
  constructor
  · intro h
    unfold element? at h
    split at h
    · cases h
    · next c tail hskip =>
      obtain ⟨s, hs, rfl⟩ := exists_blanks_of_eq hskip
      split at h
      · cases h
      · rw [if_neg Bool.false_ne_true] at h
        split at h
        · next hc =>
          subst hc
          split at h
          · cases h
          · next d tail' hskip' =>
            obtain ⟨s', hs', rfl⟩ := exists_blanks_of_eq hskip'
            split at h
            · cases h
            · rw [map_some_eq_ok_iff] at h
              obtain ⟨s'', v, hs'', hv, htail⟩ := optionalText_sound h
              exact ⟨s, s' ++ s'', v, hs, hs'.append hs'', hv, by rw [htail, List.append_assoc]⟩
        · cases h
  · rintro ⟨s, s', v, hs, hs', hv, rfl⟩
    have hread := hv.optionalText_eq isBlanks_nil rest
    obtain ⟨c, tail, rfl, hblank, hclosing⟩ := hv.derives.exists_cons
    have hc : c ≠ ']' := hclosing .list
    unfold element?
    rw [skipBlanks_append hs, skipBlanks_cons rfl]
    dsimp only
    rw [if_neg (by decide), if_neg Bool.false_ne_true, if_pos rfl, skipBlanks_append hs',
      List.cons_append, skipBlanks_cons hblank]
    dsimp only
    rw [if_neg hc]
    exact map_some_eq_ok_iff.mpr hread

theorem listEnd_eq_ok_iff : listEnd cs = .ok rest ↔ ∃ s, IsBlanks s ∧ cs = s ++ ']' :: rest := by
  constructor
  · intro h
    unfold listEnd at h
    split at h
    · cases h
    · next c tail hskip =>
      obtain ⟨s, hs, rfl⟩ := exists_blanks_of_eq hskip
      split at h
      · next hc =>
        subst hc
        cases h
        exact ⟨s, hs, rfl⟩
      · split at h
        · split at h <;> cases h
        · cases h
  · rintro ⟨s, hs, rfl⟩
    unfold listEnd
    rw [skipBlanks_append hs, skipBlanks_cons rfl]
    rfl

/-- Where the closing bracket is next, there are no more texts. -/
theorem listEnd_closing (rest : List Char) : listEnd (']' :: rest) = .ok rest :=
  listEnd_eq_ok_iff.mpr ⟨[], isBlanks_nil, rfl⟩

/-- Where another comma is next, what stands behind it is too much. -/
theorem listEnd_comma {s s' tail : List Char} {c : Char} (hs : IsBlanks s) (hs' : IsBlanks s')
    (hblank : isBlank c = false) (hc : c ≠ ']') :
    listEnd (s ++ ',' :: (s' ++ c :: tail)) = .error (.on .trailingCharacters (c :: tail)) := by
  unfold listEnd
  rw [skipBlanks_append hs, skipBlanks_cons rfl]
  dsimp only
  rw [if_neg (by decide), if_pos rfl, skipBlanks_append hs', skipBlanks_cons hblank]
  split
  · next heq => exact absurd (List.cons.inj heq).1 hc
  · rfl

/-- A list is read as two looks for a text, and its end. -/
theorem list_eq {first second : Option (Option String)} {r₁ r₂ : List Char}
    (hfirst : element? true cs = .ok (first, r₁))
    (hsecond : element? first.isNone r₁ = .ok (second, r₂)) :
    list cs = (listEnd r₂).map (⟨first, second⟩, ·) := by
  simp only [list, bind, Except.bind, hfirst, hsecond]
  cases listEnd r₂ <;> rfl

theorem list_sound (h : list cs = .ok (d, rest)) :
    ∃ w ts, Enclosed .list Element ('[' :: w) ts ∧ ts.length ≤ 2 ∧ d = ⟨ts[0]?, ts[1]?⟩ ∧
      cs = w ++ rest := by
  simp only [list, bind, Except.bind] at h
  split at h
  · cases h
  · next r hfirst =>
    obtain ⟨first, r₁⟩ := r
    split at h
    · cases h
    · next r hsecond =>
      obtain ⟨second, r₂⟩ := r
      split at h
      · cases h
      · next rest' hend =>
        cases h
        dsimp only at hsecond hend
        cases first with
        | none =>
          obtain ⟨s, tail, hs, rfl, rfl⟩ := element?_none_iff.mp hfirst
          rw [Option.isNone_none, element?_closing] at hsecond
          cases hsecond
          rw [listEnd_closing] at hend
          cases hend
          exact ⟨s ++ [']'], [], .nothing hs, by decide, rfl, by simp⟩
        | some t =>
          obtain ⟨s, v, hs, hv, rfl⟩ := element?_first_iff.mp hfirst
          cases second with
          | none =>
            obtain ⟨s', tail, hs', rfl, rfl⟩ := element?_none_iff.mp hsecond
            rw [listEnd_closing] at hend
            cases hend
            exact ⟨s ++ (v ++ s') ++ [']'], [t], .items (.one (.mk hs hs' hv)), by simp, rfl, by simp⟩
          | some t' =>
            obtain ⟨s₁, s₂, v', h₁, h₂, hv', rfl⟩ := element?_next_iff.mp hsecond
            obtain ⟨s₃, h₃, rfl⟩ := listEnd_eq_ok_iff.mp hend
            have hitems := Separated.more (Element.mk hs h₁ hv) (.one (.mk h₂ h₃ hv'))
            exact ⟨_ ++ [']'], [t, t'], .items hitems, by simp, rfl, by simp⟩

/-- Texts are read to the end of the list, if there are no more than two. -/
theorem Separated.list_eq_ok {ts : List (Option String)} (h : Separated Element w ts)
    (hlength : ts.length ≤ 2) (rest : List Char) :
    list (w ++ ']' :: rest) = .ok (⟨ts[0]?, ts[1]?⟩, rest) := by
  cases h with
  | @one _ t h =>
    cases h with
    | @mk s v s' _ hs hs' hv =>
      have hfirst : element? true (s ++ (v ++ s') ++ ']' :: rest) = .ok (some t, s' ++ ']' :: rest) :=
        element?_first_iff.mpr ⟨s, v, hs, hv, by simp⟩
      have hsecond : element? false (s' ++ ']' :: rest) = .ok (none, ']' :: rest) :=
        element?_none_iff.mpr ⟨s', rest, hs', rfl, rfl⟩
      rw [list_eq hfirst hsecond, listEnd_closing]
      rfl
  | @more _ _ t _ h h' =>
    cases h with
    | @mk s v s' _ hs hs' hv =>
      cases h' with
      | more h h' =>
        -- a third text is one too many
        cases h' <;> simp at hlength
      | @one _ t₁ h =>
        cases h with
        | @mk s₁ v₁ s₂ _ h₁ h₂ hv₁ =>
          have hfirst : element? true (s ++ (v ++ s') ++ ',' :: (s₁ ++ (v₁ ++ s₂)) ++ ']' :: rest)
              = .ok (some t, s' ++ ',' :: (s₁ ++ (v₁ ++ (s₂ ++ ']' :: rest)))) :=
            element?_first_iff.mpr ⟨s, v, hs, hv, by simp⟩
          have hsecond : element? false (s' ++ ',' :: (s₁ ++ (v₁ ++ (s₂ ++ ']' :: rest))))
              = .ok (some t₁, s₂ ++ ']' :: rest) :=
            element?_next_iff.mpr ⟨s', s₁, v₁, hs', h₁, hv₁, rfl⟩
          have hend : listEnd (s₂ ++ ']' :: rest) = .ok rest := listEnd_eq_ok_iff.mpr ⟨s₂, h₂, rfl⟩
          rw [list_eq hfirst hsecond, hend]
          rfl

/-- **A list is read as its texts**, if there are no more than two. -/
theorem list_eq_ok_iff : list cs = .ok (d, rest) ↔
    ∃ w ts, Enclosed .list Element ('[' :: w) ts ∧ ts.length ≤ 2 ∧ d = ⟨ts[0]?, ts[1]?⟩ ∧
      cs = w ++ rest := by
  refine ⟨list_sound, ?_⟩
  rintro ⟨w, ts, hts, hlength, rfl, rfl⟩
  generalize hv : '[' :: w = v at hts
  cases hts with
  | @nothing s hs =>
    obtain rfl : w = s ++ [']'] := (List.cons.inj hv).2
    have hfirst : element? true (s ++ [']'] ++ rest) = .ok (none, ']' :: rest) :=
      element?_none_iff.mpr ⟨s, rest, hs, rfl, by simp⟩
    rw [list_eq hfirst (element?_closing rest), listEnd_closing]
    rfl
  | @items v ts h =>
    obtain rfl : w = v ++ [']'] := (List.cons.inj hv).2
    rw [List.append_assoc]
    exact h.list_eq_ok hlength rest

/-- A third text is refused at its first character. -/
theorem Separated.list_eq_error {ts : List (Option String)} (h : Separated Element w ts)
    (hlength : 2 < ts.length) (rest : List Char) :
    ∃ tail, list (w ++ ']' :: rest) = .error (.on .trailingCharacters tail) := by
  cases h with
  | one h => simp at hlength
  | @more _ _ t _ h h' =>
    cases h' with
    | one h' => simp at hlength
    | @more _ w t₁ _ h' h'' =>
      obtain ⟨s₃, c, tail, h₃, rfl, hblank, hclosing⟩ := (h''.derives Element.derives).exists_begin_items
      have hc : c ≠ ']' := hclosing .list
      cases h with
      | @mk s v s' _ hs hs' hv =>
        cases h' with
        | @mk s₁ v₁ s₂ _ h₁ h₂ hv₁ =>
          have hfirst : element? true (s ++ (v ++ (s' ++ ',' :: (s₁ ++ (v₁ ++ (s₂ ++ ',' ::
                (s₃ ++ c :: (tail ++ ']' :: rest))))))))
              = .ok (some t, s' ++ ',' :: (s₁ ++ (v₁ ++ (s₂ ++ ',' ::
                (s₃ ++ c :: (tail ++ ']' :: rest)))))) :=
            element?_first_iff.mpr ⟨s, v, hs, hv, rfl⟩
          have hsecond : element? false (s' ++ ',' :: (s₁ ++ (v₁ ++ (s₂ ++ ',' ::
                (s₃ ++ c :: (tail ++ ']' :: rest))))))
              = .ok (some t₁, s₂ ++ ',' :: (s₃ ++ c :: (tail ++ ']' :: rest))) :=
            element?_next_iff.mpr ⟨s', s₁, v₁, hs', h₁, hv₁, rfl⟩
          refine ⟨c :: (tail ++ ']' :: rest), ?_⟩
          simp only [List.append_assoc, List.cons_append]
          rw [list_eq hfirst hsecond, listEnd_comma h₂ h₃ hblank hc]
          rfl

/-! ## Documents -/

/-- Reads what is between brackets, the opening one being read. -/
def enclosed : Bracket → List Char → Except Fault (Draft × List Char)
  | .object => object
  | .list => list

/-- A document is read to its closing bracket, and then there may be no more than blanks. -/
theorem read_eq (hs : IsBlanks s) (b : Bracket) (v : List Char) :
    read (s ++ b.opening :: v) = (enclosed b v).bind fun r =>
      if skipBlanks r.2 = [] then .ok r.1.finish
      else .error (.on .trailingCharacters (skipBlanks r.2)) := by
  have hopening : skipBlanks (s ++ b.opening :: v) = b.opening :: v := by
    rw [skipBlanks_append hs]
    cases b <;> exact skipBlanks_cons rfl v
  unfold read
  rw [hopening]
  cases b
  case' object => show (object v).bind _ = (object v).bind _
  case' list => show (list v).bind _ = (list v).bind _
  -- what comes behind the closing bracket is the same for both
  all_goals
    congr 1
    funext r
    obtain ⟨d, rest⟩ := r
    dsimp only
    cases skipBlanks rest <;> rfl

theorem read_of_ok {b : Bracket} (hs : IsBlanks s) (h : enclosed b v = .ok (d, rest))
    (hrest : IsBlanks rest) : read (s ++ b.opening :: v) = .ok d.finish := by
  rw [read_eq hs, h, Except.bind, if_pos (skipBlanks_eq_nil_iff.mpr hrest)]

theorem read_of_error {b : Bracket} {e : Fault} (hs : IsBlanks s) (h : enclosed b v = .error e) :
    read (s ++ b.opening :: v) = .error e := by
  rw [read_eq hs, h, Except.bind]

/-- What is read is between brackets, with blanks around. -/
theorem exists_of_read (h : read w = .ok c) :
    ∃ s b v d rest, IsBlanks s ∧ enclosed b v = .ok (d, rest) ∧ IsBlanks rest ∧
      w = s ++ b.opening :: v ∧ c = d.finish := by
  obtain ⟨s, b, v, hs, rfl⟩ : ∃ (s : List Char) (b : Bracket) (v : List Char),
      IsBlanks s ∧ w = s ++ b.opening :: v := by
    unfold read at h
    split at h
    · cases h
    · next first tail hskip =>
      obtain ⟨s, hs, rfl⟩ := exists_blanks_of_eq hskip
      split at h
      · next hc => exact ⟨s, .list, tail, hs, by rw [hc]; rfl⟩
      · split at h
        · next hc => exact ⟨s, .object, tail, hs, by rw [hc]; rfl⟩
        · cases h
  rw [read_eq hs] at h
  cases hread : enclosed b v with
  | error e =>
    rw [hread] at h
    cases h
  | ok r =>
    obtain ⟨d, rest⟩ := r
    rw [hread, Except.bind] at h
    by_cases hend : skipBlanks rest = []
    · rw [if_pos hend] at h
      cases h
      exact ⟨s, b, v, d, rest, hs, hread, skipBlanks_eq_nil_iff.mp hend, rfl, rfl⟩
    · rw [if_neg hend] at h
      cases h

/-- **What is read is a document, and the configuration is the one that it spells.** -/
theorem read_eq_ok_iff : read w = .ok c ↔ Document w c := by
  constructor
  · intro h
    obtain ⟨s, b, v, d, rest, hs, hread, hrest, rfl, rfl⟩ := exists_of_read h
    cases b with
    | object =>
      obtain ⟨v, ms, hms, hall, rfl, rfl⟩ := object_eq_ok_iff.mp hread
      rw [Draft.finish_noteAll hall]
      exact .object ⟨s, '\x7b' :: v, rest, rfl, hs, hms, hrest⟩ (Draft.admitsAll_iff.mp hall).1
    | list =>
      obtain ⟨v, ts, hts, hlength, rfl, rfl⟩ := list_eq_ok_iff.mp hread
      exact .list ⟨s, '[' :: v, rest, rfl, hs, hts, hrest⟩ hlength
  · intro h
    cases h with
    | @object ms h honce =>
      obtain ⟨s, v, s', rfl, hs, hv, hs'⟩ := h
      have hall : Draft.empty.AdmitsAll ms :=
        Draft.admitsAll_iff.mpr ⟨honce, fun e _ => by cases e.1 <;> rfl⟩
      obtain ⟨v, rfl⟩ : ∃ v', v = '\x7b' :: v' := by
        cases hv <;> exact ⟨_, rfl⟩
      have hread : enclosed .object (v ++ s') = .ok (ms.foldl Draft.note .empty, s') :=
        object_eq_ok_iff.mpr ⟨v, ms, hv, hall, rfl, rfl⟩
      rw [← Draft.finish_noteAll hall]
      exact read_of_ok hs hread hs'
    | @list ts h hlength =>
      obtain ⟨s, v, s', rfl, hs, hv, hs'⟩ := h
      obtain ⟨v, rfl⟩ : ∃ v', v = '[' :: v' := by
        cases hv <;> exact ⟨_, rfl⟩
      have hread : enclosed .list (v ++ s') = .ok (⟨ts[0]?, ts[1]?⟩, s') :=
        list_eq_ok_iff.mpr ⟨v, ts, hv, hlength, rfl, rfl⟩
      exact read_of_ok hs hread hs'

/-- **An object that tells a field more than once is refused** for that. -/
theorem read_of_not_nodup (h : IsObject w ms) (hnot : ¬((entries ms).map Prod.fst).Nodup) :
    ∃ f tail, read w = .error (duplicate f tail) := by
  obtain ⟨s, v, s', rfl, hs, hv, hs'⟩ := h
  cases hv with
  | nothing h => exact absurd List.nodup_nil hnot
  | @items v _ h =>
    have hall : ¬Draft.empty.AdmitsAll ms := fun hall => hnot (Draft.admitsAll_iff.mp hall).1
    obtain ⟨f, tail, hread⟩ := (h.object_eq s').2 hall
    refine ⟨f, tail, ?_⟩
    rw [List.cons_append, List.append_assoc]
    exact read_of_error (b := .object) hs hread

/-- **So is a list of more than two texts.** -/
theorem read_of_length {ts : List (Option String)} (h : IsList w ts) (hlength : 2 < ts.length) :
    ∃ tail, read w = .error (.on .trailingCharacters tail) := by
  obtain ⟨s, v, s', rfl, hs, hv, hs'⟩ := h
  cases hv with
  | nothing h => cases hlength
  | @items v _ h =>
    obtain ⟨tail, hread⟩ := h.list_eq_error hlength s'
    refine ⟨tail, ?_⟩
    rw [List.cons_append, List.append_assoc]
    exact read_of_error (b := .list) hs hread

end FragmentFeed.Config
