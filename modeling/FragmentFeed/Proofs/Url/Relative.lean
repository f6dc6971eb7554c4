import FragmentFeed.Proofs.Url.Shape

/-!
# Relative texts

A text is refused for being relative if it has no scheme and there is no base, and in no other case
(`parse_eq_relativeWithoutBase_iff`): whatever else is wrong with a text has a name of its own.
-/

namespace FragmentFeed

open Text

/-- Whether a reading fails, if it does, for another reason than that a text is relative. -/
def NotRelative {α : Type} (r : Except ParseError α) : Prop := r ≠ .error .relativeWithoutBase

namespace NotRelative

variable {α β : Type} {r : Except ParseError α} {f : α → Except ParseError β}

theorem ok (a : α) : NotRelative (.ok a) := nofun

theorem error {e : ParseError} (h : e ≠ .relativeWithoutBase) :
    NotRelative (.error e : Except ParseError α) := fun he => h (Except.error.inj he)

theorem bind (hr : NotRelative r) (hf : ∀ a, NotRelative (f a)) : NotRelative (r >>= f) := by
  cases r with
  | error e => exact error fun he => hr (congrArg Except.error he)
  | ok a => exact hf a

theorem map {g : α → β} (hr : NotRelative r) : NotRelative (r.map g) := by
  cases r with
  | error e => exact error fun he => hr (congrArg Except.error he)
  | ok a => exact ok (g a)

end NotRelative

/-! ## Hosts -/

namespace Host

theorem notRelative_parseBracketed (cs : List Char) : NotRelative (parseBracketed cs) := by
  unfold parseBracketed
  split
  · split
    · exact .ok _
    · exact .error nofun
  · exact .error nofun

theorem notRelative_parseName (name : List Char) : NotRelative (parseName name) := by
  unfold parseName
  split
  · exact .error nofun
  · exact .error nofun
  · split
    · split
      · exact .ok _
      · exact .error nofun
    · exact .ok _

theorem notRelative_parse (cs : List Char) : NotRelative (parse cs) := by
  unfold parse
  split
  · exact notRelative_parseBracketed _
  · split
    · exact .error nofun
    · exact notRelative_parseName _

theorem notRelative_parseVerbatim (cs : List Char) : NotRelative (parseVerbatim cs) := by
  unfold parseVerbatim
  split
  · exact notRelative_parseBracketed _
  · split
    · exact .error nofun
    · exact .ok _

end Host

/-! ## URLs -/

namespace Url

theorem notRelative_readHost (kind : SchemeKind) (text : List Char) :
    NotRelative (readHost kind text) := by
  unfold readHost
  split
  · split
    · exact .error nofun
    · exact .ok _
  · split
    · exact (Host.notRelative_parse text).map
    · exact (Host.notRelative_parseVerbatim text).map

theorem notRelative_readPort (n : Option Nat) (cs : List Char) : NotRelative (readPort n cs) := by
  induction cs generalizing n with
  | nil => exact .ok _
  | cons c rest ih =>
    unfold readPort
    split
    · dsimp only
      split
      · exact ih _
      · exact .error nofun
    · split
      · exact .ok _
      · exact .error nofun

theorem notRelative_readAuthority (scheme cs : List Char) : NotRelative (readAuthority scheme cs) := by
  have hend (c : Prop) [Decidable c] (a : Authority × List Char) :
      NotRelative (if c then .error .emptyHost else .ok a) := by
    split
    · exact .error nofun
    · exact .ok _
  unfold readAuthority
  dsimp only
  refine (notRelative_readHost _ _).bind fun host => ?_
  split
  · exact .error nofun
  · split
    · exact (notRelative_readPort _ _).bind fun _ => hend _ _
    · exact hend _ _

theorem notRelative_afterSlashes (scheme cs : List Char) : NotRelative (afterSlashes scheme cs) := by
  unfold afterSlashes
  dsimp only
  split
  · exact .error nofun
  · exact (notRelative_readAuthority scheme cs).bind fun _ => .ok _

theorem notRelative_fileAfterSlashes (cs : List Char) : NotRelative (fileAfterSlashes cs) := by
  unfold fileAfterSlashes
  dsimp only
  split
  · exact .ok _
  · refine (Host.notRelative_parse _).bind fun host => ?_
    split
    · exact .ok _
    · exact .ok _

theorem Shape.notRelative {base : Option Url} {r : Except ParseError Url} (h : Shape base r) :
    NotRelative r := by
  cases h with
  | verbatim => exact .error nofun
  | slashes scheme input => exact notRelative_afterSlashes scheme input
  | fileSlashes input => exact notRelative_fileAfterSlashes input
  | file host path input => exact .ok _
  | inBase hb hscheme hauthority => exact .ok _
  | bare h => exact .ok _

/-- **A text is refused for being relative exactly if it has no scheme and there is no base.** -/
theorem parse_eq_relativeWithoutBase_iff {base : Option Url} {text : List Char} :
    parse base text = .error .relativeWithoutBase
      ↔ splitScheme (clean text) = none ∧ base = none := by
  by_cases h : splitScheme (clean text) = none ∧ base = none
  · obtain ⟨hsplit, rfl⟩ := h
    exact ⟨fun _ => ⟨hsplit, rfl⟩, fun _ => parse_of_splitScheme_eq_none hsplit⟩
  · have hshape : Shape base (parse base text) := shape_parse (Classical.not_and_iff_not_or_not.mp h)
    exact ⟨fun hrel => absurd hrel hshape.notRelative, fun hboth => absurd hboth h⟩

end Url

end FragmentFeed
