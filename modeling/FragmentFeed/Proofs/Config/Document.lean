import FragmentFeed.Config.Json
import FragmentFeed.Proofs.Json.Grammar

/-!
# Documents

Which JSON texts spell a configuration, and which one. A document is an object that tells each field once
at most, whatever else its members are, or a list of at most two texts in the order of the fields. What
is told is a string, whose escapes make characters, or null.

* `Member`, `Element`: what stands between the commas, and what it says
* `Enclosed`: items between brackets
* `Document`: texts and the configurations that they spell
-/

namespace FragmentFeed.Config

open Json

/-- What a document says of a field. -/
abbrev Entry := Field × Option String

/-- A string or null, and what it says. -/
inductive SpellsText : List Char → Option String → Prop
  | null : SpellsText "null".toList none
  | string {w : List Char} {t : String} (h : Spells w t.toList) :
    SpellsText ('"' :: (w ++ ['"'])) (some t)

/-- The name of a field. -/
def Names (name : List Char) (f : Field) : Prop :=
  (name, f) ∈ [("base_url".toList, .baseUrl), ("log_filter".toList, .logFilter)]

/-- What a key and its value say: something of a field, or nothing where the key is no name. Either way
the key is one that spells a text. -/
inductive Says (key value : List Char) : Option Entry → Prop
  | known {name : List Char} {f : Field} {t : Option String} (hkey : Spells key name)
    (hname : Names name f) (hvalue : SpellsText value t) : Says key value (some (f, t))
  | unknown {name : List Char} (hkey : Spells key name) (hname : ∀ f : Field, ¬Names name f)
    (hvalue : Derives .value value) : Says key value none

/-- A key and its value, with blanks around, and what they say. -/
inductive Member : List Char → Option Entry → Prop
  | mk {s₁ s₂ s₃ s₄ key v : List Char} {m : Option Entry} (h₁ : IsBlanks s₁) (h₂ : IsBlanks s₂)
    (h₃ : IsBlanks s₃) (h₄ : IsBlanks s₄) (h : Says key v m) :
    Member (s₁ ++ '"' :: (key ++ '"' :: (s₂ ++ ':' :: (s₃ ++ (v ++ s₄))))) m

/-- A string or null, with blanks around, and what it says. -/
inductive Element : List Char → Option String → Prop
  | mk {s v s' : List Char} {t : Option String} (hs : IsBlanks s) (hs' : IsBlanks s')
    (h : SpellsText v t) : Element (s ++ (v ++ s')) t

/-- Items, at least one, with commas between them, and what they say. -/
inductive Separated {α : Type} (P : List Char → α → Prop) : List Char → List α → Prop
  | one {w : List Char} {a : α} (h : P w a) : Separated P w [a]
  | more {w w' : List Char} {a : α} {as : List α} (h : P w a) (h' : Separated P w' as) :
    Separated P (w ++ ',' :: w') (a :: as)

/-- Items between brackets, or none, and what they say. -/
inductive Enclosed {α : Type} (b : Bracket) (P : List Char → α → Prop) : List Char → List α → Prop
  | nothing {s : List Char} (hs : IsBlanks s) : Enclosed b P (b.opening :: (s ++ [b.closing])) []
  | items {w : List Char} {as : List α} (h : Separated P w as) :
    Enclosed b P (b.opening :: (w ++ [b.closing])) as

/-- An object with blanks around, and what its members say. -/
def IsObject (w : List Char) (ms : List (Option Entry)) : Prop :=
  Padded (fun v => Enclosed .object Member v ms) w

/-- A list with blanks around, and what its elements say. -/
def IsList (w : List Char) (ts : List (Option String)) : Prop :=
  Padded (fun v => Enclosed .list Element v ts) w

/-- What is said of fields. -/
def entries (ms : List (Option Entry)) : List Entry := ms.filterMap id

/-- What entries say of a field. -/
def said (es : List Entry) (f : Field) : Option String := (es.lookup f).join

/-- The configuration that entries say. -/
def ofEntries (es : List Entry) : Config := ⟨said es .baseUrl, said es .logFilter⟩

/-- The configuration that a list says. -/
def ofTexts (ts : List (Option String)) : Config := ⟨ts[0]?.join, ts[1]?.join⟩

/-- **The documents, and the configurations that they spell.** -/
inductive Document : List Char → Config → Prop
  | object {w : List Char} {ms : List (Option Entry)} (h : IsObject w ms)
    (honce : ((entries ms).map Prod.fst).Nodup) : Document w (ofEntries (entries ms))
  | list {w : List Char} {ts : List (Option String)} (h : IsList w ts) (hlength : ts.length ≤ 2) :
    Document w (ofTexts ts)

variable {w s key v : List Char} {c : Config} {es es' : List Entry} {f : Field} {t : Option String}
variable {ms : List (Option Entry)}

/-! ## Documents are JSON texts -/

theorem SpellsText.derives (h : SpellsText v t) : Derives .value v := by
  cases h with
  | null => exact .word (by simp [words])
  | string h => exact .string h.isBody

theorem Says.isBody {m : Option Entry} (h : Says key v m) : IsBody key := by
  cases h with
  | known hkey hname hvalue => exact hkey.isBody
  | unknown hkey hname hvalue => exact hkey.isBody

theorem Says.derives {m : Option Entry} (h : Says key v m) : Derives .value v := by
  cases h with
  | known hkey hname hvalue => exact hvalue.derives
  | unknown hkey hname hvalue => exact hvalue

theorem Member.derives {m : Option Entry} (h : Member w m) : Derives (.item .object) w := by
  cases h with
  | mk h₁ h₂ h₃ h₄ h => exact .member h₁ h.isBody h₂ h₃ h.derives h₄

theorem Element.derives (h : Element w t) : Derives (.item .list) w := by
  cases h with
  | mk hs hs' h => exact .element hs h.derives hs'

section items

variable {α : Type} {b : Bracket} {P : List Char → α → Prop} {as : List α}

theorem Separated.derives (hP : ∀ {w a}, P w a → Derives (.item b) w) (h : Separated P w as) :
    Derives (.items b) w := by
  induction h with
  | one h => exact .one (hP h)
  | more h _ ih => exact .more (hP h) ih

theorem Enclosed.derives (hP : ∀ {w a}, P w a → Derives (.item b) w) (h : Enclosed b P w as) :
    Derives .value w := by
  cases h with
  | nothing hs => exact .nothing b hs
  | items h => exact .bracket (h.derives hP)

end items

/-- **A document is a JSON text.** -/
theorem Document.isJson (h : Document w c) : IsJson w := by
  cases h with
  | object h honce =>
    obtain ⟨s, v, s', rfl, hs, hv, hs'⟩ := h
    exact ⟨s, v, s', rfl, hs, hv.derives Member.derives, hs'⟩
  | list h hlength =>
    obtain ⟨s, v, s', rfl, hs, hv, hs'⟩ := h
    exact ⟨s, v, s', rfl, hs, hv.derives Element.derives, hs'⟩

/-! ## What entries say -/

/-- An entry is found by its field if there is one entry for each field at most. -/
theorem lookup_eq_some_iff (honce : (es.map Prod.fst).Nodup) : es.lookup f = some t ↔ (f, t) ∈ es := by
  induction es with
  | nil => simp
  | cons e es ih =>
    obtain ⟨g, u⟩ := e
    rw [List.map_cons, List.nodup_cons] at honce
    by_cases hf : f = g
    · subst hf
      have hnot : (f, t) ∉ es := by
        intro h
        have hmem : (f, t).1 ∈ es.map Prod.fst := List.mem_map_of_mem h
        exact honce.1 hmem
      simp [hnot, eq_comm]
    · have hbeq : (f == g) = false := by simpa using hf
      rw [List.lookup_cons, hbeq, ih honce.2]
      simp [hf]

/-- **The order of entries does not matter.** -/
theorem ofEntries_perm (h : es.Perm es') (honce : (es.map Prod.fst).Nodup) :
    ofEntries es' = ofEntries es := by
  have hlookup : ∀ f, es'.lookup f = es.lookup f := by
    intro f
    refine Option.ext fun t => ?_
    rw [lookup_eq_some_iff honce, lookup_eq_some_iff ((h.map Prod.fst).nodup_iff.mp honce), h.mem_iff]
  simp only [ofEntries, said, hlookup]

/-! ## Every configuration has a document -/

/-- A character can be written as itself or behind a backslash. -/
theorem exists_denotes (c : Char) : IsPlain c ∨ ∃ e, Denotes e c := by
  by_cases hquote : c = '"'
  · exact .inr ⟨['"'], .letter (by simp [escapes, hquote])⟩
  by_cases hbackslash : c = '\\'
  · exact .inr ⟨['\\'], .letter (by simp [escapes, hbackslash])⟩
  by_cases hcontrol : c.toNat < 0x20
  · have hdigit : ∀ d, d < 16 → ∃ b, IsHexDigit d b := by
      intro d hd
      have hlength : d < "0123456789abcdef".toList.length := hd
      exact ⟨_, .inl (List.getElem?_eq_getElem hlength)⟩
    obtain ⟨a, ha⟩ := hdigit 0 (by decide)
    obtain ⟨b, hb⟩ := hdigit (c.toNat / 16) (by omega)
    obtain ⟨d, hd⟩ := hdigit (c.toNat % 16) (by omega)
    exact .inr ⟨_, .unit ⟨0, a, 0, a, _, b, _, d, rfl, by omega, ha, ha, hb, hd⟩⟩
  · exact .inl ⟨Nat.le_of_not_lt hcontrol, hquote, hbackslash⟩

theorem exists_spells_text (t : List Char) : ∃ w, Spells w t := by
  induction t with
  | nil => exact ⟨[], .nil⟩
  | cons c t ih =>
    obtain ⟨w, hw⟩ := ih
    rcases exists_denotes c with hc | ⟨e, he⟩
    · exact ⟨_, .plain hc hw⟩
    · exact ⟨_, .escape he hw⟩

theorem exists_spellsText (t : Option String) : ∃ v, SpellsText v t := by
  cases t with
  | none => exact ⟨_, .null⟩
  | some t =>
    obtain ⟨w, hw⟩ := exists_spells_text t.toList
    exact ⟨_, .string hw⟩

theorem exists_member (e : Entry) : ∃ w, Member w (some e) := by
  obtain ⟨f, t⟩ := e
  obtain ⟨name, hname⟩ : ∃ name, Names name f := by
    cases f with
    | baseUrl => exact ⟨_, List.mem_cons_self⟩
    | logFilter => exact ⟨_, List.mem_cons_of_mem _ List.mem_cons_self⟩
  obtain ⟨key, hkey⟩ := exists_spells_text name
  obtain ⟨v, hv⟩ := exists_spellsText t
  exact ⟨_, .mk isBlanks_nil isBlanks_nil isBlanks_nil isBlanks_nil (.known hkey hname hv)⟩

/-- **Every configuration is spelled by some document.** -/
theorem exists_document (c : Config) : ∃ w, Document w c := by
  obtain ⟨w, hw⟩ := exists_member (.baseUrl, c.baseUrl)
  obtain ⟨w', hw'⟩ := exists_member (.logFilter, c.logFilter)
  have hobject := Enclosed.items (b := .object) (.more hw (.one hw'))
  refine ⟨_, .object ⟨[], _, [], rfl, isBlanks_nil, hobject, isBlanks_nil⟩ ?_⟩
  show [Field.baseUrl, Field.logFilter].Nodup
  decide

end FragmentFeed.Config
