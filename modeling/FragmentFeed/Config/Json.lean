import FragmentFeed.Config.Error
import FragmentFeed.Config.Basic
import FragmentFeed.Json.Skip
import FragmentFeed.Text.Quotation

/-!
# Configuration as a JSON text

A configuration is an object, whose known keys come once at most and hold a string or null, or a
list of at most two such values in the order of the fields. What other keys hold is skipped.
-/

namespace FragmentFeed.Config

open Json Text

/-- The fields of a configuration. -/
inductive Field where
  | baseUrl
  | logFilter
  deriving DecidableEq, Repr

namespace Field

/-- The key of a field. -/
def key : Field → String
  | .baseUrl => "base_url"
  | .logFilter => "log_filter"

/-- The field that has a key. -/
def ofKey? (key : List Char) : Option Field :=
  [baseUrl, logFilter].find? (·.key.toList = key)

end Field

/-- What is known of a configuration while it is read: for each field whether it has come up, and
what it holds. -/
structure Draft where
  baseUrl : Option (Option String)
  logFilter : Option (Option String)
  deriving DecidableEq, Repr

namespace Draft

/-- No field has come up. -/
def empty : Draft := ⟨none, none⟩

/-- What a field holds, if it has come up. -/
def get (d : Draft) : Field → Option (Option String)
  | .baseUrl => d.baseUrl
  | .logFilter => d.logFilter

/-- Notes what a field holds. -/
def set (d : Draft) (value : Option String) : Field → Draft
  | .baseUrl => { d with baseUrl := some value }
  | .logFilter => { d with logFilter := some value }

/-- The configuration; a field that has not come up is not configured. -/
def finish (d : Draft) : Config := ⟨d.baseUrl.join, d.logFilter.join⟩

end Draft

/-! ## Values of a wrong type -/

/-- The fault of a value that begins with `c` where something else was asked for. A list or an
object is wrong from its bracket on; anything else is read first. -/
def wrongType (expected : String) (c : Char) (rest : List Char) : Fault :=
  if c = 'n' then either ((word ['u', 'l', 'l'] rest).map (wrong .null))
  else if c = 't' then either ((word ['r', 'u', 'e'] rest).map (wrong (.boolean true)))
  else if c = 'f' then either ((word ['a', 'l', 's', 'e'] rest).map (wrong (.boolean false)))
  else if c = '-' then number true rest
  else if isDigit c then number false (c :: rest)
  else if c = '"' then
    either ((string rest).map fun r => wrong (.string (Quotation.encode r.1)) r.2)
  else if c = '[' then wrong .sequence (c :: rest)
  else if c = '\x7b' then wrong .map (c :: rest)
  else .on .expectedValue (c :: rest)
where
  wrong (found : Found) (rest : List Char) : Fault := .before (.wrongType found expected) rest
  either : Except Fault Fault → Fault
    | .ok f => f
    | .error f => f
  number (negative : Bool) (cs : List Char) : Fault :=
    either do
      let (n, rest) ← numeral .endInValue cs
      return wrong (← n.found negative rest) rest

/-- A string or null. -/
def optionalText (cs : List Char) : Result (Option String) :=
  match skipBlanks cs with
  | [] => .error (.on .endInValue [])
  | c :: rest =>
    if c = 'n' then (word ['u', 'l', 'l'] rest).map (none, ·)
    else if c = '"' then (string rest).map fun r => (some (String.ofList r.1), r.2)
    else .error (wrongType "a string" c rest)

/-! ## The list -/

/-- The next value of a list; `none` before the closing bracket. All but the first follow a comma. -/
def element? (first : Bool) (cs : List Char) : Result (Option (Option String)) :=
  match skipBlanks cs with
  | [] => .error (.on .endInList [])
  | c :: rest =>
    if c = ']' then .ok (none, c :: rest)
    else if first then (optionalText (c :: rest)).map fun r => (some r.1, r.2)
    else if c = ',' then
      match skipBlanks rest with
      | [] => .error (.on .endInValue [])
      | d :: rest' =>
        if d = ']' then .error (.on .trailingComma (d :: rest'))
        else (optionalText (d :: rest')).map fun r => (some r.1, r.2)
    else .error (.on .expectedListEnd (c :: rest))

/-- The end of a list that holds as much as it may. -/
def listEnd (cs : List Char) : Except Fault (List Char) :=
  match skipBlanks cs with
  | [] => .error (.on .endInList [])
  | c :: rest =>
    if c = ']' then .ok rest
    else if c = ',' then
      match skipBlanks rest with
      | ']' :: rest' => .error (.on .trailingComma (']' :: rest'))
      | rest' => .error (.on .trailingCharacters rest')
    else .error (.on .trailingCharacters (c :: rest))

/-- The fields by position, the opening bracket being read. -/
def list (cs : List Char) : Except Fault (Draft × List Char) := do
  let (baseUrl, r₁) ← element? true cs
  let (logFilter, r₂) ← element? baseUrl.isNone r₁
  return (⟨baseUrl, logFilter⟩, ← listEnd r₂)

/-! ## The object -/

/-- What stands behind an item of an object: another key, whose quote is read, or the end. -/
inductive Follow where
  | key (rest : List Char)
  | done (rest : List Char)
  deriving DecidableEq, Repr

/-- What stands behind the opening bracket. -/
def firstKey (cs : List Char) : Except Fault Follow :=
  match skipBlanks cs with
  | [] => .error (.on .endInObject [])
  | c :: rest =>
    if c = '\x7d' then .ok (.done rest)
    else if c = '"' then .ok (.key rest)
    else .error (.on .keyNotString (c :: rest))

/-- What stands behind a value. -/
def nextKey (cs : List Char) : Except Fault Follow :=
  match skipBlanks cs with
  | [] => .error (.on .endInObject [])
  | c :: rest =>
    if c = '\x7d' then .ok (.done rest)
    else if c = ',' then
      match skipBlanks rest with
      | [] => .error (.on .endInValue [])
      | d :: rest' =>
        if d = '"' then .ok (.key rest')
        else if d = '\x7d' then .error (.on .trailingComma (d :: rest'))
        else .error (.on .keyNotString (d :: rest'))
    else .error (.on .expectedObjectEnd (c :: rest))

/-- The fault of a key that has come up before. It is noticed before the colon; the place is that of
the end of the object, if it is there, else of what stands behind the key. -/
def duplicate (f : Field) (rest : List Char) : Fault :=
  match skipBlanks rest with
  | '\x7d' :: rest' => .before (.duplicateField f.key) rest'
  | rest' => .before (.duplicateField f.key) rest'

/-- A key, whose quote is read, and its value. -/
def member (d : Draft) (cs : List Char) : Except Fault (Draft × List Char) := do
  let (key, rest) ← string cs
  match Field.ofKey? key with
  | none => return (d, ← skipValue (← colon rest))
  | some f =>
    match d.get f with
    | some _ => .error (duplicate f rest)
    | none =>
      let (value, rest') ← optionalText (← colon rest)
      return (d.set value f, rest')

theorem optionalText_length {cs rest : List Char} {t : Option String}
    (h : optionalText cs = .ok (t, rest)) : rest.length < cs.length := by
  unfold optionalText at h
  split at h
  · simp at h
  · next c r hb =>
    have := rest_length_lt hb
    split at h
    · cases hw : word ['u', 'l', 'l'] r with
      | error e => simp [hw, Except.map] at h
      | ok r' =>
        have := word_length _ _ hw
        simp only [hw, Except.map, Except.ok.injEq, Prod.mk.injEq] at h
        rw [← h.2]
        omega
    · split at h
      · cases hs : string r with
        | error e => simp [hs, Except.map] at h
        | ok r' =>
          have := string_length (show string r = .ok (r'.1, r'.2) from hs)
          simp only [hs, Except.map, Except.ok.injEq, Prod.mk.injEq] at h
          rw [← h.2]
          omega
      · simp at h

theorem member_length {d d' : Draft} {cs rest : List Char} (h : member d cs = .ok (d', rest)) :
    rest.length < cs.length := by
  simp only [member, bind, Except.bind] at h
  split at h
  · simp at h
  · next r hs =>
    have := string_length (show string cs = .ok (r.1, r.2) from hs)
    split at h
    · split at h
      · simp at h
      · next hc =>
        have := colon_length hc
        split at h
        · simp at h
        · next hv =>
          have := skipFrom_length _ _ _ hv
          simp only [pure, Except.pure, Except.ok.injEq, Prod.mk.injEq] at h
          rw [← h.2]
          omega
    · split at h
      · simp at h
      · split at h
        · simp at h
        · next hc =>
          have := colon_length hc
          split at h
          · simp at h
          · next v hv =>
            have := optionalText_length (show optionalText _ = .ok (v.1, v.2) from hv)
            simp only [pure, Except.pure, Except.ok.injEq, Prod.mk.injEq] at h
            rw [← h.2]
            omega

theorem nextKey_length {cs rest : List Char} (h : nextKey cs = .ok (.key rest)) :
    rest.length < cs.length := by
  unfold nextKey at h
  split at h
  · simp at h
  · next hb =>
    have := rest_length_lt hb
    split at h
    · simp at h
    · split at h
      · split at h
        · simp at h
        · next hb' =>
          have := rest_length_lt hb'
          split at h
          · simp only [Except.ok.injEq, Follow.key.injEq] at h
            rw [← h]
            omega
          · split at h <;> simp at h
      · simp at h

/-- The members of an object from a key on, whose quote is read. -/
def members (d : Draft) (cs : List Char) : Except Fault (Draft × List Char) :=
  match _h : member d cs with
  | .error e => .error e
  | .ok (d', rest) =>
    match _hn : nextKey rest with
    | .error e => .error e
    | .ok (.done rest') => .ok (d', rest')
    | .ok (.key rest') => members d' rest'
termination_by cs.length
decreasing_by
  have := member_length _h
  have := nextKey_length _hn
  omega

/-- The fields by key, the opening bracket being read. -/
def object (cs : List Char) : Except Fault (Draft × List Char) := do
  match ← firstKey cs with
  | .done rest => return (.empty, rest)
  | .key rest => members .empty rest

/-- The configuration that a text spells. -/
def read (text : List Char) : Except Fault Config :=
  match skipBlanks text with
  | [] => .error (.on .endInValue [])
  | c :: rest => do
    let (d, rest') ←
      if c = '[' then list rest
      else if c = '\x7b' then object rest
      else .error (wrongType "struct LoaderConfig" c rest)
    match skipBlanks rest' with
    | [] => return d.finish
    | r => .error (.on .trailingCharacters r)

/-- The configuration that a text spells, or what is wrong with it and where. -/
def ofText (text : String) : Except ConfigError Config :=
  match read text.toList with
  | .ok c => .ok c
  | .error f => .error (.malformed f.cause (.find text.toList f.behind))

/-- The configuration that the file named spells. -/
def ofFile (files : Files) (name : String) : Except ConfigError Config :=
  match files.readText name with
  | .error e => .error (.unreadable name e)
  | .ok text =>
    match read text.toList with
    | .ok c => .ok c
    | .error f => .error (.malformedFile name f.cause (.find text.toList f.behind))

end FragmentFeed.Config
