import FragmentFeed.Proofs.Text.Characters
import FragmentFeed.Proofs.Url.Rooted

/-!
# The form of URLs with a special scheme

Whatever text a URL of a special scheme was read from, its parts are encoded, there are no dots and no slashes
of either kind in its segments, and an empty password or the port of its scheme is left out
(`parse_yields_isCanonical`). What reading and joining keep is said of each part once; a reference brings parts
of its own or takes those of its base.
-/

namespace FragmentFeed

open Text

/-! ## Segments -/

namespace Segments

variable {path segments : List (List Char)} {s : List Char}

/-- Whether nothing in a segment would be read as its end or would be encoded. -/
def IsWritten (s : List Char) : Prop :=
  ∀ c ∈ s, Url.isSlash c = false ∧ Percent.pathSet c = false

theorem isWritten_nil : IsWritten [] := List.forall_mem_nil _

theorem mem_of_mem_up (h : s ∈ up path) : s ∈ path := by
  cases path with
  | nil => exact h
  | cons t path =>
    rw [up] at h
    split at h
    · exact h
    · exact List.mem_cons_of_mem t h

/-- Walking brings nothing new but empty segments. -/
theorem mem_walk (h : s ∈ walk false path segments) : s = [] ∨ s ∈ path ∨ s ∈ segments := by
  fun_induction walk false path segments with
  | case1 path => exact Or.inr (Or.inl h)
  | case2 path t hdots =>
    rcases List.mem_cons.mp h with rfl | h
    · exact Or.inl rfl
    · exact Or.inr (Or.inl (mem_of_mem_up h))
  | case3 path t hdots hdot =>
    rcases List.mem_cons.mp h with rfl | h
    · exact Or.inl rfl
    · exact Or.inr (Or.inl h)
  | case4 path t hdots hdot =>
    rw [kept_false] at h
    rcases List.mem_cons.mp h with rfl | h
    · exact Or.inr (Or.inr (by simp))
    · exact Or.inr (Or.inl h)
  | case5 path t rest hrest hdots ih =>
    rcases ih h with hnil | hpath | hmem
    · exact Or.inl hnil
    · exact Or.inr (Or.inl (mem_of_mem_up hpath))
    · exact Or.inr (Or.inr (List.mem_cons_of_mem t hmem))
  | case6 path t rest hrest hdots hdot ih =>
    rcases ih h with hnil | hpath | hmem
    · exact Or.inl hnil
    · exact Or.inr (Or.inl hpath)
    · exact Or.inr (Or.inr (List.mem_cons_of_mem t hmem))
  | case7 path t rest hrest hdots hdot ih =>
    rw [kept_false] at ih h
    rcases ih h with hnil | hpath | hmem
    · exact Or.inl hnil
    · rcases List.mem_cons.mp hpath with rfl | hpath
      · exact Or.inr (Or.inr (by simp))
      · exact Or.inr (Or.inl hpath)
    · exact Or.inr (Or.inr (List.mem_cons_of_mem t hmem))

/-- The pieces of a text have no slashes, and encoding brings none. -/
theorem isWritten_of_mem_split {text : List Char} :
    ∀ s ∈ (split true text).map (Percent.encode Percent.pathSet), IsWritten s := by
  intro s hs c hc
  obtain ⟨piece, hpiece, rfl⟩ := List.mem_map.mp hs
  have hdigit : ∀ d ∈ List.range 16, Url.isSlash (Digit.upper d) = false := by decide
  refine ⟨?_, Percent.isEncoded_encode (by decide) piece c hc⟩
  rcases Percent.mem_encode hc with ⟨hmem, -⟩ | rfl | ⟨d, hd, rfl⟩
  · exact (not_isSeparator_of_mem_pieces hpiece c hmem).2
  · decide
  · exact hdigit d hd

/-- What a text leads to from written segments is written. -/
theorem isWritten_resolve (hpath : ∀ s ∈ path, IsWritten s) (text : List Char) :
    ∀ s ∈ resolve .special path text, IsWritten s := by
  intro s hs
  have hwalk : s ∈ walk false path ((split true text).map (Percent.encode Percent.pathSet)) :=
    List.mem_reverse.mp hs
  rcases mem_walk hwalk with rfl | hmem | hmem
  · exact isWritten_nil
  · exact hpath s hmem
  · exact isWritten_of_mem_split s hmem

end Segments

/-! ## Parts of a URL -/

/-- Whether a path consists of written steps, of which there is one at least. -/
def Path.IsCanonical (path : Path) : Prop :=
  ∃ segments, path = .segments segments ∧ segments ≠ [] ∧ ∀ s ∈ segments, Segments.IsStep s ∧ Segments.IsWritten s

theorem Path.IsCanonical.isVisible {path : Path} (h : path.IsCanonical) :
    ∀ c ∈ path.toText, IsVisible c ∧ c ≠ '#' := by
  obtain ⟨segments, rfl, -, hsteps⟩ := h
  intro c hc
  obtain ⟨s, hs, hc⟩ := List.mem_flatMap.mp hc
  rcases List.mem_cons.mp hc with rfl | hc
  · decide
  · obtain ⟨hvisible, -, hhash⟩ := Percent.of_pathSet ((hsteps s hs).2 c hc).2
    exact ⟨hvisible, hhash⟩

/-- Whether the parts of an authority are as they are read: user name and password encoded, the password not
empty, a host that some text spells, and a port that is not that of the scheme. -/
structure Authority.IsCanonical (scheme : List Char) (a : Authority) : Prop where
  username : Percent.IsEncoded Percent.userInfoSet a.username
  password : ∀ p, a.password = some p → p ≠ [] ∧ Percent.IsEncoded Percent.userInfoSet p
  host : ∃ h text, a.host = some h ∧ Host.parse text = .ok h
  port : ∀ p, a.port = some p → p < 0x10000 ∧ some p ≠ defaultPort scheme

namespace Url

open Segments

variable {u b : Url} {scheme : List Char} {a : Authority}

theorem readUserInfo_isEncoded (text : List Char) :
    Percent.IsEncoded Percent.userInfoSet (readUserInfo text).1 ∧
      ∀ p, (readUserInfo text).2 = some p → p ≠ [] ∧ Percent.IsEncoded Percent.userInfoSet p := by
  have hencoded (cs : List Char) :
      Percent.IsEncoded Percent.userInfoSet (Percent.encode Percent.userInfoSet cs) :=
    Percent.isEncoded_encode (by decide) cs
  unfold readUserInfo
  dsimp only
  split
  · rename_i colon c rest hdrop
    refine ⟨hencoded _, ?_⟩
    rintro p ⟨⟩
    exact ⟨Percent.encode_ne_nil (List.cons_ne_nil c rest), hencoded _⟩
  · exact ⟨hencoded _, nofun⟩

theorem readHost_yields (text : List Char) :
    Yields (readHost .special text) fun host => ∃ h text, host = some h ∧ Host.parse text = .ok h := by
  unfold readHost
  by_cases hempty : text.isEmpty = true
  · rw [if_pos hempty]
    exact .error
  · rw [if_neg hempty]
    show Yields ((Host.parse text).map some) _
    cases hparse : Host.parse text with
    | error e => exact .error
    | ok h => exact .ok ⟨h, text, rfl, hparse⟩

theorem readPort_yields {n : Option Nat} (hn : ∀ p, n = some p → p < 0x10000) (input : List Char) :
    Yields (readPort n input) fun r => ∀ p, r.1 = some p → p < 0x10000 := by
  induction input generalizing n with
  | nil => exact .ok hn
  | cons c rest ih =>
    unfold readPort
    split
    · dsimp only
      split
      · rename_i hlt
        refine ih ?_
        rintro p ⟨⟩
        exact hlt
      · exact .error
    · split
      · exact .ok hn
      · exact .error

theorem readAuthority_yields_isCanonical (hscheme : SchemeKind.of scheme = .special) (input : List Char) :
    Yields (readAuthority scheme input) fun p => p.1.IsCanonical scheme := by
  have hend (c : Prop) [Decidable c] (text : List Char) (host : Option Host) (port : Option Nat)
      (rest : List Char) (hhost : ∃ h text, host = some h ∧ Host.parse text = .ok h)
      (hport : ∀ p, port = some p → p < 0x10000) :
      Yields (if c then .error .emptyHost else
        .ok (({ username := (readUserInfo text).1, password := (readUserInfo text).2, host,
                port := if port = defaultPort scheme then none else port } : Authority), rest))
        fun p => p.1.IsCanonical scheme := by
    split
    · exact .error
    · refine .ok ⟨(readUserInfo_isEncoded text).1, (readUserInfo_isEncoded text).2, hhost, ?_⟩
      intro p hp
      dsimp only at hp
      split at hp
      · cases hp
      · rename_i hdefault
        exact ⟨hport p hp, hp ▸ hdefault⟩
  have hnone : ∀ p, (none : Option Nat) = some p → p < 0x10000 := nofun
  unfold readAuthority
  dsimp only
  rw [hscheme]
  refine .bind (readHost_yields _) fun host hhost => ?_
  split
  · exact .error
  · split
    · exact .bind (readPort_yields hnone _) fun r hr => hend _ _ _ _ _ hhost hr
    · exact hend _ _ _ _ _ hhost hnone

/-! ## URLs -/

/-- Whether the parts of a URL with a special scheme are as they are read. -/
structure IsCanonical (u : Url) : Prop where
  special : u.kind = .special
  authority : ∃ a, u.authority = some a ∧ a.IsCanonical u.scheme
  path : u.path.IsCanonical
  query : ∀ q, u.query = some q → Percent.IsEncoded Percent.specialQuerySet q
  fragment : ∀ f, u.fragment = some f → Percent.IsEncoded Percent.fragmentSet f

/-! ## Characters -/

theorem isVisible_scheme (hscheme : SchemeKind.of scheme = .special) : ∀ c ∈ scheme, IsVisible c ∧ c ≠ '#' := by
  have hspecial : (SchemeKind.of scheme).isSpecial = true := by
    rw [hscheme]
    rfl
  intro c hc
  have hletter := isAlpha_iff.mp ((isAlpha_of_isSpecial hspecial).2 c hc)
  refine ⟨⟨by omega, by omega⟩, ?_⟩
  rintro rfl
  exact absurd hletter (by decide)

theorem isVisible_queryText (h : ∀ q, u.query = some q → Percent.IsEncoded Percent.specialQuerySet q) :
    ∀ c ∈ u.queryText, IsVisible c ∧ c ≠ '#' := by
  unfold queryText
  cases hq : u.query with
  | none => exact List.forall_mem_nil _
  | some q =>
    have hmark : IsVisible '?' ∧ '?' ≠ '#' := by decide
    exact List.forall_mem_cons.mpr ⟨hmark, fun c hc => Percent.of_specialQuerySet (h q hq c hc)⟩

theorem isVisible_fragmentText (h : ∀ f, u.fragment = some f → Percent.IsEncoded Percent.fragmentSet f) :
    ∀ c ∈ u.fragmentText, IsVisible c := by
  unfold fragmentText
  cases hf : u.fragment with
  | none => exact List.forall_mem_nil _
  | some f =>
    have hmark : IsVisible '#' := by decide
    exact List.forall_mem_cons.mpr ⟨hmark, fun c hc => Percent.isVisible_of_fragmentSet (h f hf c hc)⟩

namespace IsCanonical

/-- Every part has its own way of coming from a base. -/
theorem congr {v : Url} (h : b.IsCanonical) (hscheme : v.scheme = b.scheme) (hauthority : v.authority = b.authority)
    (hpath : v.path.IsCanonical) (hquery : ∀ q, v.query = some q → Percent.IsEncoded Percent.specialQuerySet q)
    (hfragment : ∀ f, v.fragment = some f → Percent.IsEncoded Percent.fragmentSet f) : v.IsCanonical where
  special := by
    rw [kind, hscheme]
    exact h.special
  authority := by
    rw [hauthority, hscheme]
    exact h.authority
  path := hpath
  query := hquery
  fragment := hfragment

theorem withoutFragment (h : u.IsCanonical) : u.withoutFragment.IsCanonical :=
  h.congr rfl rfl h.path h.query nofun

theorem withFragment (h : u.IsCanonical) (text : List Char) :
    IsCanonical { u with fragment := some (encodeFragment text) } := by
  refine h.congr rfl rfl h.path h.query ?_
  rintro f ⟨⟩
  exact Percent.isEncoded_encode (by decide) text

theorem withoutUserInfo (h : u.IsCanonical) : u.withoutUserInfo.IsCanonical := by
  obtain ⟨a, ha, hcanonical⟩ := h.authority
  refine ⟨h.special, ⟨{ a with username := [], password := none }, ?_, ?_⟩, h.path, h.query, h.fragment⟩
  · show u.authority.map _ = _
    rw [ha]
    rfl
  · exact ⟨List.forall_mem_nil _, nofun, hcanonical.host, hcanonical.port⟩

end IsCanonical

/-- What stands behind a path is encoded. -/
theorem withTail_isEncoded (hkind : u.kind = .special) (rest : List Char) :
    (∀ q, (u.withTail rest).query = some q → Percent.IsEncoded Percent.specialQuerySet q) ∧
      ∀ f, (u.withTail rest).fragment = some f → Percent.IsEncoded Percent.fragmentSet f := by
  have hquery (text : List Char) :
      Percent.IsEncoded Percent.specialQuerySet (encodeQuery u.kind text) := by
    rw [hkind]
    exact Percent.isEncoded_encode (by decide) text
  have hfragment (text : List Char) : Percent.IsEncoded Percent.fragmentSet (encodeFragment text) :=
    Percent.isEncoded_encode (by decide) text
  unfold withTail
  split
  · rename_i r
    refine ⟨?_, fun f hf => ?_⟩
    · rintro q ⟨⟩
      exact hquery _
    · dsimp only at hf
      split at hf
      · cases hf
        exact hfragment _
      · cases hf
  · refine ⟨nofun, ?_⟩
    rintro f ⟨⟩
    exact hfragment _
  · exact ⟨nofun, nofun⟩

/-- Query and fragment are read anew, so nothing is asked of those before. -/
theorem isCanonical_withTail (hkind : u.kind = .special)
    (hauthority : ∃ a, u.authority = some a ∧ a.IsCanonical u.scheme) (hpath : u.path.IsCanonical)
    (rest : List Char) : (u.withTail rest).IsCanonical := by
  obtain ⟨hquery, hfragment⟩ := withTail_isEncoded hkind rest
  refine ⟨?_, ?_, ?_, hquery, hfragment⟩
  · rw [kind, withTail_scheme]
    exact hkind
  · rw [withTail_authority, withTail_scheme]
    exact hauthority
  · rw [withTail_path]
    exact hpath

/-- And so is the path, behind the steps that are kept. -/
theorem isCanonical_withWalk (hkind : u.kind = .special)
    (hauthority : ∃ a, u.authority = some a ∧ a.IsCanonical u.scheme) {path : List (List Char)}
    (hpath : ∀ s ∈ path, IsStep s ∧ IsWritten s) (input : List Char) : (u.withWalk path input).IsCanonical := by
  let text := input.takeWhile (!endsPath ·)
  let v : Url := { u with path := .segments (resolve u.kind path text) }
  have hv : v.path.IsCanonical := by
    refine ⟨resolve u.kind path text, rfl, ?_⟩
    rw [hkind]
    obtain ⟨hne, hsteps⟩ : resolve .special path text ≠ [] ∧ ∀ s ∈ resolve .special path text, IsStep s :=
      resolve_special fun s hs => (hpath s hs).1
    have hwritten := isWritten_resolve (fun s hs => (hpath s hs).2) text
    exact ⟨hne, fun s hs => ⟨hsteps s hs, hwritten s hs⟩⟩
  exact isCanonical_withTail (u := v) hkind hauthority hv _

theorem isCanonical_withPathStart (hkind : u.kind = .special)
    (hauthority : ∃ a, u.authority = some a ∧ a.IsCanonical u.scheme) (input : List Char) :
    (u.withPathStart input).IsCanonical := by
  obtain ⟨rest, hrest⟩ := exists_withPathStart_eq_withWalk hkind input
  rw [hrest]
  exact isCanonical_withWalk hkind hauthority (List.forall_mem_nil _) rest

/-! ## Reading -/

theorem afterSlashes_yields_isCanonical (hscheme : SchemeKind.of scheme = .special) (input : List Char) :
    Yields (afterSlashes scheme input) IsCanonical := by
  unfold afterSlashes
  dsimp only
  split
  · exact .error
  · refine .bind (readAuthority_yields_isCanonical hscheme input) fun p hp => .ok ?_
    apply isCanonical_withPathStart
    · exact hscheme
    · exact ⟨p.1, rfl, hp⟩

theorem parseRelative_yields_isCanonical (hb : b.IsCanonical) (input : List Char) :
    Yields (parseRelative b input) IsCanonical := by
  obtain ⟨segments, hpath, -, hsteps⟩ := hb.path
  have hwalk {path : List (List Char)} (hmem : ∀ s ∈ path, IsStep s ∧ IsWritten s) (rest : List Char) :
      (b.withWalk path rest).IsCanonical := isCanonical_withWalk hb.special hb.authority hmem rest
  have hslashes (rest : List Char) : Yields (afterSlashes b.scheme rest) IsCanonical :=
    afterSlashes_yields_isCanonical hb.special rest
  unfold parseRelative
  split
  · exact .ok hb.withoutFragment
  · split
    · exact .ok (isCanonical_withTail hb.special hb.authority hb.path _)
    · split
      · exact .ok (hb.withFragment _)
      · split
        · split
          · split
            · split
              · exact hslashes _
              · exact hslashes _
            · exact .ok (hwalk (List.forall_mem_nil _) _)
          · exact .ok (hwalk (List.forall_mem_nil _) _)
        · refine .ok (hwalk (fun s hs => hsteps s ?_) _)
          have hmem : s ∈ b.pathSegments := List.mem_reverse.mp (List.mem_of_mem_drop hs)
          rwa [pathSegments, hpath] at hmem

theorem parseRelative_yields_scheme (b : Url) (input : List Char) :
    Yields (parseRelative b input) fun u => u.scheme = b.scheme := by
  have hslashes (rest : List Char) : Yields (afterSlashes b.scheme rest) fun u => u.scheme = b.scheme :=
    fun u hu => (afterSlashes_yields_isRooted _ _ u hu).1
  unfold parseRelative
  split
  · exact .ok rfl
  · split
    · exact .ok (withTail_scheme _ _)
    · split
      · exact .ok rfl
      · split
        · split
          · split
            · split
              · exact hslashes _
              · exact hslashes _
            · exact .ok (withWalk_scheme _ _ _)
          · exact .ok (withWalk_scheme _ _ _)
        · exact .ok (withWalk_scheme _ _ _)

/-- Only its own name is that of the `file` scheme. -/
theorem scheme_eq_of_file (h : SchemeKind.of scheme = .file) : scheme = "file".toList := by
  unfold SchemeKind.of at h
  split at h
  · rename_i hfile
    exact hfile
  · split at h
    · cases h
    · cases h

theorem parseScheme_yields_isCanonical {base : Option Url}
    (hbase : ∀ b, base = some b → b.kind = .special → b.IsCanonical) (scheme input : List Char) :
    Yields (parseScheme base scheme input) fun u => u.kind = .special → u.IsCanonical := by
  have hfilter (b : Url) (hb : base.filter (·.scheme = scheme) = some b) : base = some b ∧ b.scheme = scheme := by
    simpa [Option.filter_eq_some_iff] using hb
  unfold parseScheme
  split
  · rename_i hkind
    have hfile : scheme = "file".toList := scheme_eq_of_file hkind
    intro u hu hspecial
    have hscheme := parseFile_yields_scheme (fun b hb => (hfilter b hb).2.trans hfile) _ u hu
    rw [kind, hscheme] at hspecial
    cases hspecial
  · rename_i hkind
    split
    · rename_i b hb
      obtain ⟨hsome, rfl⟩ := hfilter b hb
      split
      · exact fun u hu _ => parseRelative_yields_isCanonical (hbase b hsome hkind) _ u hu
      · exact fun u hu _ => afterSlashes_yields_isCanonical hkind _ u hu
    · exact fun u hu _ => afterSlashes_yields_isCanonical hkind _ u hu
  · rename_i hkind
    intro u hu hspecial
    rw [kind, parseOther_yields_scheme _ _ u hu, hkind] at hspecial
    cases hspecial

theorem parseReference_yields_isCanonical (hb : b.kind = .special → b.IsCanonical) (input : List Char) :
    Yields (parseReference (some b) input) fun u => u.kind = .special → u.IsCanonical := by
  unfold parseReference
  dsimp only
  split
  · exact .ok fun hkind => (hb hkind).withFragment _
  · exact .error
  · split
    · rename_i hkind
      have hfile : b.scheme = "file".toList := scheme_eq_of_file hkind
      intro u hu hspecial
      have hscheme := parseFile_yields_scheme (by rintro b' ⟨⟩; exact hfile) _ u hu
      rw [kind, hscheme] at hspecial
      cases hspecial
    · intro u hu hspecial
      have hscheme := parseRelative_yields_scheme b _ u hu
      have hkind : b.kind = .special := by rwa [kind, hscheme] at hspecial
      exact parseRelative_yields_isCanonical (hb hkind) _ u hu

/-- **However a URL with a special scheme is read, its parts are in their form**, if those of the base are. -/
theorem parse_yields_isCanonical {base : Option Url}
    (hbase : ∀ b, base = some b → b.kind = .special → b.IsCanonical) (text : List Char) :
    Yields (parse base text) fun u => u.kind = .special → u.IsCanonical := by
  unfold parse
  dsimp only
  split
  · exact parseScheme_yields_isCanonical hbase _ _
  · cases base with
    | none => exact .error
    | some b => exact parseReference_yields_isCanonical (hbase b rfl) _

end Url

end FragmentFeed
