import FragmentFeed.Proofs.Url.Canonical
import FragmentFeed.Proofs.Url.Host

/-!
# URLs there and back

A URL of a special scheme whose parts are in their form is read as it is written (`parse_toText`). Each part is
found where it has been put, because what delimits it is encoded within it, and is kept because there is nothing
left in it to encode.
-/

namespace FragmentFeed

open Text

/-! ## Segments -/

namespace Segments

variable {path segments : List (List Char)} {s : List Char}

/-- Steps are all taken. -/
theorem walk_of_isStep (h : ∀ s ∈ segments, IsStep s) : walk false path segments = segments.reverse ++ path := by
  induction segments generalizing path with
  | nil => rfl
  | cons s segments ih =>
    obtain ⟨hs, hsegments⟩ := List.forall_mem_cons.mp h
    cases segments with
    | nil =>
      rw [walk, if_neg (Bool.eq_false_iff.mp hs.notDotDot), if_neg (Bool.eq_false_iff.mp hs.notDot), kept_false]
      rfl
    | cons t segments =>
      rw [walk, if_neg (Bool.eq_false_iff.mp hs.notDotDot), if_neg (Bool.eq_false_iff.mp hs.notDot), kept_false,
        ih hsegments, List.reverse_cons (a := s), List.append_assoc, List.singleton_append]
      exact List.cons_ne_nil t segments

/-- Segments that are as they are read are what their text leads to. -/
theorem resolve_flatMap (h : ∀ t ∈ s :: segments, IsStep t ∧ IsWritten t) :
    resolve .special [] (s ++ segments.flatMap ('/' :: ·)) = s :: segments := by
  have hslash (t : List Char) (ht : t ∈ s :: segments) :
      ∀ c ∈ t, (decide (c = '/') || true && decide (c = '\\')) = false := fun c hc => ((h t ht).2 c hc).1
  have hsplit : split true (s ++ segments.flatMap ('/' :: ·)) = s :: segments :=
    pieces_append_flatMap (by decide) (hslash s List.mem_cons_self) fun t ht => hslash t (List.mem_cons_of_mem s ht)
  have hencode : (s :: segments).map (Percent.encode Percent.pathSet) = s :: segments := by
    have hself : ∀ t ∈ s :: segments, Percent.encode Percent.pathSet t = id t := fun t ht =>
      Percent.encode_eq_self fun c hc => ((h t ht).2 c hc).2
    rw [List.map_congr_left hself, List.map_id]
  show (walk false []
    ((split true (s ++ segments.flatMap ('/' :: ·))).map (Percent.encode Percent.pathSet))).reverse = _
  rw [hsplit, hencode, walk_of_isStep fun t ht => (h t ht).1, List.append_nil, List.reverse_reverse]

end Segments

namespace Url

open Segments

variable {u v : Url} {a : Authority} {scheme cs ds rest : List Char} {c : Char} {n acc : Nat}

/-! ## Cleaning and scheme -/

/-- All that is visible counts. -/
theorem clean_eq_self (h : ∀ c ∈ cs, IsVisible c) : clean cs = cs := by
  have hblank : ∀ c ∈ cs, isBlank c = false := fun c hc => decide_eq_false (Nat.not_le.mpr (h c hc).1)
  unfold clean
  rw [trim_of_no_blanks hblank, List.filter_eq_self]
  intro c hc
  have hvisible := h c hc
  rw [Bool.not_eq_true', isLineSpace, Bool.or_eq_false_iff, Bool.or_eq_false_iff, decide_eq_false_iff_not,
    decide_eq_false_iff_not, decide_eq_false_iff_not]
  refine ⟨⟨?_, ?_⟩, ?_⟩
  · rintro rfl
    exact absurd hvisible (by decide)
  · rintro rfl
    exact absurd hvisible (by decide)
  · rintro rfl
    exact absurd hvisible (by decide)

/-- The special schemes are in lower case. -/
theorem map_toLower_of_special (h : SchemeKind.of scheme = .special) : scheme.map Char.toLower = scheme := by
  unfold SchemeKind.of at h
  split at h
  · cases h
  · split at h
    · rename_i hspecial
      rcases hspecial with rfl | rfl | rfl | rfl | rfl <;> decide
    · cases h

/-! ## Query and fragment -/

theorem fragmentText_cases (u : Url) :
    u.fragment = none ∧ u.fragmentText = [] ∨ ∃ f, u.fragment = some f ∧ u.fragmentText = '#' :: f := by
  unfold fragmentText
  cases u.fragment with
  | none => exact Or.inl ⟨rfl, rfl⟩
  | some f => exact Or.inr ⟨f, rfl, rfl⟩

theorem queryText_cases (u : Url) :
    u.query = none ∧ u.queryText = [] ∨ ∃ q, u.query = some q ∧ u.queryText = '?' :: q := by
  unfold queryText
  cases u.query with
  | none => exact Or.inl ⟨rfl, rfl⟩
  | some q => exact Or.inr ⟨q, rfl, rfl⟩

theorem eq_hash_of_head? (hc : u.fragmentText.head? = some c) : c = '#' := by
  rcases fragmentText_cases u with ⟨-, htext⟩ | ⟨f, -, htext⟩
  · rw [htext] at hc
    cases hc
  · rw [htext] at hc
    exact (Option.some.inj hc).symm

/-- What follows a path ends it. -/
theorem endsPath_of_head? (hc : (u.queryText ++ u.fragmentText).head? = some c) : endsPath c = true := by
  rcases queryText_cases u with ⟨-, htext⟩ | ⟨q, -, htext⟩
  · rw [htext, List.nil_append] at hc
    rw [eq_hash_of_head? hc]
    rfl
  · rw [htext] at hc
    cases hc
    rfl

/-- Query and fragment are found behind whatever they have been put. -/
theorem withTail_eq (hkind : v.kind = .special)
    (hquery : ∀ q, u.query = some q → Percent.IsEncoded Percent.specialQuerySet q)
    (hfragment : ∀ f, u.fragment = some f → Percent.IsEncoded Percent.fragmentSet f) :
    v.withTail (u.queryText ++ u.fragmentText) = { v with query := u.query, fragment := u.fragment } := by
  have hencode {f : List Char} (hf : u.fragment = some f) : encodeFragment f = f :=
    Percent.encode_eq_self (hfragment f hf)
  rcases queryText_cases u with ⟨hq, htext⟩ | ⟨q, hq, htext⟩
  · rw [htext, hq, List.nil_append]
    rcases fragmentText_cases u with ⟨hf, htext⟩ | ⟨f, hf, htext⟩
    · rw [htext, hf]
      rfl
    · rw [htext, hf, withTail, hencode hf]
  · have hencodeQuery : encodeQuery v.kind q = q := by
      rw [hkind]
      exact Percent.encode_eq_self (hquery q hq)
    have hmore : ∀ c ∈ q, (c != '#') = true := fun c hc => by
      simpa using (Percent.of_specialQuerySet (hquery q hq c hc)).2
    have hend : ∀ c, u.fragmentText.head? = some c → (c != '#') = false := fun c hc => by
      rw [eq_hash_of_head? hc]
      rfl
    rw [htext, hq, List.cons_append, withTail, takeWhile_append_of_head? hmore hend,
      dropWhile_append_of_head? hmore hend, hencodeQuery]
    rcases fragmentText_cases u with ⟨hf, htext⟩ | ⟨f, hf, htext⟩
    · rw [htext, hf]
    · rw [htext, hf]
      dsimp only
      rw [hencode hf]

/-! ## Path -/

/-- The path is found in front of them. -/
theorem withWalk_eq (hkind : v.kind = .special) (hu : u.IsCanonical) {s : List Char} {segments : List (List Char)}
    (hpath : u.path = .segments (s :: segments)) :
    v.withWalk [] (s ++ segments.flatMap ('/' :: ·) ++ (u.queryText ++ u.fragmentText))
      = { v with path := u.path, query := u.query, fragment := u.fragment } := by
  obtain ⟨list, hlist, -, hsteps⟩ := hu.path
  obtain rfl : s :: segments = list := Path.segments.inj (hpath.symm.trans hlist)
  have hmem {t : List Char} (ht : t ∈ s :: segments) : ∀ c ∈ t, (!endsPath c) = true := by
    intro c hc
    obtain ⟨-, hmark, hhash⟩ := Percent.of_pathSet ((hsteps t ht).2 c hc).2
    simp [endsPath, hmark, hhash]
  have hmore : ∀ c ∈ s ++ segments.flatMap ('/' :: ·), (!endsPath c) = true := by
    intro c hc
    rcases List.mem_append.mp hc with hc | hc
    · exact hmem List.mem_cons_self c hc
    · obtain ⟨t, ht, hc⟩ := List.mem_flatMap.mp hc
      rcases List.mem_cons.mp hc with rfl | hc
      · rfl
      · exact hmem (List.mem_cons_of_mem s ht) c hc
  have hend : ∀ c, (u.queryText ++ u.fragmentText).head? = some c → (!endsPath c) = false := fun c hc => by
    rw [endsPath_of_head? hc]
    rfl
  rw [withWalk, takeWhile_append_of_head? hmore hend, dropWhile_append_of_head? hmore hend, hkind,
    resolve_flatMap hsteps, ← hpath]
  exact withTail_eq hkind hu.query hu.fragment

/-! ## User information -/

theorem isEncoded_userInfoSet (h : Percent.IsEncoded Percent.userInfoSet cs) (hc : c ∈ cs) :
    IsInner c ∧ c ≠ ':' := by
  have hset := h c hc
  have hvisible : IsVisible c := by
    simp only [Percent.userInfoSet, Bool.or_eq_false_iff] at hset
    obtain ⟨⟨⟨⟨⟨⟨⟨⟨⟨⟨hpath, -⟩, -⟩, -⟩, -⟩, -⟩, -⟩, -⟩, -⟩, -⟩, -⟩ := hset
    exact (Percent.of_pathSet hpath).1
  exact of_ascii (P := fun c => Percent.userInfoSet c = false → IsInner c ∧ c ≠ ':') (by decide +kernel)
    (Nat.lt_of_le_of_lt hvisible.2 (by decide)) hset

/-- User information is read as it is written, up to the `@` behind it. -/
theorem exists_userInfo (h : a.IsCanonical scheme) :
    a.userInfo = [] ∧ readUserInfo [] = (a.username, a.password) ∨
      ∃ text, a.userInfo = text ++ ['@'] ∧ text ≠ [] ∧ (∀ c ∈ text, IsInner c) ∧
        readUserInfo text = (a.username, a.password) := by
  have hname : ∀ c ∈ a.username, (c != ':') = true := fun c hc => by
    simpa using (isEncoded_userInfoSet h.username hc).2
  have hencode : Percent.encode Percent.userInfoSet a.username = a.username := Percent.encode_eq_self h.username
  unfold Authority.userInfo
  cases hp : a.password with
  | none =>
    have hread : readUserInfo a.username = (a.username, none) := by
      have htake := takeWhile_append_of_head? (b := []) hname nofun
      have hdrop := dropWhile_append_of_head? (b := []) hname nofun
      rw [List.append_nil] at htake hdrop
      rw [readUserInfo, htake, hdrop, hencode]
    by_cases hempty : a.username = []
    · refine Or.inl ⟨?_, ?_⟩
      · rw [hempty]
        rfl
      · rwa [hempty] at hread ⊢
    · refine Or.inr ⟨a.username, ?_, hempty, fun c hc => (isEncoded_userInfoSet h.username hc).1, hread⟩
      dsimp only
      rw [if_neg (by simpa using hempty)]
  | some p =>
    obtain ⟨hne, hpassword⟩ := h.password p hp
    obtain ⟨d, ds, rfl⟩ := List.exists_cons_of_ne_nil hne
    have hcolon : ∀ c, (':' :: d :: ds).head? = some c → (c != ':') = false := by
      rintro c ⟨⟩
      rfl
    refine Or.inr ⟨a.username ++ ':' :: d :: ds, rfl, by simp, ?_, ?_⟩
    · intro c hc
      rcases List.mem_append.mp hc with hc | hc
      · exact (isEncoded_userInfoSet h.username hc).1
      · rcases List.mem_cons.mp hc with rfl | hc
        · decide
        · exact (isEncoded_userInfoSet hpassword hc).1
    · rw [readUserInfo, takeWhile_append_of_head? hname hcolon, dropWhile_append_of_head? hname hcolon, hencode]
      dsimp only
      rw [Percent.encode_eq_self hpassword]

/-- An authority ends where the path begins. -/
theorem cut_authority (hcs : ∀ c ∈ cs, endsAuthority .special c = false) (rest : List Char) :
    (cs ++ '/' :: rest).takeWhile (!endsAuthority .special ·) = cs ∧
      (cs ++ '/' :: rest).dropWhile (!endsAuthority .special ·) = '/' :: rest := by
  have hmore : ∀ c ∈ cs, (!endsAuthority .special c) = true := fun c hc => by
    rw [hcs c hc]
    rfl
  have hend : ∀ c, ('/' :: rest).head? = some c → (!endsAuthority .special c) = false := by
    rintro c ⟨⟩
    rfl
  exact ⟨takeWhile_append_of_head? hmore hend, dropWhile_append_of_head? hmore hend⟩

/-- There is no user information without an `@`. -/
theorem splitUserInfo_eq_none (hcs : ∀ c ∈ cs, IsInner c) (rest : List Char) :
    splitUserInfo .special (cs ++ '/' :: rest) = none := by
  obtain ⟨htake, -⟩ := cut_authority (fun c hc => (hcs c hc).notEnd) rest
  have hdrop : cs.reverse.dropWhile (· != '@') = [] := by
    rw [List.dropWhile_eq_nil_iff]
    intro c hc
    simpa using (hcs c (List.mem_reverse.mp hc)).notAt
  unfold splitUserInfo
  dsimp only
  rw [htake, hdrop]

/-- An authority with user information goes on up to the path. -/
theorem goesOn_of_mem (hds : ∀ c ∈ ds, IsInner c) (hcs : ∀ c ∈ cs, IsInner c) :
    ∀ c ∈ ds ++ ['@'] ++ cs, IsVisible c ∧ endsAuthority .special c = false := by
  have hinner {c : Char} (h : IsInner c) : IsVisible c ∧ endsAuthority .special c = false := ⟨h.visible, h.notEnd⟩
  intro c hc
  rcases List.mem_append.mp hc with hc | hc
  · rcases List.mem_append.mp hc with hc | hc
    · exact hinner (hds c hc)
    · obtain rfl := List.mem_singleton.mp hc
      decide
  · exact hinner (hcs c hc)

/-- Behind the last `@` the host begins. -/
theorem splitUserInfo_eq_some (hds : ∀ c ∈ ds, IsInner c) (hcs : ∀ c ∈ cs, IsInner c) (rest : List Char) :
    splitUserInfo .special (ds ++ ['@'] ++ cs ++ '/' :: rest) = some (ds, cs ++ '/' :: rest) := by
  obtain ⟨htake, hdrop⟩ := cut_authority (fun c hc => (goesOn_of_mem hds hcs c hc).2) rest
  have hreverse : (ds ++ ['@'] ++ cs).reverse = cs.reverse ++ '@' :: ds.reverse := by simp
  have hbehind : ∀ c ∈ cs.reverse, (c != '@') = true := fun c hc => by
    simpa using (hcs c (List.mem_reverse.mp hc)).notAt
  have hat : ∀ c, ('@' :: ds.reverse).head? = some c → (c != '@') = false := by
    rintro c ⟨⟩
    rfl
  unfold splitUserInfo
  dsimp only
  rw [htake, hdrop, hreverse, takeWhile_append_of_head? hbehind hat, dropWhile_append_of_head? hbehind hat]
  dsimp only
  rw [List.reverse_reverse, List.reverse_reverse]

/-! ## Host and port -/

/-- The digits of a port, up to the path. -/
theorem readPort_append (hcs : Digit.gather? 10 acc cs = some n) (hn : n < 0x10000) (rest : List Char) :
    readPort (some acc) (cs ++ '/' :: rest) = .ok (some n, '/' :: rest) := by
  induction cs generalizing acc with
  | nil =>
    cases hcs
    rfl
  | cons c cs ih =>
    obtain ⟨d, hc, hcs⟩ := Digit.gather?_cons_eq_some_iff.mp hcs
    obtain ⟨hbase, -, hrange⟩ := Digit.value?_eq_some_iff.mp hc
    have hbounds : 0x30 ≤ c.toNat ∧ c.toNat ≤ 0x39 := by omega
    have hdigit : c.isDigit = true := Char.isDigit_iff_toNat.mpr hbounds
    have hvalue : c.toNat - 0x30 = d := by omega
    have hlt : acc * 10 + d < 0x10000 := Nat.lt_of_le_of_lt (Digit.le_of_gather? hcs (by decide)) hn
    rw [List.cons_append, readPort, if_pos hdigit, Option.getD_some, hvalue]
    dsimp only
    rw [if_pos hlt]
    exact ih hcs

theorem readPort_decimal (hn : n < 0x10000) (rest : List Char) :
    readPort none (Digit.decimal n ++ '/' :: rest) = .ok (some n, '/' :: rest) := by
  have hdigits := readPort_append (Digit.gather?_toDigits (by decide) (by decide) n) hn rest
  obtain ⟨c, cs, hcs⟩ := List.exists_cons_of_ne_nil (Nat.toDigits_ne_nil (n := n) (b := 10))
  have hdigit : c.isDigit = true := by
    refine Digit.isDigit_of_mem_decimal (n := n) ?_
    rw [Digit.decimal, hcs]
    exact List.mem_cons_self
  rw [hcs, List.cons_append] at hdigits
  rw [Digit.decimal, hcs, List.cons_append, ← hdigits, readPort, readPort, if_pos hdigit, if_pos hdigit]
  rfl

/-- What stands behind the host is a colon or the path. -/
theorem hostLength_portText (a : Authority) (rest : List Char) :
    hostLength .special false (a.portText ++ '/' :: rest) = 0 := by
  unfold Authority.portText
  cases a.port with
  | none => rfl
  | some n => rfl

theorem isInner_of_mem_portText (hc : c ∈ a.portText) : IsInner c := by
  unfold Authority.portText at hc
  cases hp : a.port with
  | none =>
    rw [hp] at hc
    cases hc
  | some n =>
    rw [hp] at hc
    rcases List.mem_cons.mp hc with rfl | hc
    · decide
    · exact (isInner_of_isDigit (Digit.isDigit_of_mem_decimal hc)).1

/-! ## Authority -/

/-- Whether the host of an authority is read back. -/
def HasHostBack (a : Authority) : Prop := ∃ host, a.host = some host ∧ host.IsReadBack

theorem isInner_of_mem_hostText (hhost : HasHostBack a) (hc : c ∈ a.hostText ++ a.portText) : IsInner c := by
  obtain ⟨host, hsome, hback⟩ := hhost
  rcases List.mem_append.mp hc with hc | hc
  · rw [Authority.hostText, hsome] at hc
    exact hback.inner c hc
  · exact isInner_of_mem_portText hc

/-- The user information of an authority is found in front of its host. -/
theorem exists_splitUserInfo (ha : a.IsCanonical scheme) (hhost : HasHostBack a) (rest : List Char) :
    ∃ text, readUserInfo text = (a.username, a.password) ∧
      (splitUserInfo .special (a.toText ++ '/' :: rest)).getD ([], a.toText ++ '/' :: rest)
        = (text, a.hostText ++ a.portText ++ '/' :: rest) ∧
      ∀ p, splitUserInfo .special (a.toText ++ '/' :: rest) = some p → p.1 ≠ [] := by
  have hcs : ∀ c ∈ a.hostText ++ a.portText, IsInner c := fun c hc => isInner_of_mem_hostText hhost hc
  unfold Authority.toText
  rw [List.append_assoc a.userInfo]
  rcases exists_userInfo ha with ⟨hnil, hread⟩ | ⟨text, htext, hne, hds, hread⟩
  · refine ⟨[], hread, ?_⟩
    rw [hnil, List.nil_append, splitUserInfo_eq_none hcs]
    exact ⟨rfl, nofun⟩
  · refine ⟨text, hread, ?_⟩
    rw [htext, splitUserInfo_eq_some hds hcs]
    refine ⟨rfl, ?_⟩
    rintro p ⟨⟩
    exact hne

theorem toText_ne_nil (hhost : HasHostBack a) : a.toText ≠ [] := by
  obtain ⟨host, hsome, hback⟩ := hhost
  have hne : a.hostText ≠ [] := by
    rw [Authority.hostText, hsome]
    exact hback.ne_nil
  simp [Authority.toText, hne]

/-- An authority is visible and goes on up to the path. -/
theorem goesOn_toText (ha : a.IsCanonical scheme) (hhost : HasHostBack a) :
    ∀ c ∈ a.toText, IsVisible c ∧ endsAuthority .special c = false := by
  have hcs : ∀ c ∈ a.hostText ++ a.portText, IsInner c := fun c hc => isInner_of_mem_hostText hhost hc
  unfold Authority.toText
  rw [List.append_assoc]
  rcases exists_userInfo ha with ⟨hnil, -⟩ | ⟨text, htext, -, hds, -⟩
  · rw [hnil, List.nil_append]
    exact fun c hc => ⟨(hcs c hc).visible, (hcs c hc).notEnd⟩
  · rw [htext]
    exact goesOn_of_mem hds hcs

/-- **An authority is read as it is written**, up to the path. -/
theorem readAuthority_eq (hscheme : SchemeKind.of scheme = .special) (ha : a.IsCanonical scheme)
    (hhost : HasHostBack a) (rest : List Char) :
    readAuthority scheme (a.toText ++ '/' :: rest) = .ok (a, '/' :: rest) := by
  obtain ⟨text, hread, hsplit, -⟩ := exists_splitUserInfo ha hhost rest
  obtain ⟨host, hsome, hback⟩ := hhost
  have hhostText : a.hostText = host.toText := by
    rw [Authority.hostText, hsome]
    rfl
  have hne : host.toText.isEmpty = false := List.isEmpty_eq_false_iff.mpr hback.ne_nil
  have hlength : hostLength .special false (a.hostText ++ a.portText ++ '/' :: rest) = a.hostText.length := by
    rw [List.append_assoc, hhostText, hback.hostLength, hostLength_portText, Nat.add_zero]
  have hreadHost : readHost .special host.toText = .ok (some host) := by
    rw [readHost, hne, hback.parse]
    rfl
  unfold readAuthority
  dsimp only
  rw [hscheme, hsplit]
  dsimp only
  rw [hread, hlength, List.append_assoc, List.take_left' rfl, List.drop_left' rfl, hhostText, hreadHost]
  cases hport : a.port with
  | none =>
    have hportText : a.portText = [] := by
      rw [Authority.portText, hport]
    rw [hportText]
    show Except.ok (({
      username := a.username, password := a.password, host := some host,
      port := if none = defaultPort scheme then none else none } : Authority), '/' :: rest) = _
    rw [ite_self, ← hsome, ← hport]
  | some n =>
    obtain ⟨hlt, hdefault⟩ := ha.port n hport
    have hportText : a.portText = ':' :: Digit.decimal n := by
      rw [Authority.portText, hport]
    rw [hportText]
    show (readPort none (Digit.decimal n ++ '/' :: rest)).bind _ = _
    rw [readPort_decimal hlt]
    show Except.ok (({
      username := a.username, password := a.password, host := some host,
      port := if some n = defaultPort scheme then none else some n } : Authority), '/' :: rest) = _
    rw [if_neg hdefault, ← hsome, ← hport]

/-! ## Whole URLs -/

/-- **What two slashes, an authority and a path spell.** -/
theorem afterSlashes_eq (hu : u.IsCanonical) (ha : u.authority = some a) (hhost : HasHostBack a) :
    afterSlashes u.scheme (a.toText ++ u.path.toText ++ (u.queryText ++ u.fragmentText)) = .ok u := by
  obtain ⟨a', ha', hcanonical⟩ := hu.authority
  obtain rfl : a = a' := Option.some.inj (ha.symm.trans ha')
  obtain ⟨segments, hpath, hne, -⟩ := hu.path
  obtain ⟨s, segments, rfl⟩ := List.exists_cons_of_ne_nil hne
  have hspecial : SchemeKind.of u.scheme = .special := hu.special
  let more := s ++ segments.flatMap ('/' :: ·) ++ (u.queryText ++ u.fragmentText)
  have htext : a.toText ++ u.path.toText ++ (u.queryText ++ u.fragmentText) = a.toText ++ '/' :: more := by
    rw [hpath, List.append_assoc]
    rfl
  obtain ⟨text, -, -, hname⟩ := exists_splitUserInfo hcanonical hhost more
  have hcheck : (splitUserInfo .special (a.toText ++ '/' :: more)).any
      (fun p => p.1.isEmpty && p.2.head?.any (endsAuthority .special)) = false := by
    cases hsplit : splitUserInfo .special (a.toText ++ '/' :: more) with
    | none => rfl
    | some p => simp [hname p hsplit]
  let v : Url := { scheme := u.scheme, authority := some a, path := .segments [], query := none, fragment := none }
  have hwalk : v.withPathStart ('/' :: more) = u := by
    refine (withWalk_eq (v := v) hspecial hu hpath).trans ?_
    show ({ u with authority := some a } : Url) = u
    rw [← ha]
  unfold afterSlashes
  dsimp only
  rw [htext, hspecial, hcheck, readAuthority_eq hspecial hcanonical hhost]
  exact congrArg Except.ok hwalk

/-- A written URL is visible as a whole. -/
theorem isVisible_toText (hu : u.IsCanonical) (ha : u.authority = some a) (hgoes : ∀ c ∈ a.toText, IsVisible c) :
    ∀ c ∈ u.toText, IsVisible c := by
  intro c hc
  rw [toText_of_some ha] at hc
  simp only [List.mem_append, List.mem_cons, or_assoc] at hc
  rcases hc with hc | rfl | rfl | rfl | hc | hc | hc | hc
  · exact (isVisible_scheme hu.special c hc).1
  · decide
  · decide
  · decide
  · exact hgoes c hc
  · exact (hu.path.isVisible c hc).1
  · exact (isVisible_queryText hu.query c hc).1
  · exact isVisible_fragmentText hu.fragment c hc

theorem not_isSlash_of_endsAuthority (h : endsAuthority .special c = false) : isSlash c = false := by
  simp only [endsAuthority, Bool.or_eq_false_iff] at h
  obtain ⟨⟨⟨hslash, -⟩, -⟩, hbackslash⟩ := h
  exact Bool.or_eq_false_iff.mpr ⟨hslash, hbackslash⟩

/-- **A URL is read as it is written.** -/
theorem parse_toText (hu : u.IsCanonical) (ha : u.authority = some a) (hhost : HasHostBack a) :
    parse none u.toText = .ok u := by
  obtain ⟨a', ha', hcanonical⟩ := hu.authority
  obtain rfl : a = a' := Option.some.inj (ha.symm.trans ha')
  obtain ⟨d, ds, hcons⟩ := List.exists_cons_of_ne_nil (toText_ne_nil hhost)
  have hgoes := goesOn_toText hcanonical hhost
  have hspecial : SchemeKind.of u.scheme = .special := hu.special
  let more := ds ++ u.path.toText ++ (u.queryText ++ u.fragmentText)
  have htext : u.toText = u.scheme ++ ':' :: ('/' :: '/' :: d :: more) := by
    rw [toText_of_some ha, hcons]
    simp [more]
  have hsplit : splitScheme (u.scheme ++ ':' :: ('/' :: '/' :: d :: more))
      = some (u.scheme, '/' :: '/' :: d :: more) :=
    splitScheme_of_isSpecial (by rw [hspecial]; rfl) (map_toLower_of_special hspecial)
  have hslashes : ('/' :: '/' :: d :: more).dropWhile isSlash = d :: more := by
    have hd : isSlash d = false :=
      not_isSlash_of_endsAuthority (hgoes d (by rw [hcons]; exact List.mem_cons_self)).2
    exact List.dropWhile_cons_of_neg (Bool.eq_false_iff.mp hd)
  have hread := afterSlashes_eq hu ha hhost
  rw [hcons] at hread
  unfold parse
  dsimp only
  rw [clean_eq_self (isVisible_toText hu ha fun c hc => (hgoes c hc).1), htext, hsplit]
  dsimp only
  unfold parseScheme
  rw [hspecial]
  dsimp only [Option.filter]
  rw [hslashes]
  exact hread

end Url

end FragmentFeed
