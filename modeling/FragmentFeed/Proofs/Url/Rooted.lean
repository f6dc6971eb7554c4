import FragmentFeed.Proofs.Text.Percent
import FragmentFeed.Proofs.Text.Pieces
import FragmentFeed.Proofs.Url.Scheme
import FragmentFeed.Proofs.Url.UserInfo

/-!
# Rooted paths

However a text is spelled, no dots are left of it in a path: segments that stand for one dot or two are
walked, and all others are kept as they are encoded, without a slash in them (`isStep_of_mem_walk`). So a URL
of a special scheme has such a path (`rooted_of_parse`), and a reference into it that does not begin with two
slashes leaves its scheme and its authority alone (`parseReference_of_rooted`).
-/

namespace FragmentFeed

open Text

namespace Segments

variable {path segments : List (List Char)} {s : List Char}

/-- Whether a segment is one step down: it neither stands for dots, nor is there a slash in it. -/
structure IsStep (s : List Char) : Prop where
  noSlash : '/' ∉ s
  notDot : isDot s = false
  notDotDot : isDotDot s = false

theorem isStep_nil : IsStep [] := ⟨List.not_mem_nil, rfl, rfl⟩

/-! ## Dots -/

/-- What stands for dots reads like them. -/
theorem isDot_of_decode (h : Percent.decode s = [0x2E]) : isDot s = true := by
  obtain ⟨rest, hrest, hs⟩ := Percent.exists_of_decode_eq_cons_dot h
  obtain rfl := Percent.decode_eq_nil_iff.mp hrest
  rcases hs with rfl | rfl | rfl
  · rfl
  · rfl
  · rfl

theorem isDotDot_of_decode (h : Percent.decode s = [0x2E, 0x2E]) : isDotDot s = true := by
  obtain ⟨rest, hrest, hs⟩ := Percent.exists_of_decode_eq_cons_dot h
  obtain ⟨rest', hrest', hs'⟩ := Percent.exists_of_decode_eq_cons_dot hrest
  obtain rfl := Percent.decode_eq_nil_iff.mp hrest'
  rcases hs with rfl | rfl | rfl <;> rcases hs' with rfl | rfl | rfl <;> rfl

/-- A step stands for no dots, in whatever way they may be spelled. -/
theorem IsStep.decode_ne (h : IsStep s) :
    Percent.decode s ≠ [0x2E] ∧ Percent.decode s ≠ [0x2E, 0x2E] := by
  refine ⟨fun hdot => ?_, fun hdots => ?_⟩
  · exact Bool.false_ne_true (h.notDot.symm.trans (isDot_of_decode hdot))
  · exact Bool.false_ne_true (h.notDotDot.symm.trans (isDotDot_of_decode hdots))

/-! ## Walking -/

theorem isStep_of_mem_up (hpath : ∀ s ∈ path, IsStep s) : ∀ s ∈ up path, IsStep s := by
  cases path with
  | nil => exact hpath
  | cons s path =>
    rw [up]
    split
    · exact hpath
    · exact fun t ht => hpath t (List.mem_cons_of_mem s ht)

theorem kept_false (path : List (List Char)) (s : List Char) : kept false path s = s := by
  unfold kept
  split
  · exact if_neg fun h => Bool.false_ne_true h.1
  · rfl

/-- Walking leads along steps only. -/
theorem isStep_of_mem_walk (hpath : ∀ s ∈ path, IsStep s) (hsegments : ∀ s ∈ segments, '/' ∉ s) :
    ∀ s ∈ walk false path segments, IsStep s := by
  have hcons {path : List (List Char)} {s : List Char} (hpath : ∀ s ∈ path, IsStep s) (hs : IsStep s) :
      ∀ t ∈ s :: path, IsStep t := by
    intro t ht
    rcases List.mem_cons.mp ht with rfl | ht
    · exact hs
    · exact hpath t ht
  fun_induction walk false path segments with
  | case1 path => exact hpath
  | case2 path s hdots => exact hcons (isStep_of_mem_up hpath) isStep_nil
  | case3 path s hdots hdot => exact hcons hpath isStep_nil
  | case4 path s hdots hdot =>
    rw [kept_false]
    exact hcons hpath ⟨hsegments s (by simp), by simpa using hdot, by simpa using hdots⟩
  | case5 path s rest hrest hdots ih =>
    exact ih (isStep_of_mem_up hpath) fun t ht => hsegments t (by simp [ht])
  | case6 path s rest hrest hdots hdot ih => exact ih hpath fun t ht => hsegments t (by simp [ht])
  | case7 path s rest hrest hdots hdot ih =>
    refine ih ?_ fun t ht => hsegments t (by simp [ht])
    rw [kept_false]
    exact hcons hpath ⟨hsegments s (by simp), by simpa using hdot, by simpa using hdots⟩

/-- Wherever there is a segment to walk there is one in the end. -/
theorem walk_ne_nil {file : Bool} (h : segments ≠ []) : walk file path segments ≠ [] := by
  fun_induction walk file path segments with
  | case1 path => exact absurd rfl h
  | case2 path s hdots => exact List.cons_ne_nil _ _
  | case3 path s hdots hdot => exact List.cons_ne_nil _ _
  | case4 path s hdots hdot => exact List.cons_ne_nil _ _
  | case5 path s rest hrest hdots ih => exact ih hrest
  | case6 path s rest hrest hdots hdot ih => exact ih hrest
  | case7 path s rest hrest hdots hdot ih => exact ih hrest

/-- There are no slashes in the segments of a text, as they are encoded. -/
theorem not_slash_of_mem_split {special : Bool} {text : List Char} :
    ∀ s ∈ (split special text).map (Percent.encode Percent.pathSet), '/' ∉ s := by
  intro s hs hslash
  obtain ⟨piece, hpiece, rfl⟩ := List.mem_map.mp hs
  rcases Percent.mem_encode hslash with ⟨hmem, -⟩ | hpercent | ⟨d, hd, hdigit⟩
  · have hnot := (not_isSeparator_of_mem_pieces hpiece '/' hmem).2
    exact absurd hnot (by simp)
  · exact absurd hpercent (by decide)
  · have hall : ∀ d ∈ List.range 16, '/' ≠ Digit.upper d := by decide
    exact hall d hd hdigit

variable {text : List Char}

/-- **What a text leads to are steps**, and at least one. -/
theorem resolve_special (hpath : ∀ s ∈ path, IsStep s) :
    resolve .special path text ≠ [] ∧ ∀ s ∈ resolve .special path text, IsStep s := by
  have hsegments : (split true text).map (Percent.encode Percent.pathSet) ≠ [] := by
    rw [ne_eq, List.map_eq_nil_iff]
    exact pieces_ne_nil _ _
  show (walk false path _).reverse ≠ [] ∧ ∀ s ∈ (walk false path _).reverse, IsStep s
  refine ⟨?_, fun s hs => ?_⟩
  · rw [ne_eq, List.reverse_eq_nil_iff]
    exact walk_ne_nil hsegments
  · exact isStep_of_mem_walk hpath not_slash_of_mem_split s (List.mem_reverse.mp hs)

end Segments

namespace Url

open Segments

variable {u v : Url} {input : List Char}

/-! ## URLs with rooted paths -/

/-- Whether a URL has a path of steps, of which there is one at least. -/
def IsRooted (u : Url) : Prop :=
  ∃ segments, u.path = .segments segments ∧ segments ≠ [] ∧ ∀ s ∈ segments, IsStep s

theorem IsRooted.congr (h : u.IsRooted) (hpath : v.path = u.path) : v.IsRooted := by
  unfold IsRooted
  rw [hpath]
  exact h

/-- No segment of a rooted path stands for dots. -/
theorem IsRooted.isStep (h : u.IsRooted) {s : List Char} (hs : s ∈ u.pathSegments) : IsStep s := by
  obtain ⟨segments, hpath, -, hsteps⟩ := h
  rw [pathSegments, hpath] at hs
  exact hsteps s hs

/-- The text of a rooted path begins with a slash, and none of its segments stands for dots. -/
theorem IsRooted.toText (h : u.IsRooted) :
    u.path.toText.head? = some '/' ∧
      ∀ s ∈ pieces (· = '/') u.path.toText, Percent.decode s ≠ [0x2E] ∧ Percent.decode s ≠ [0x2E, 0x2E] := by
  obtain ⟨segments, hpath, hne, hsteps⟩ := h
  have htext : u.path.toText = segments.flatMap ('/' :: ·) := by rw [hpath]; rfl
  have hpieces : pieces (· = '/') u.path.toText = [] :: segments := by
    have hcut : pieces (· = '/') ([] ++ segments.flatMap ('/' :: ·)) = [] :: segments := by
      refine pieces_append_flatMap (by decide) (List.forall_mem_nil _) fun s hs c hc => ?_
      exact decide_eq_false fun hslash => (hsteps s hs).noSlash (hslash ▸ hc)
    rwa [List.nil_append, ← htext] at hcut
  refine ⟨?_, fun s hs => ?_⟩
  · rw [htext]
    cases segments with
    | nil => exact absurd rfl hne
    | cons s segments => rfl
  · rw [hpieces] at hs
    rcases List.mem_cons.mp hs with rfl | hs
    · exact isStep_nil.decode_ne
    · exact (hsteps s hs).decode_ne

@[simp] theorem withTail_path (u : Url) (rest : List Char) : (u.withTail rest).path = u.path := by
  unfold withTail
  split <;> rfl

theorem isRooted_withWalk (hkind : u.kind = .special) {path : List (List Char)}
    (hpath : ∀ s ∈ path, IsStep s) (input : List Char) : (u.withWalk path input).IsRooted := by
  refine ⟨Segments.resolve u.kind path (input.takeWhile (!endsPath ·)), ?_, ?_⟩
  · rw [withWalk, withTail_path]
  · rw [hkind]
    exact resolve_special hpath

/-- Behind the authority of a special URL a walk begins at the root. -/
theorem exists_withPathStart_eq_withWalk (hkind : u.kind = .special) (input : List Char) :
    ∃ rest, u.withPathStart input = u.withWalk [] rest := by
  have hspecial : u.kind.isSpecial = true := by rw [hkind]; rfl
  unfold withPathStart
  split
  · exact ⟨_, if_pos hspecial⟩
  · split
    · exact ⟨_, rfl⟩
    · exact ⟨_, if_neg fun h => Bool.false_ne_true (h.2.symm.trans hspecial)⟩

theorem isRooted_withPathStart (hkind : u.kind = .special) (input : List Char) :
    (u.withPathStart input).IsRooted := by
  obtain ⟨rest, hrest⟩ := exists_withPathStart_eq_withWalk hkind input
  rw [hrest]
  exact isRooted_withWalk hkind (List.forall_mem_nil _) rest

@[simp] theorem withPathStart_scheme (u : Url) (input : List Char) :
    (u.withPathStart input).scheme = u.scheme := by
  unfold withPathStart
  split
  · split
    · exact withWalk_scheme _ _ _
    · exact withTail_scheme _ _
  · split
    · exact withWalk_scheme _ _ _
    · split
      · exact withTail_scheme _ _
      · exact withWalk_scheme _ _ _

/-! ## Absolute texts -/

/-- A URL that is read behind two slashes has the scheme given, and a rooted path if that is special. -/
theorem afterSlashes_yields_isRooted (scheme input : List Char) :
    Yields (afterSlashes scheme input) fun u => u.scheme = scheme ∧ (u.kind = .special → u.IsRooted) := by
  unfold afterSlashes
  dsimp only
  split
  · exact .error
  · refine .bind_any fun p => .ok ⟨withPathStart_scheme _ _, fun hkind => ?_⟩
    refine isRooted_withPathStart ?_ _
    rwa [kind, withPathStart_scheme] at hkind

theorem fileFromRoot_scheme (base : Option Url) (input : List Char) :
    (fileFromRoot base input).scheme = "file".toList := by
  have hwalk (host : Option Host) (path : List (List Char)) :
      ((fileUrl host).withWalk path input).scheme = "file".toList := withWalk_scheme _ _ _
  unfold fileFromRoot
  split
  · exact hwalk _ _
  · split
    · exact hwalk _ _
    · split
      · split
        · exact hwalk _ _
        · exact hwalk _ _
      · exact hwalk _ _

theorem fileInDirectory_scheme (b : Url) (input : List Char) :
    (fileInDirectory b input).scheme = b.scheme := by
  unfold fileInDirectory
  dsimp only
  split
  · exact withWalk_scheme _ _ _
  · split
    · exact withWalk_scheme _ _ _
    · split
      · exact withWalk_scheme _ _ _
      · split
        · split
          · exact withTail_scheme _ _
          · split
            · exact withWalk_scheme _ _ _
            · exact withWalk_scheme _ _ _
        · split
          · exact withWalk_scheme _ _ _
          · exact withWalk_scheme _ _ _
        · rfl

/-- A `file` URL leads to no other scheme. -/
theorem parseFile_yields_scheme {base : Option Url}
    (hbase : ∀ b, base = some b → b.scheme = "file".toList) (input : List Char) :
    Yields (parseFile base input) fun u => u.scheme = "file".toList := by
  have hwalk (host : Option Host) (input : List Char) :
      ((fileUrl host).withWalk [] input).scheme = "file".toList := withWalk_scheme _ _ _
  have hslashes (input : List Char) :
      Yields (fileAfterSlashes input) fun u => u.scheme = "file".toList := by
    unfold fileAfterSlashes
    dsimp only
    split
    · exact .ok (hwalk _ _)
    · refine .bind_any fun host => ?_
      split
      · exact .ok (hwalk _ _)
      · exact .ok (hwalk _ _)
  unfold parseFile
  split
  · split
    · split
      · split
        · exact hslashes _
        · exact .ok (fileFromRoot_scheme _ _)
      · exact .ok (fileFromRoot_scheme _ _)
    · split
      · exact .ok (hwalk _ _)
      · rename_i b
        have hb : b.scheme = "file".toList := hbase b rfl
        split
        · exact .ok ((withTail_scheme _ _).trans hb)
        · split
          · exact .ok hb
          · split
            · exact .ok (hwalk _ _)
            · exact .ok ((fileInDirectory_scheme _ _).trans hb)
  · split
    · exact .ok (hwalk _ _)
    · rename_i b
      exact .ok (hbase b rfl)

theorem parseOther_yields_scheme (scheme input : List Char) :
    Yields (parseOther scheme input) fun u => u.scheme = scheme := by
  unfold parseOther
  dsimp only
  split
  · exact fun u hu => (afterSlashes_yields_isRooted _ _ u hu).1
  · exact .ok (withWalk_scheme _ _ _)
  · exact .ok (withTail_scheme _ _)

/-- **What is read without a base has a rooted path, if its scheme is special.** -/
theorem rooted_of_parse {text : List Char} (h : parse none text = .ok u) (hkind : u.kind = .special) :
    u.IsRooted := by
  unfold parse at h
  dsimp only at h
  split at h
  · rename_i scheme rest _
    unfold parseScheme at h
    split at h
    · have hnone : ∀ b : Url, none = some b → b.scheme = "file".toList := nofun
      rw [kind, parseFile_yields_scheme hnone _ u h] at hkind
      cases hkind
    · exact (afterSlashes_yields_isRooted _ _ u h).2 hkind
    · rename_i hother
      rw [kind, parseOther_yields_scheme _ _ u h, hother] at hkind
      cases hkind
  · cases h

/-! ## References -/

/-- Behind a base of a special scheme nothing but two slashes brings another authority. -/
theorem parseRelative_of_rooted {b : Url} (hkind : b.kind = .special) (hb : b.IsRooted)
    (hinput : ∀ c d rest, input = c :: d :: rest → isSlash c = false ∨ isSlash d = false) :
    ∃ u, parseRelative b input = .ok u ∧ u.scheme = b.scheme ∧ u.authority = b.authority ∧ u.IsRooted := by
  have hwalk {path : List (List Char)} (hpath : ∀ s ∈ path, IsStep s) (rest : List Char) :
      ∃ u, (.ok (b.withWalk path rest) : Except ParseError Url) = .ok u ∧
        u.scheme = b.scheme ∧ u.authority = b.authority ∧ u.IsRooted :=
    ⟨_, rfl, withWalk_scheme _ _ _, withWalk_authority _ _ _, isRooted_withWalk hkind hpath rest⟩
  have htail (rest : List Char) :
      ∃ u, (.ok (b.withTail rest) : Except ParseError Url) = .ok u ∧
        u.scheme = b.scheme ∧ u.authority = b.authority ∧ u.IsRooted :=
    ⟨_, rfl, withTail_scheme _ _, withTail_authority _ _, hb.congr (withTail_path _ _)⟩
  unfold parseRelative
  split
  · exact ⟨_, rfl, rfl, rfl, hb.congr rfl⟩
  · split
    · exact htail _
    · split
      · exact ⟨_, rfl, rfl, rfl, hb.congr rfl⟩
      · split
        · rename_i hc
          split
          · split
            · rename_i hd
              rcases hinput _ _ _ rfl with h | h
              · exact absurd (h.symm.trans hc) Bool.false_ne_true
              · exact absurd (h.symm.trans hd) Bool.false_ne_true
            · exact hwalk (List.forall_mem_nil _) _
          · exact hwalk (List.forall_mem_nil _) _
        · exact hwalk (fun s hs => hb.isStep (List.mem_reverse.mp (List.mem_of_mem_drop hs))) _

/-- **A reference that does not begin with two slashes stays within its base**, whose scheme and authority it
keeps, and below its root. -/
theorem parseReference_of_rooted {b : Url} (hkind : b.kind = .special) (hb : b.IsRooted)
    (hinput : ∀ c d rest, input = c :: d :: rest → isSlash c = false ∨ isSlash d = false) :
    ∃ u, parseReference (some b) input = .ok u ∧
      u.scheme = b.scheme ∧ u.authority = b.authority ∧ u.IsRooted := by
  obtain ⟨segments, hpath, -, -⟩ := id hb
  unfold parseReference
  dsimp only
  rw [hpath]
  split
  · exact ⟨_, rfl, rfl, rfl, hb.congr hpath.symm⟩
  · rename_i hverbatim
    cases hverbatim
  · rw [hkind, if_neg (by decide)]
    exact parseRelative_of_rooted hkind hb hinput

end Url

end FragmentFeed
