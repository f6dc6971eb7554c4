import FragmentFeed.Proofs.Http.Chunked
import FragmentFeed.Proofs.Http.MediaType

/-!
# Three ways to send a body

A body may run to the close of the connection, have its length told in front, or come in chunks. In each of
these ways a whole body is read as it is (`Head.Brings.exists_response`), and where it breaks off nothing is read
(`Head.BreaksOff.exists_response`), where the head is one that fits.
-/

namespace FragmentFeed.Http

open Text

/-- A head, less what tells how the body is framed. -/
structure Head where
  status : Nat
  reason : List UInt8
  headers : List (List UInt8 × List UInt8)
  deriving DecidableEq, Repr

namespace Head

variable {head : Head} {framing : List (List UInt8 × List UInt8)} {f : Framing}
variable {b sent : List UInt8} {s : Script} {n : Nat}

/-! ## Writing -/

/-- The response with a head, the headers that frame the body, and what is sent of the body. -/
def script (head : Head) (framing : List (List UInt8 × List UInt8)) (sent : List UInt8) : Script :=
  ⟨head.status, head.reason, framing ++ head.headers, sent⟩

/-- The body runs to the close of the connection. -/
def untilClose (head : Head) (sent : List UInt8) : Script := head.script [] sent

/-- The length of the body is told. -/
def sized (head : Head) (length : Nat) (sent : List UInt8) : Script :=
  head.script [(ascii "Content-Length", ascii (toString length))] sent

/-- The body comes in chunks. -/
def chunked (head : Head) (sent : List UInt8) : Script :=
  head.script [(ascii "Transfer-Encoding", ascii "chunked")] sent

/-- Whether a head is one of success with a body, which is told nothing of, and a text in UTF-8. -/
structure IsSuccess (head : Head) : Prop where
  status : 200 ≤ head.status ∧ head.status < 300 ∧ head.status ≠ 204
  reason : ∀ b ∈ head.reason, isTextByte b = true
  headers : ∀ field ∈ head.headers, IsHeader field
  unframed : ∀ field ∈ head.headers,
    lower field.1 ≠ "transfer-encoding".toList ∧ lower field.1 ≠ "content-length".toList
  utf8 : ∀ field ∈ head.headers, lower field.1 = "content-type".toList →
    NamesUtf8 (trim isSpaceByte field.2)

/-- The responses that bring a whole body. -/
inductive Brings (head : Head) (b : List UInt8) : Script → Prop
  | untilClose : Brings head b (head.untilClose b)
  | sized (h : b.length + 2 < UInt64.size) : Brings head b (head.sized b.length b)
  | chunked {chunks : List (List UInt8)} (h : AreChunks chunks) (hb : chunks.flatten = b) :
    Brings head b (head.chunked (encodeChunked chunks))

/-- The responses whose body breaks off: fewer bytes come than were told, or not all of the chunks and of what
ends them. -/
inductive BreaksOff (head : Head) : Script → Prop
  | sized {n : Nat} {sent : List UInt8} (h : sent.length < n) (hn : n + 2 < UInt64.size) :
    BreaksOff head (head.sized n sent)
  | chunked {chunks : List (List UInt8)} {sent : List UInt8} (h : AreChunks chunks)
    (hbeginning : sent <+: encodeChunked chunks) (hsent : sent ≠ encodeChunked chunks) :
    BreaksOff head (head.chunked sent)

/-! ## Lengths -/

theorem ascii_toString (n : Nat) : ascii (toString n) = digitBytes (Nat.toDigits 10 n) := by
  rw [ascii, Nat.toString_eq_ofList_toDigits, String.toList_ofList]
  rfl

/-- The bytes of a length are digits. -/
theorem mem_ascii_toString {d : UInt8} (h : d ∈ ascii (toString n)) : 0x30 ≤ d.toNat ∧ d.toNat ≤ 0x39 := by
  rw [ascii_toString] at h
  obtain ⟨digit, hdigit, rfl⟩ := List.mem_map.mp h
  have hdecimal := Digit.toNat_of_mem_toDigits hdigit
  rwa [UInt8.toNat_ofNat', Nat.mod_eq_of_lt (by omega)]

theorem trim_toString (n : Nat) : trim isSpaceByte (ascii (toString n)) = ascii (toString n) := by
  refine trim_of_no_blanks fun d hd => ?_
  obtain ⟨hge, -⟩ := mem_ascii_toString hd
  rw [isSpaceByte, Bool.or_eq_false_iff]
  refine ⟨decide_eq_false ?_, decide_eq_false ?_⟩
  · rintro rfl
    exact absurd hge (by decide)
  · rintro rfl
    exact absurd hge (by decide)

/-- **A length is read as it is written.** -/
theorem contentLength?_toString (hn : n + 2 < UInt64.size) : contentLength? [ascii (toString n)] = some n := by
  have hcomma : ∀ d ∈ ascii (toString n), decide (d = 0x2C) = false := by
    intro d hd
    refine decide_eq_false ?_
    rintro rfl
    exact absurd (mem_ascii_toString hd).1 (by decide)
  have hitems : listItems (ascii (toString n)) = [ascii (toString n)] := by
    rw [listItems, pieces_eq_singleton hcomma, List.map_singleton, trim_toString]
  have hchars : (ascii (toString n)).map (fun b => Char.ofNat b.toNat) = Nat.toDigits 10 n := by
    rw [ascii_toString, digitBytes, List.map_map]
    refine (List.map_congr_left fun digit hdigit => ?_).trans (List.map_id _)
    have hdecimal := Digit.toNat_of_mem_toDigits hdigit
    exact char_of_byte (by omega)
  have hlength : length? (ascii (toString n)) = some n := by
    unfold length?
    rw [hchars]
    split
    · rename_i hnil
      exact absurd hnil Nat.toDigits_ne_nil
    · rw [Digit.gather?_toDigits (by decide) (by decide)]
      exact if_pos hn
  rw [contentLength?, List.flatMap_singleton, hitems, List.map_singleton, hlength]
  rfl

/-! ## Framing -/

theorem lower_contentLength : lower (ascii "Content-Length") = "content-length".toList := by decide +kernel

/-- The headers beside those that frame the body do not. -/
theorem unframed_of_mem (hhead : head.IsSuccess) {field : List Char × List UInt8}
    (h : field ∈ (head.headers ++ [connectionClose]).map readHeader) :
    field.1 ≠ "transfer-encoding".toList ∧ field.1 ≠ "content-length".toList := by
  obtain ⟨g, hg, rfl⟩ := List.mem_map.mp h
  rcases List.mem_append.mp hg with hg | hg
  · exact hhead.unframed g hg
  · rw [List.mem_singleton.mp hg]
    decide +kernel

/-- How a response with such a head is framed, by the values of the headers that frame it. -/
theorem framing?_script (hhead : head.IsSuccess) :
    framing? true head.status (head.script framing sent).readHeaders
      = match valuesOf "transfer-encoding" (framing.map readHeader),
          valuesOf "content-length" (framing.map readHeader) with
        | [], [] => some .untilClose
        | [], lengths => (contentLength? lengths).map .sized
        | encodings, _ => if endsInChunked encodings then some .chunked else some .untilClose := by
  have hvalues (name : String)
      (hname : ∀ field ∈ (head.headers ++ [connectionClose]).map readHeader, field.1 ≠ name.toList) :
      valuesOf name (head.script framing sent).readHeaders = valuesOf name (framing.map readHeader) := by
    rw [Script.readHeaders, script, List.append_assoc, List.map_append, valuesOf_append, valuesOf_eq_nil hname,
      List.append_nil]
  have hbody : ¬ (head.status < 200 ∨ head.status = 204 ∨ head.status = 304) := by
    obtain ⟨hge, hlt, hne⟩ := hhead.status
    omega
  rw [framing?, if_neg hbody, hvalues _ fun field hfield => (unframed_of_mem hhead hfield).1,
    hvalues _ fun field hfield => (unframed_of_mem hhead hfield).2]
  rfl

theorem framing?_untilClose (hhead : head.IsSuccess) (sent : List UInt8) :
    framing? true head.status (head.script [] sent).readHeaders = some .untilClose := framing?_script hhead

theorem framing?_sized (hhead : head.IsSuccess) (hn : n + 2 < UInt64.size) (sent : List UInt8) :
    framing? true head.status (head.script [(ascii "Content-Length", ascii (toString n))] sent).readHeaders
      = some (.sized n) := by
  have hread : readHeader (ascii "Content-Length", ascii (toString n))
      = ("content-length".toList, ascii (toString n)) :=
    Prod.ext lower_contentLength (trim_toString n)
  have hencoding : valuesOf "transfer-encoding" [("content-length".toList, ascii (toString n))] = [] := by
    refine valuesOf_eq_nil fun field hfield => ?_
    rw [List.mem_singleton.mp hfield]
    exact (by decide +kernel : "content-length".toList ≠ "transfer-encoding".toList)
  rw [framing?_script hhead, List.map_singleton, hread, valuesOf_cons_self, hencoding]
  show (contentLength? [ascii (toString n)]).map Framing.sized = some (.sized n)
  rw [contentLength?_toString hn]
  rfl

theorem framing?_chunked (hhead : head.IsSuccess) (sent : List UInt8) :
    framing? true head.status (head.script [(ascii "Transfer-Encoding", ascii "chunked")] sent).readHeaders
      = some .chunked := by
  have hread : [(ascii "Transfer-Encoding", ascii "chunked")].map readHeader
      = [("transfer-encoding".toList, ascii "chunked")] := by decide +kernel
  have hends : endsInChunked [ascii "chunked"] = true := by decide +kernel
  rw [framing?_script hhead, hread, valuesOf_cons_self]
  exact if_pos hends

/-! ## Reading -/

/-- What is read of a response with such a head. -/
theorem exists_response (hhead : head.IsSuccess) (hframing : ∀ field ∈ framing,
      IsHeader field ∧ lower field.1 ≠ "content-type".toList)
    (hf : framing? true head.status (head.script framing sent).readHeaders = some f)
    (hfits : (head.script framing sent).Fits) :
    ∃ r, Response.parse? (head.script framing sent).encode = some r ∧
      r.status = head.status ∧ r.charset = .utf8 ∧ r.framing = f ∧ r.rest = sent := by
  have hproper : (head.script framing sent).IsProper := by
    obtain ⟨hge, hlt, -⟩ := hhead.status
    refine ⟨⟨hge, Nat.lt_trans hlt (by decide)⟩, hhead.reason, fun field hfield => ?_, hfits⟩
    rcases List.mem_append.mp hfield with hfield | hfield
    · exact (hframing field hfield).1
    · exact hhead.headers field hfield
  refine ⟨_, (parse?_encode hproper).trans (congrArg (Option.map _) hf), rfl, ?_, rfl, rfl⟩
  refine charset_of_namesUtf8 fun field hfield htype => ?_
  obtain ⟨g, hg, rfl⟩ := List.mem_map.mp hfield
  rcases List.mem_append.mp hg with hg | hg
  · rcases List.mem_append.mp hg with hg | hg
    · exact absurd htype (hframing g hg).2
    · exact hhead.utf8 g hg htype
  · rw [List.mem_singleton.mp hg] at htype
    exact absurd htype (by decide +kernel)

theorem isHeader_sized (n : Nat) : IsHeader (ascii "Content-Length", ascii (toString n)) := by
  have hname : ∀ d ∈ ascii "Content-Length", isTokenByte d = true := by decide +kernel
  have hlength : (ascii "Content-Length").length ≤ 65535 := by decide
  refine ⟨List.cons_ne_nil _ _, hlength, hname, fun d hd => ?_⟩
  obtain ⟨hge, hle⟩ := mem_ascii_toString hd
  have hblank : (0x20 : UInt8) ≤ d := UInt8.le_iff_toNat_le.mpr (Nat.le_trans (by decide) hge)
  have hdelete : d ≠ 0x7F := by
    rintro rfl
    exact absurd hle (by decide)
  rw [isTextByte, decide_eq_true hblank, decide_eq_true hdelete]
  exact Bool.or_true _

/-- What a response brings that tells the length of its body. -/
theorem exists_response_sized (hhead : head.IsSuccess) (hn : n + 2 < UInt64.size)
    (hfits : (head.sized n sent).Fits) :
    ∃ r, Response.parse? (head.sized n sent).encode = some r ∧ r.status = head.status ∧ r.charset = .utf8 ∧
      r.framing = .sized n ∧ r.rest = sent := by
  refine exists_response hhead (fun field hfield => ?_) (framing?_sized hhead hn sent) hfits
  rw [List.mem_singleton.mp hfield]
  refine ⟨isHeader_sized n, ?_⟩
  rw [lower_contentLength]
  decide +kernel

/-- What a response brings whose body comes in chunks. -/
theorem exists_response_chunked (hhead : head.IsSuccess) (hfits : (head.chunked sent).Fits) :
    ∃ r, Response.parse? (head.chunked sent).encode = some r ∧ r.status = head.status ∧ r.charset = .utf8 ∧
      r.framing = .chunked ∧ r.rest = sent := by
  refine exists_response hhead (fun field hfield => ?_) (framing?_chunked hhead sent) hfits
  rw [List.mem_singleton.mp hfield]
  exact ⟨⟨by decide +kernel, by decide +kernel, by decide +kernel, by decide +kernel⟩, by decide +kernel⟩

/-- **A whole body is read as it is**, in whichever way it comes. -/
theorem Brings.exists_response (hhead : head.IsSuccess) (h : head.Brings b s) (hfits : s.Fits) :
    ∃ r, Response.parse? s.encode = some r ∧ r.status = head.status ∧ r.charset = .utf8 ∧ r.body? = some b := by
  cases h with
  | untilClose =>
    obtain ⟨r, hr, hstatus, hcharset, hframing, hrest⟩ :=
      Head.exists_response hhead (by simp) (framing?_untilClose hhead b) hfits
    exact ⟨r, hr, hstatus, hcharset, by rw [Response.body?, hframing, hrest]⟩
  | sized hlength =>
    obtain ⟨r, hr, hstatus, hcharset, hframing, hrest⟩ := exists_response_sized hhead hlength hfits
    refine ⟨r, hr, hstatus, hcharset, ?_⟩
    rw [Response.body?, hframing, hrest]
    show (if b.length ≤ b.length then some (b.take b.length) else none) = some b
    rw [if_pos (Nat.le_refl _), List.take_length]
  | @chunked chunks hchunks hb =>
    obtain ⟨r, hr, hstatus, hcharset, hframing, hrest⟩ :=
      exists_response_chunked hhead hfits
    refine ⟨r, hr, hstatus, hcharset, ?_⟩
    rw [Response.body?, hframing, hrest, ← hb]
    exact chunked?_encodeChunked hchunks

/-- **A body that breaks off is not read at all.** -/
theorem BreaksOff.exists_response (hhead : head.IsSuccess) (h : head.BreaksOff s) (hfits : s.Fits) :
    ∃ r, Response.parse? s.encode = some r ∧ r.status = head.status ∧ r.body? = none := by
  cases h with
  | @sized n sent hlength hn =>
    obtain ⟨r, hr, hstatus, -, hframing, hrest⟩ := exists_response_sized hhead hn hfits
    refine ⟨r, hr, hstatus, ?_⟩
    rw [Response.body?, hframing, hrest]
    exact if_neg (Nat.not_le.mpr hlength)
  | @chunked chunks sent hchunks hbeginning hsent =>
    obtain ⟨r, hr, hstatus, -, hframing, hrest⟩ := exists_response_chunked hhead hfits
    refine ⟨r, hr, hstatus, ?_⟩
    rw [Response.body?, hframing, hrest]
    exact chunked?_of_missing hchunks hbeginning hsent

end Head

end FragmentFeed.Http
