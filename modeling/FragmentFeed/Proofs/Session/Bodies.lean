import FragmentFeed.Proofs.Fetch.Course
import FragmentFeed.Proofs.Http.Framing
import FragmentFeed.Proofs.Session.Staging
import FragmentFeed.Proofs.Text.Utf8

/-!
# Bodies, whole or not at all

In whichever way a body of success comes, the same text is made of it, and where it breaks off there is none:
the load fails, and neither loaders nor receivers are changed by it (`body_whole_or_none`).
-/

namespace FragmentFeed

open Http Text

/-! ## Responses that end a fetch -/

namespace Exchange

variable {head : Head} {b : List UInt8} {s : Script} {r : Response}

/-- Success is no redirect. -/
theorem redirect?_of_success (hhead : head.IsSuccess) (u : Url) (h : r.status = head.status) :
    redirect? u r = none := by
  have hstatus : [301, 302, 303, 307, 308].contains r.status = false := by
    obtain ⟨-, hlt, -⟩ := hhead.status
    simp only [List.contains_eq_mem, List.mem_cons, List.not_mem_nil, or_false, decide_eq_false_iff_not]
    omega
  rw [redirect?, hstatus]
  exact if_neg Bool.false_ne_true

theorem isSuccess_of_success (hhead : head.IsSuccess) (h : r.status = head.status) :
    isSuccess r.status = true := by
  obtain ⟨hge, hlt, -⟩ := hhead.status
  rw [isSuccess, h, decide_eq_true hge, decide_eq_true hlt]
  rfl

/-- A whole body ends a fetch with its text. -/
theorem receive_of_brings (hhead : head.IsSuccess) (h : head.Brings b s) (hfits : s.Fits) (ctx : Context)
    (x : Exchange) :
    (x.receive ctx s.encode).progress
      = .finished (.ok (String.ofList (Charset.decode ctx.tables .utf8 b))) := by
  obtain ⟨r, hr, hstatus, hcharset, hbody⟩ := h.exists_response hhead hfits
  rw [receive_of_final hr (redirect?_of_success hhead _ hstatus), resultOf,
    if_pos (isSuccess_of_success hhead hstatus), hbody, hcharset]

/-- One that breaks off ends it with a failure. -/
theorem receive_of_breaksOff (hhead : head.IsSuccess) (h : head.BreaksOff s) (hfits : s.Fits) (ctx : Context)
    (x : Exchange) : (x.receive ctx s.encode).progress = .finished (.error .bodyRead) := by
  obtain ⟨r, hr, hstatus, hbody⟩ := h.exists_response hhead hfits
  rw [receive_of_final hr (redirect?_of_success hhead _ hstatus), resultOf,
    if_pos (isSuccess_of_success hhead hstatus), hbody]

end Exchange

section last

variable {ctx : Context} {source : Source} {url : String} {earlier : List (List UInt8)} {bytes : List UInt8}
variable {x : Exchange} {result : Except FetchError String}

/-- What comes last ends the fetch that waited for it. -/
theorem Source.progress_of_receive
    (hwait : ((source.start ctx url).receiveAll ctx earlier).1.progress = .waiting x)
    (h : (x.receive ctx bytes).progress = .finished result) :
    ((source.start ctx url).receiveAll ctx (earlier ++ [bytes])).1.progress = .finished result := by
  rw [Stage.receiveAll_append, Stage.receiveAll_snd_of_waiting _ _ hwait, List.nil_append,
    Stage.receiveAll_cons_of_waiting hwait]
  exact h

end last

/-! ## Failures leave everything as it was -/

namespace Session

variable {ctx : Context} {s : Session} {n : Nat} {l : Loader} {source : Source} {e : FetchError}
variable {reply : Option Reply} {responses : List (List UInt8)} {bytes : List UInt8}

/-- A load in place that fails changes nothing. -/
theorem step_loadInPlace_of_error (hl : s.held? n = some l) (ho : l.origin = .web source)
    (h : (source.fetch ctx l.url responses).result = .error e) :
    (s.step ctx (.loadInPlace n ⟨reply, responses⟩)).1 = s := by
  rw [step_loadInPlace_web hl ho, h]
  exact setLoader_self hl

/-- A load that fails at once changes neither loaders nor receivers. -/
theorem step_load_of_error (hl : s.held? n = some l) (ho : l.origin = .web source)
    (h : ((source.start ctx l.url).receiveAll ctx responses).1.progress = .finished (.error e)) :
    (s.step ctx (.load n ⟨reply, responses⟩)).1.slots = s.slots ∧
      (s.step ctx (.load n ⟨reply, responses⟩)).1.receivers = s.receivers := by
  have hstate : (l.launch ctx ⟨reply, responses⟩).state = .inr (.failure e) := by
    rw [Loader.launch_state ho, h]
    rfl
  have hstep : (s.step ctx (.load n ⟨reply, responses⟩)).1
      = (s.setLoader n l).addLoad ⟨n, .finished (.ended .returned) false⟩ := by
    simp only [step, withLoader, hl, Session.load, hstate]
    rfl
  rw [hstep, setLoader_self hl]
  exact ⟨rfl, rfl⟩

/-- And neither does one that is given the response on which it fails. -/
theorem step_deliver_of_error {k : Load} {x : Exchange} (hk : s.load? n = some (k, l))
    (hp : k.phase = .waiting (.response x)) (h : (x.receive ctx bytes).progress = .finished (.error e)) :
    (s.step ctx (.deliver n (.response bytes))).1.slots = s.slots ∧
      (s.step ctx (.deliver n (.response bytes))).1.receivers = s.receivers := by
  have hstep : (s.step ctx (.deliver n (.response bytes))).1
      = (s.setLoader k.loader l).setPhase n (.finished (.ended .returned) false) := by
    simp only [step, withLoad, hk, Session.deliver, hp, h]
    rfl
  rw [hstep, setLoader_of_loader? (load?_eq_some_iff.mp hk).2]
  exact ⟨rfl, rfl⟩

end Session

/-- **A body is read as a whole or not at all.** A fetch waits for a response, and one of success comes, of a
status other than 204 and with no content type or one that names UTF-8. Its head fits: there are no more than a
hundred headers, and neither a name of one nor the whole is too long.

Whether the body runs to the close, has its length told or comes in chunks, however it is cut, the result is
the same text, whatever its bytes are. If these are the UTF-8 of a text that is the text, less the byte order
mark that it may begin with.

Where fewer bytes come than were told, in a number that can be a length, or any byte of the chunks and of what
ends them is missing, the result is that the body could not be read. Then a loader is after the load what it
was before, in place and in a session, and so are all other loaders and what the receivers have seen. -/
theorem body_whole_or_none {ctx : Context} {source : Source} {url : String} {earlier : List (List UInt8)}
    {x : Exchange} (hwait : ((source.start ctx url).receiveAll ctx earlier).1.progress = .waiting x)
    {head : Head} (hhead : head.IsSuccess) :
    (∀ b response, head.Brings b response → response.Fits →
      (source.fetch ctx url (earlier ++ [response.encode])).result
        = .ok (String.ofList (Charset.decode ctx.tables .utf8 b))) ∧
    (∀ cs response, head.Brings (Utf8.encode cs) response → response.Fits → cs.head? ≠ some '\uFEFF' →
      (source.fetch ctx url (earlier ++ [response.encode])).result = .ok (String.ofList cs)) ∧
    (∀ cs response, head.Brings (Utf8.encode ('\uFEFF' :: cs)) response → response.Fits →
      (source.fetch ctx url (earlier ++ [response.encode])).result = .ok (String.ofList cs)) ∧
    (∀ response, head.BreaksOff response → response.Fits →
      let responses := earlier ++ [response.encode]
      (source.fetch ctx url responses).result = .error .bodyRead ∧
      (∀ (l : Loader) reply, l.origin = .web source → l.url = url →
        (l.loadInPlace ctx ⟨reply, responses⟩).1 = l) ∧
      (∀ (s : Session) n l reply, s.held? n = some l → l.origin = .web source → l.url = url →
        (s.step ctx (.loadInPlace n ⟨reply, responses⟩)).1 = s ∧
        (s.step ctx (.load n ⟨reply, responses⟩)).1.slots = s.slots ∧
        (s.step ctx (.load n ⟨reply, responses⟩)).1.receivers = s.receivers) ∧
      (∀ (s : Session) n k l y, s.load? n = some (k, l) → k.phase = .waiting (.response y) →
        (s.step ctx (.deliver n (.response response.encode))).1.slots = s.slots ∧
        (s.step ctx (.deliver n (.response response.encode))).1.receivers = s.receivers)) := by
  have hwhole (b : List UInt8) (response : Script) (h : head.Brings b response) (hfits : response.Fits) :
      (source.fetch ctx url (earlier ++ [response.encode])).result
        = .ok (String.ofList (Charset.decode ctx.tables .utf8 b)) :=
    Source.fetch_result_of_finished
      (Source.progress_of_receive hwait (Exchange.receive_of_brings hhead h hfits ctx x))
  refine ⟨hwhole, ?_, ?_, fun response h hfits => ?_⟩
  · intro cs response h hfits hmark
    rw [hwhole _ response h hfits, Charset.decode_utf8_encode hmark]
  · intro cs response h hfits
    rw [hwhole _ response h hfits, Charset.decode_utf8_mark]
  · have hprogress := Source.progress_of_receive hwait (Exchange.receive_of_breaksOff hhead h hfits ctx x)
    have hresult := Source.fetch_result_of_finished hprogress
    refine ⟨hresult, ?_, ?_, ?_⟩
    · rintro l reply ho rfl
      rw [Loader.loadInPlace_eq ho, hresult]
      rfl
    · rintro s n l reply hl ho rfl
      exact ⟨Session.step_loadInPlace_of_error hl ho hresult, Session.step_load_of_error hl ho hprogress⟩
    · intro s n k l y hk hp
      exact Session.step_deliver_of_error hk hp (Exchange.receive_of_breaksOff hhead h hfits ctx y)

/-- A head of success that names the charset, and one that says nothing. -/
def htmlHead : Head :=
  ⟨200, ascii "OK", [(ascii "Content-Type", ascii "text/html; title=\"a;b\"; charset=UTF-8")]⟩
def bareHead : Head := ⟨200, ascii "OK", []⟩

/-- The URL `http://h.test/`. -/
def testUrl : Url :=
  { scheme := "http".toList
    authority := some
      { username := [], password := none, host := some (.domain "h.test".toList), port := none }
    path := .segments [[]]
    query := none
    fragment := none }

/-- The media type of `htmlHead` names UTF-8, behind a title with a semicolon in it. -/
theorem namesUtf8_html : NamesUtf8 (ascii "text/html; title=\"a;b\"; charset=UTF-8") := by
  have htoken (word : String) (hne : ascii word ≠ []) (h : ∀ b ∈ ascii word, isTokenByte b = true) :
      IsToken (ascii word) := ⟨hne, h⟩
  have hquotable : IsQuotable [0x61, 0x3B, 0x62] := .intro (by decide +kernel) (by decide +kernel)
  have htitle := IsParameter.quoted 1 0 (htoken "title" (by decide +kernel) (by decide +kernel)) hquotable
  have hcharset : IsParameter _ ("charset".toList, ascii "UTF-8") :=
    .bare 1 (htoken "charset" (by decide +kernel) (by decide +kernel))
      (htoken "UTF-8" (by decide +kernel) (by decide +kernel))
  exact .intro (htoken "text" (by decide +kernel) (by decide +kernel))
    (htoken "html" (by decide +kernel) (by decide +kernel))
    (List.forall_mem_singleton.mpr ⟨_, htitle, by decide +kernel⟩) hcharset (by decide +kernel) (.inl rfl)

/-- A byte order mark cut in two by chunks, and a length of which five bytes come. -/
theorem body_whole_or_none_html :
    ((Source.absolute.start .plain "http://h.test/").receiveAll .plain []).1.progress
      = .waiting (Exchange.first "http://h.test/" testUrl) ∧
    htmlHead.IsSuccess ∧
    (htmlHead.chunked (encodeChunked [[0xEF, 0xBB], [0xBF, 0x68]])).Fits ∧
    (Source.absolute.fetch .plain "http://h.test/"
      [(htmlHead.chunked (encodeChunked [[0xEF, 0xBB], [0xBF, 0x68]])).encode]).result = .ok "h" ∧
    (htmlHead.sized 100 (ascii "short")).Fits ∧
    (Source.absolute.fetch .plain "http://h.test/" [(htmlHead.sized 100 (ascii "short")).encode]).result
      = .error .bodyRead := by
  have hwait : ((Source.absolute.start .plain "http://h.test/").receiveAll .plain []).1.progress
      = .waiting (Exchange.first "http://h.test/" testUrl) := by
    have hu : Source.absolute.resolve "http://h.test/" = .ok testUrl := by decide +kernel
    have hstart : Source.absolute.start .plain "http://h.test/"
        = ⟨.waiting (Exchange.first "http://h.test/" testUrl), [.request (Request.first testUrl)]⟩ :=
      Source.start_of_reaches hu (by decide +kernel) ⟨by decide +kernel, by decide +kernel⟩
    rw [hstart]
    rfl
  have hhead : htmlHead.IsSuccess := by
    refine ⟨by decide, by decide +kernel, ?_, ?_, ?_⟩
    · intro field hfield
      rw [List.mem_singleton.mp hfield]
      exact ⟨by decide +kernel, by decide +kernel, by decide +kernel, by decide +kernel⟩
    · decide +kernel
    · intro field hfield _
      rw [List.mem_singleton.mp hfield]
      exact namesUtf8_html
  have hchunks : AreChunks [[0xEF, 0xBB], [0xBF, 0x68]] := by
    unfold AreChunks
    decide
  have hfits : (htmlHead.chunked (encodeChunked [[0xEF, 0xBB], [0xBF, 0x68]])).Fits :=
    ⟨by decide, by decide +kernel⟩
  have hfits' : (htmlHead.sized 100 (ascii "short")).Fits := ⟨by decide, by decide +kernel⟩
  obtain ⟨-, -, hmark, hbreaks⟩ := body_whole_or_none hwait hhead
  exact ⟨hwait, hhead, hfits, hmark ['h'] _ (.chunked hchunks (by decide)) hfits, hfits',
    (hbreaks _ (.sized (by decide) (by decide)) hfits').1⟩

/-- A head with a header more than there may be. -/
def crowdedHead : Head := ⟨200, ascii "OK", List.replicate 100 (ascii "a", ascii "b")⟩

/-- A number that is too great for a length makes no response at all, although fewer bytes come; and neither
does a head with too many headers, although the body is whole. -/
theorem fetch_oversized :
    (bareHead.IsSuccess ∧ (bareHead.sized UInt64.size (ascii "short")).Fits ∧
      (ascii "short").length < UInt64.size ∧
      (Source.absolute.fetch .plain "http://h.test/"
        [(bareHead.sized UInt64.size (ascii "short")).encode]).result
          = .error (.transport (.unanswered testUrl))) ∧
    crowdedHead.IsSuccess ∧ crowdedHead.Brings (ascii "short") (crowdedHead.untilClose (ascii "short")) ∧
      (Source.absolute.fetch .plain "http://h.test/" [(crowdedHead.untilClose (ascii "short")).encode]).result
          = .error (.transport (.unanswered testUrl)) := by
  have hbare : bareHead.IsSuccess :=
    ⟨by decide, by decide +kernel, by simp [bareHead], by simp [bareHead], by simp [bareHead]⟩
  have hcrowded : crowdedHead.IsSuccess := by
    have hall : ∀ field ∈ crowdedHead.headers, field = (ascii "a", ascii "b") :=
      fun field hfield => List.eq_of_mem_replicate hfield
    refine ⟨by decide, by decide +kernel, fun field hfield => ?_, fun field hfield => ?_, fun field hfield => ?_⟩
    · rw [hall field hfield]
      exact ⟨by decide, by decide, by decide +kernel, by decide +kernel⟩
    · rw [hall field hfield]
      decide +kernel
    · rw [hall field hfield]
      exact fun htype => absurd htype (by decide +kernel)
  refine ⟨⟨hbare, ⟨by decide, by decide +kernel⟩, by decide, ?_⟩, hcrowded, .untilClose, ?_⟩
  · decide +kernel
  · decide +kernel

end FragmentFeed
