import FragmentFeed.Fetch.Exchange

/-!
# Fetches in stages

A fetch can be left waiting and gone on with later: to receive some responses and then others is to
receive them all (`receiveAll_append`). What had been seen before is carried along and plays no part.
-/

namespace FragmentFeed

open Http

namespace Trace

variable (a b : Trace) (es : List Log.Event) (r : Request) (rs : List Request)

@[simp] theorem requests_cons_request : requests (.request r :: a) = r :: a.requests := rfl
@[simp] theorem events_cons_request : events (.request r :: a) = a.events := rfl

@[simp] theorem calls_append : calls (a ++ b) = a.calls ++ b.calls := List.filterMap_append
@[simp] theorem requests_append : requests (a ++ b) = a.requests ++ b.requests := List.filterMap_append
@[simp] theorem events_append : events (a ++ b) = a.events ++ b.events := List.filterMap_append

/-- Requests are seen as such, and as nothing else. -/
@[simp] theorem requests_map_request : requests (rs.map .request) = rs := by
  rw [requests, List.filterMap_map]
  exact List.filterMap_some

@[simp] theorem events_map_request : events (rs.map .request) = [] := by
  rw [events, List.filterMap_map]
  exact List.filterMap_eq_nil_iff.mpr fun _ _ => rfl

/-- And so are events. -/
@[simp] theorem events_map_event : events (es.map .event) = es := by
  rw [events, List.filterMap_map]
  exact List.filterMap_some

@[simp] theorem requests_map_event : requests (es.map .event) = [] := by
  rw [requests, List.filterMap_map]
  exact List.filterMap_eq_nil_iff.mpr fun _ _ => rfl

@[simp] theorem calls_map_event : calls (es.map .event) = [] := by
  rw [calls, List.filterMap_map]
  exact List.filterMap_eq_nil_iff.mpr fun _ _ => rfl

end Trace

namespace Stage

variable {ctx : Context} {st : Stage} {x : Exchange} {result : Except FetchError String}
variable {bytes : List UInt8} {rs : List (List UInt8)}

@[simp] theorem receiveAll_nil : st.receiveAll ctx [] = (st, []) := rfl

theorem receiveAll_of_finished (h : st.progress = .finished result) (rs : List (List UInt8)) :
    st.receiveAll ctx rs = (st, rs) := by
  cases rs with
  | nil => rfl
  | cons bytes rs => simp only [receiveAll, h]

theorem receiveAll_cons_of_waiting (h : st.progress = .waiting x) :
    st.receiveAll ctx (bytes :: rs)
      = receiveAll ctx ⟨(x.receive ctx bytes).progress, st.trace ++ (x.receive ctx bytes).trace⟩ rs := by
  simp only [receiveAll, h]

/-- A fetch that waits has taken all responses. -/
theorem receiveAll_snd_of_waiting (st : Stage) (rs : List (List UInt8))
    (h : (st.receiveAll ctx rs).1.progress = .waiting x) : (st.receiveAll ctx rs).2 = [] := by
  induction rs generalizing st with
  | nil => rfl
  | cons bytes rs ih =>
    cases hp : st.progress with
    | finished result =>
      rw [receiveAll_of_finished hp, hp] at h
      cases h
    | waiting y =>
      rw [receiveAll_cons_of_waiting hp] at h ⊢
      exact ih _ h

/-- **To receive some responses and then others is to receive them all.** -/
theorem receiveAll_append (st : Stage) (rs qs : List (List UInt8)) :
    st.receiveAll ctx (rs ++ qs)
      = (st.receiveAll ctx rs).1.receiveAll ctx ((st.receiveAll ctx rs).2 ++ qs) := by
  induction rs generalizing st with
  | nil => rfl
  | cons bytes rs ih =>
    cases hp : st.progress with
    | finished result =>
      rw [receiveAll_of_finished hp, receiveAll_of_finished hp, receiveAll_of_finished hp]
    | waiting x =>
      rw [List.cons_append, receiveAll_cons_of_waiting hp, receiveAll_cons_of_waiting hp, ih]

/-- What had been seen before is carried along. -/
theorem receiveAll_trace_append (ctx : Context) (a : Trace) (st : Stage) (rs : List (List UInt8)) :
    receiveAll ctx ⟨st.progress, a ++ st.trace⟩ rs
      = (⟨(st.receiveAll ctx rs).1.progress, a ++ (st.receiveAll ctx rs).1.trace⟩,
        (st.receiveAll ctx rs).2) := by
  induction rs generalizing st with
  | nil => rfl
  | cons bytes rs ih =>
    cases hp : st.progress with
    | finished result =>
      rw [receiveAll_of_finished hp, receiveAll_of_finished rfl, hp]
    | waiting x =>
      rw [receiveAll_cons_of_waiting hp, receiveAll_cons_of_waiting rfl, List.append_assoc]
      exact ih ⟨_, st.trace ++ (x.receive ctx bytes).trace⟩

/-- What a waiting fetch comes to does not depend on what has been seen of it. -/
theorem exists_trace_of_waiting {trace : Trace} (hp : st.progress = .waiting x)
    (h : st.receiveAll ctx rs = (⟨.finished result, trace⟩, [])) :
    ∃ rest, receiveAll ctx ⟨.waiting x, []⟩ rs = (⟨.finished result, rest⟩, []) ∧
      trace = st.trace ++ rest := by
  have hsplit := receiveAll_trace_append ctx st.trace ⟨.waiting x, []⟩ rs
  have hst : st = ⟨.waiting x, st.trace ++ []⟩ := by
    rw [List.append_nil, ← hp]
  rw [hst, hsplit, Prod.mk.injEq, Stage.mk.injEq] at h
  obtain ⟨⟨hresult, htrace⟩, hleft⟩ := h
  exact ⟨_, by rw [← hresult, ← hleft], htrace.symm⟩

/-! ## Being served -/

/-- Whether a fetch takes all of some responses and then has come to its end, so that it asks for no
other one. -/
def IsServedBy (ctx : Context) (st : Stage) (rs : List (List UInt8)) : Prop :=
  ∃ result trace, st.receiveAll ctx rs = (⟨.finished result, trace⟩, [])

instance (ctx : Context) (st : Stage) (rs : List (List UInt8)) : Decidable (st.IsServedBy ctx rs) :=
  match h : st.receiveAll ctx rs with
  | (⟨.finished result, trace⟩, []) => isTrue ⟨result, trace, h⟩
  | (⟨.finished _, _⟩, _ :: _) => isFalse fun ⟨_, _, h'⟩ => nomatch h.symm.trans h'
  | (⟨.waiting _, _⟩, _) => isFalse fun ⟨_, _, h'⟩ => nomatch h.symm.trans h'

/-- A fetch that has ended takes no response. -/
theorem IsServedBy.eq_nil (h : st.IsServedBy ctx rs) (hp : st.progress = .finished result) :
    rs = [] := by
  obtain ⟨result', trace, h⟩ := h
  rw [receiveAll_of_finished hp] at h
  exact congrArg Prod.snd h

/-- A fetch that waits asks for a response. -/
theorem IsServedBy.ne_nil (h : st.IsServedBy ctx rs) (hp : st.progress = .waiting x) : rs ≠ [] := by
  rintro rfl
  obtain ⟨result, trace, h⟩ := h
  rw [receiveAll_nil, Prod.mk.injEq] at h
  rw [h.1] at hp
  cases hp

/-- What a fetch has been served goes off from what it is to be served. -/
theorem IsServedBy.of_append {qs : List (List UInt8)} (h : st.IsServedBy ctx (rs ++ qs)) :
    (st.receiveAll ctx rs).1.IsServedBy ctx ((st.receiveAll ctx rs).2 ++ qs) := by
  obtain ⟨result, trace, h⟩ := h
  exact ⟨result, trace, by rw [← receiveAll_append]; exact h⟩

end Stage

/-! ## Whole fetches -/

namespace Source

variable {ctx : Context} {source : Source} {url : String} {first rest : List (List UInt8)}
variable {x : Exchange} {result : Except FetchError String}

theorem fetch_result_of_finished
    (hp : ((source.start ctx url).receiveAll ctx first).1.progress = .finished result) :
    (source.fetch ctx url first).result = result := by
  simp only [fetch, Stage.close, hp]

/-- A fetch that waits after the first responses comes to what the others make of it. -/
theorem fetch_append_of_waiting {trace : Trace}
    (hp : ((source.start ctx url).receiveAll ctx first).1.progress = .waiting x)
    (h : ((source.start ctx url).receiveAll ctx first).1.receiveAll ctx rest
      = (⟨.finished result, trace⟩, [])) :
    source.fetch ctx url (first ++ rest) = ⟨result, trace⟩ := by
  rw [fetch, Stage.receiveAll_append, Stage.receiveAll_snd_of_waiting _ _ hp, List.nil_append, h]
  rfl

end Source

end FragmentFeed
