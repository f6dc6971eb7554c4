import FragmentFeed.Loader.Basic
import FragmentFeed.Proofs.Fetch.Stages

/-!
# Loads as fetches

A load of a web loader is a fetch of its URL, of which the log tells when it begins and when it has
ended. Nothing else of the loader plays a part in it.
-/

namespace FragmentFeed.Loader

/-- What is seen of a load whose fetch goes so: it begins, the source does its work, and the load tells
how it has ended. -/
def traceOf (l : Loader) (f : Source.Fetched) : Trace :=
  l.opening ++ f.trace ++ l.closing (.ofResult f.result)

variable {ctx : Context} {l : Loader} {source : Source} {rs : List (List UInt8)}
variable {reply : Option Reply}

section launch

variable (ho : l.origin = .web source)
include ho

theorem launch_state :
    (l.launch ctx ⟨reply, rs⟩).state
      = ofProgress ((source.start ctx l.url).receiveAll ctx rs).1.progress := by
  simp only [launch, ho]

theorem launch_trace :
    (l.launch ctx ⟨reply, rs⟩).trace
      = l.opening ++ ((source.start ctx l.url).receiveAll ctx rs).1.trace := by
  simp only [launch, ho]

/-- A load that may not wait comes back with the result of the fetch. -/
theorem launch_reply? :
    (l.launch ctx ⟨reply, rs⟩).reply? = some (.ofResult (source.fetch ctx l.url rs).result) := by
  rw [Launch.reply?, launch_state ho, Source.fetch, Stage.close]
  cases ((source.start ctx l.url).receiveAll ctx rs).1.progress with
  | waiting x => rfl
  | finished result => rfl

/-- **A load run to its end does what the fetch does.** -/
theorem loadInPlace_eq :
    l.loadInPlace ctx ⟨reply, rs⟩
      = (l.accept (.ofResult (source.fetch ctx l.url rs).result),
        l.traceOf (source.fetch ctx l.url rs)) := by
  simp only [loadInPlace, launch_reply? ho, launch_trace ho, traceOf]
  rfl

end launch

end FragmentFeed.Loader
