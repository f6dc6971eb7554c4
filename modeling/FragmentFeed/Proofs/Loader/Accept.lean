import FragmentFeed.Proofs.Session.Run

/-!
# What replies make of a loader

Replies reach a loader one after the other. Of all of them only the texts count: their number is the
version, and the last one is the content. The URL and the origin stay as they are.
-/

namespace FragmentFeed.Loader

variable (l : Loader) (r : Reply) (rs : List Reply)

@[simp] theorem acceptAll_nil : l.acceptAll [] = l := rfl

@[simp] theorem acceptAll_cons : l.acceptAll (r :: rs) = (l.accept r).acceptAll rs := rfl

theorem acceptAll_append (qs : List Reply) :
    l.acceptAll (rs ++ qs) = (l.acceptAll rs).acceptAll qs := List.foldl_append

@[simp] theorem accept_url : (l.accept r).url = l.url := by cases r <;> rfl

@[simp] theorem accept_origin : (l.accept r).origin = l.origin := by cases r <;> rfl

@[simp] theorem acceptAll_url : (l.acceptAll rs).url = l.url := by
  induction rs generalizing l with
  | nil => rfl
  | cons r rs ih => rw [acceptAll_cons, ih, accept_url]

@[simp] theorem acceptAll_origin : (l.acceptAll rs).origin = l.origin := by
  induction rs generalizing l with
  | nil => rfl
  | cons r rs ih => rw [acceptAll_cons, ih, accept_origin]

/-- What is seen of a reply depends on the URL only. -/
theorem closing_congr {l l' : Loader} (h : l'.url = l.url) (r : Reply) :
    l'.closing r = l.closing r := by
  cases r with
  | text content => rw [closing, closing, eventsOf, eventsOf, h]
  | failure error => rw [closing, closing, eventsOf, eventsOf, h]
  | panic message => rfl

/-- **The version counts the texts.** -/
theorem acceptAll_version :
    (l.acceptAll rs).version = l.version + (rs.filterMap Reply.text?).length := by
  induction rs generalizing l with
  | nil => rfl
  | cons r rs ih =>
    rw [acceptAll_cons, ih]
    cases r with
    | text content => simp [accept, Reply.text?]; omega
    | failure error => rfl
    | panic message => rfl

/-- **The content is the last text.** -/
theorem acceptAll_content :
    (l.acceptAll rs).content = (rs.filterMap Reply.text?).getLastD l.content := by
  induction rs generalizing l with
  | nil => rfl
  | cons r rs ih =>
    rw [acceptAll_cons, ih]
    cases r with
    | text content =>
      show _ = (content :: rs.filterMap Reply.text?).getLastD l.content
      rw [List.getLastD_cons]; rfl
    | failure error => rfl
    | panic message => rfl

end FragmentFeed.Loader
