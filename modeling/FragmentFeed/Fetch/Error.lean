import FragmentFeed.Url.Parser

/-!
# Fetch errors

Why the text of a fragment could not be fetched. The causes follow the stages of a fetch: the URL is
resolved, a request is sent, the status of the response is looked at, its body is read.
-/

namespace FragmentFeed

/-- Why no response came. The URL in each cause is the one that its message shows. -/
inductive TransportError where
  /-- The URL is not one that a request can be made for. -/
  | unbuildable (url : Url)
  /-- The request could not be sent, or no proper response came back. -/
  | unanswered (url : Url)
  /-- There were too many redirects. -/
  | redirectLimit (url : Url)
  deriving DecidableEq, Repr

/-- The wording of a cause. -/
def TransportError.message : TransportError → String
  | .unbuildable u => "builder error for url (" ++ String.ofList u.toText ++ ")"
  | .unanswered u => "error sending request for url (" ++ String.ofList u.toText ++ ")"
  | .redirectLimit u => "error following redirect for url (" ++ String.ofList u.toText ++ ")"

/-- Why a fetch failed. -/
inductive FetchError where
  /-- The text given is not a URL, nor a reference into the base. -/
  | invalidUrl (url reason : String)
  | transport (cause : TransportError)
  /-- The status is not one of success. -/
  | httpStatus (status : Nat)
  /-- The body broke off. -/
  | bodyRead
  deriving DecidableEq, Repr

/-- The wording of an error. -/
def FetchError.message : FetchError → String
  | .invalidUrl url reason => "invalid fragment url " ++ url ++ ": " ++ reason
  | .transport cause => "request failed: " ++ cause.message
  | .httpStatus status => "HTTP error status: " ++ toString status
  | .bodyRead => "failed to read response body: error decoding response body"

/-- The status that an error tells of. -/
def FetchError.status? : FetchError → Option Nat
  | .httpStatus status => some status
  | _ => none

end FragmentFeed
