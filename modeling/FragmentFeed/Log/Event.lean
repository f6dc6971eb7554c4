import FragmentFeed.Fetch.Error
import FragmentFeed.Log.Level

/-!
# Events

What the log tells of: that it begins, and how each load goes.
-/

namespace FragmentFeed.Log

/-- Something that happened. The URL of each is the loader's, as it was given. -/
inductive Event where
  /-- The log begins. -/
  | initialized
  /-- A load begins. -/
  | pending (url : String)
  /-- A final response has come. -/
  | fetched (status : Nat) (url : String)
  /-- A load has brought a text of so many bytes. -/
  | loaded (url : String) (bytes : Nat)
  /-- A load has failed. -/
  | failed (url : String) (error : FetchError)
  deriving DecidableEq, Repr

namespace Event

/-- The level. -/
def level : Event → Level
  | .initialized => .info
  | .pending _ => .debug
  | .fetched _ _ => .debug
  | .loaded _ _ => .debug
  | .failed _ _ => .error

/-- The target that filters go by. -/
def target : Event → String
  | .initialized => "fragment_loader::api::simple"
  | .pending _ => "fragment_loader::loader::fragment"
  | .fetched _ _ => "fragment_loader::source::http_source"
  | .loaded _ _ => "fragment_loader::loader::fragment"
  | .failed _ _ => "fragment_loader"

/-- The wording. -/
def message : Event → String
  | .initialized => "fragment loader tracing initialized"
  | .pending url => "fragment pending url=" ++ url
  | .fetched status url => "fragment fetch status=" ++ toString status ++ " url=" ++ url
  | .loaded url bytes => "fragment loaded url=" ++ url ++ " bytes=" ++ toString bytes
  | .failed url error => "Error loading fragment " ++ url ++ ": " ++ error.message

end Event

end FragmentFeed.Log
