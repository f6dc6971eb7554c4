/-!
# Configuration

What a loader may be told: the base that relative URLs are resolved against, and the filter of its
log.
-/

namespace FragmentFeed

/-- The configuration of a loader. -/
structure Config where
  baseUrl : Option String
  logFilter : Option String
  deriving DecidableEq, Repr

namespace Config

/-- Nothing is configured. -/
def default : Config := ⟨none, none⟩

/-- The filter that holds unless another is given: the loader's own events from INFO on, and the
warnings of what it stands on. -/
def defaultFilter : String := "info,hyper=warn,reqwest=warn"

/-- The filter in force. -/
def filter (c : Config) : String := c.logFilter.getD defaultFilter

end Config

end FragmentFeed
