import FragmentFeed.Files
import FragmentFeed.Json.Fault

/-!
# Configuration errors

Why there is no configuration. A message is told as a chain, from what was being done to what went
wrong.
-/

namespace FragmentFeed

/-- Why there is no configuration. -/
inductive ConfigError where
  /-- The text spells none. -/
  | malformed (cause : Json.Cause) (place : Json.Place)
  /-- The file named cannot be read. -/
  | unreadable (name : String) (cause : ReadError)
  /-- What stands in the file named spells none. -/
  | malformedFile (name : String) (cause : Json.Cause) (place : Json.Place)
  deriving DecidableEq, Repr

namespace ConfigError

/-- The last two links of the chain where a text spells no configuration. -/
def textChain (cause : Json.Cause) (place : Json.Place) : List String :=
  ["parse loader config", cause.message ++ place.message]

/-- The messages, outermost first. -/
def chain : ConfigError → List String
  | .malformed cause place => textChain cause place
  | .unreadable name cause => ["read loader config " ++ name, cause.message]
  | .malformedFile name cause place => ("load " ++ name) :: textChain cause place

/-- The outermost message. -/
def message (e : ConfigError) : String := e.chain.headD ""

end ConfigError

end FragmentFeed
