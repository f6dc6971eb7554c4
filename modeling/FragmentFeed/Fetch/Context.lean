import FragmentFeed.Text.Charset
import FragmentFeed.Url.Basic

/-!
# What fetches depend on

The servers, the way to them and the tables of charsets are no part of the program. They come in as a
`Context`, and what holds of fetches holds in every one.
-/

namespace FragmentFeed

/-- What a fetch finds around it. -/
structure Context where
  /-- Whether a request for a URL comes to a server. -/
  reaches : Url → Bool
  /-- Whether a proxy carries the requests of `http`, which then tell it the whole URL. -/
  proxied : Bool
  /-- The charsets that are read by tables. -/
  tables : Text.Charset.Tables

namespace Context

/-- No server is reached. -/
def down : Context := ⟨fun _ => false, true, fun _ => none⟩

/-- A proxy stands for all servers of `http`, and no other is reached. -/
def plain : Context := ⟨fun u => u.scheme = "http".toList, true, fun _ => none⟩

end Context

end FragmentFeed
