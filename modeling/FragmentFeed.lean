import FragmentFeed.Log.Output
import FragmentFeed.Proofs.Config.Language
import FragmentFeed.Proofs.Fetch.Credentials
import FragmentFeed.Proofs.Fetch.Redirects
import FragmentFeed.Proofs.Session.Payload
import FragmentFeed.Proofs.Session.Accounts
import FragmentFeed.Proofs.Log.Precedence
import FragmentFeed.Proofs.Text.Pieces
import FragmentFeed.Proofs.Text.Utf8
import FragmentFeed.Proofs.Log.Governing
import FragmentFeed.Proofs.Log.Choice
import FragmentFeed.Proofs.Log.Spelling
import FragmentFeed.Proofs.Log.Writing
import FragmentFeed.Proofs.Text.Digit
import FragmentFeed.Proofs.Text.Percent
import FragmentFeed.Proofs.Url.Rooted
import FragmentFeed.Proofs.Fetch.WithinBase
import FragmentFeed.Proofs.Http.Head
import FragmentFeed.Proofs.Http.Chunked
import FragmentFeed.Proofs.Http.MediaType
import FragmentFeed.Proofs.Http.Framing
import FragmentFeed.Proofs.Session.Bodies
import FragmentFeed.Proofs.Url.Canonical
import FragmentFeed.Proofs.Http.Visible
import FragmentFeed.Proofs.Fetch.Injection
import FragmentFeed.Proofs.Url.RoundTrip
import FragmentFeed.Proofs.Fetch.Idempotence
