import FragmentFeed.Config.Basic
import FragmentFeed.Fetch.Context
import FragmentFeed.Fetch.Source
import FragmentFeed.Http.Body
import FragmentFeed.Http.MediaType
import FragmentFeed.Http.Request
import FragmentFeed.Log.Event

/-!
# Exchanges

A fetch as requests and the responses to them. A fetch begins with a request and waits; each response
either ends it or, being a redirect, makes it send another request and wait again. So a fetch can be
carried on response by response, or all at once when the responses are at hand.

What is seen of it from outside, calls of a source, requests and events, is kept in the order in which it
happens.
-/

namespace FragmentFeed

open Http Text

/-- Something that is seen from outside. -/
inductive Sight where
  /-- A source is called for the text of a URL. -/
  | call (url : String)
  /-- A request comes to the server. -/
  | request (request : Request)
  | event (event : Log.Event)
  deriving DecidableEq, Repr

/-- What is seen from outside, in order. -/
abbrev Trace : Type := List Sight

namespace Trace

/-- The calls among what is seen. -/
def calls (t : Trace) : List String :=
  t.filterMap fun
    | .call url => some url
    | _ => none

/-- The requests. -/
def requests (t : Trace) : List Request :=
  t.filterMap fun
    | .request r => some r
    | _ => none

/-- The events. -/
def events (t : Trace) : List Log.Event :=
  t.filterMap fun
    | .event e => some e
    | _ => none

end Trace

/-- A request that waits for its response. -/
structure Exchange where
  /-- The URL as it was given. -/
  given : String
  /-- The URL first asked for. -/
  origin : Url
  request : Request
  /-- How many redirects led here. -/
  redirects : Nat
  deriving DecidableEq, Repr

/-- How far a fetch has come. -/
inductive Progress where
  | waiting (exchange : Exchange)
  | finished (result : Except FetchError String)
  deriving Repr

/-- How far a fetch has come, and what has been seen of it on the way. -/
structure Stage where
  progress : Progress
  trace : Trace
  deriving Repr

namespace Stage

/-- A fetch that ends without being seen. -/
def fail (e : FetchError) : Stage := ⟨.finished (.error e), []⟩

end Stage

namespace Exchange

/-- How many redirects are followed. -/
def redirectLimit : Nat := 10

/-- Sends the request, if there is a server to take it. -/
def send (ctx : Context) (x : Exchange) : Stage :=
  if ctx.reaches x.request.url then ⟨.waiting x, [.request x.request]⟩
  else .fail (.transport (.unanswered x.origin))

/-- Where a response redirects to from a URL: its first location, joined to that URL, if it can be
written as a request URI. -/
def redirect? (u : Url) (r : Response) : Option Url :=
  if [301, 302, 303, 307, 308].contains r.status then do
    let location ← (valuesOf "location" r.headers).head?
    let text ← Utf8.decode? location
    let next ← (Url.parse (some u) text).toOption
    if isUri next then some next else none
  else none

/-- Whether a status is one of success. -/
def isSuccess (status : Nat) : Bool := 200 ≤ status && status < 300

/-- What a final response brings. -/
def resultOf (ctx : Context) (r : Response) : Except FetchError String :=
  if isSuccess r.status then
    match r.body? with
    | some body => .ok (String.ofList (r.charset.decode ctx.tables body))
    | none => .error .bodyRead
  else .error (.httpStatus r.status)

/-- Goes on after a redirect. -/
def follow (ctx : Context) (x : Exchange) (next : Url) : Stage :=
  if redirectLimit ≤ x.redirects then
    .fail (.transport (.redirectLimit x.request.url.withoutUserInfo))
  else if !isWebScheme next.scheme then .fail (.transport (.unbuildable next.withoutUserInfo))
  else
    ({ x with request := x.request.redirected next, redirects := x.redirects + 1 } : Exchange).send ctx

/-- Goes on with a response, or with what there was of it when the connection was closed. -/
def receive (ctx : Context) (x : Exchange) (bytes : List UInt8) : Stage :=
  match Response.parse? bytes with
  | none => .fail (.transport (.unanswered x.origin))
  | some r =>
    match redirect? x.request.url r with
    | some next => x.follow ctx next
    | none => ⟨.finished (resultOf ctx r), [.event (.fetched r.status x.given)]⟩

end Exchange

namespace Stage

/-- Goes on with responses as long as the fetch waits for one; gives back those that are left. -/
def receiveAll (ctx : Context) (s : Stage) : List (List UInt8) → Stage × List (List UInt8)
  | [] => (s, [])
  | bytes :: more =>
    match s.progress with
    | .finished _ => (s, bytes :: more)
    | .waiting x =>
      let t := x.receive ctx bytes
      receiveAll ctx ⟨t.progress, s.trace ++ t.trace⟩ more

/-- Ends the fetch: if it still waits, the connection is closed on it. -/
def close (s : Stage) : Except FetchError String :=
  match s.progress with
  | .finished r => r
  | .waiting x => .error (.transport (.unanswered x.origin))

end Stage

namespace Source

/-- Begins to fetch a URL. -/
def start (ctx : Context) (s : Source) (url : String) : Stage :=
  match s.resolve url with
  | .error e => .fail e
  | .ok u =>
    let request := Request.first u
    if isRequestable request.url then
      ({ given := url, origin := request.url, request := request, redirects := 0 } : Exchange).send ctx
    else .fail (.transport (.unbuildable request.url))

/-- The outcome of a whole fetch. -/
structure Fetched where
  result : Except FetchError String
  trace : Trace
  deriving Repr

/-- Fetches a URL from a server that has the responses at hand and closes the connection when it has
no more. -/
def fetch (ctx : Context) (s : Source) (url : String) (responses : List (List UInt8)) : Fetched :=
  let stage := ((s.start ctx url).receiveAll ctx responses).1
  ⟨stage.close, stage.trace⟩

/-- The source that a configuration asks for. -/
def ofConfig (c : Config) : Except FetchError Source :=
  match c.baseUrl with
  | some base => ofBase base
  | none => .ok absolute

end Source

end FragmentFeed
