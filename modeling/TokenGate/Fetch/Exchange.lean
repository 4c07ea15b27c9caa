import TokenGate.Fetch.Fetcher
import TokenGate.Key.Set
import TokenGate.Url.Join

/-! # Fetching a key document

One fetch is a request, the redirects that follow it, and the body of the last answer. The body is
read in chunks and never beyond the limit. What the network does is a parameter: it reacts to every
request, which it may refuse, ignore, drop or answer. -/

namespace TokenGate.Fetch

/-- How a body ends. -/
inductive BodyEnd where
  | complete
  /-- The connection ends before the body does. -/
  | broken
  /-- Nothing more comes. -/
  | stalled
  deriving DecidableEq, Repr

/-- An answer to a request, its body as it arrives. -/
structure Answer where
  status : Nat
  location : Option String := none
  /-- The length that the answer announces. -/
  announced : Option Nat := none
  chunks : List (List UInt8) := []
  ending : BodyEnd := .complete
  deriving Repr

/-- What becomes of a request. -/
inductive Reaction where
  /-- There is no connection, so nothing is sent. -/
  | refused
  /-- The connection is closed without an answer. -/
  | dropped
  /-- There never is an answer. -/
  | silent
  | answered (a : Answer)
  deriving Repr

/-- How the network reacts to the requests of a fetch, by number and URL. -/
abbrev Network := Nat → Url → Reaction

/-- The network in which nobody listens. -/
def Network.unreachable : Network := fun _ _ => .refused

/-- The buffer takes up a chunk, if that fits. -/
def takeUp (f : Fetcher) (buffer chunk : List UInt8) : Except FetchError (List UInt8) :=
  if f.limit.toNat < buffer.length + chunk.length then .error (.bodyTooLarge f.limit)
  else .ok (buffer ++ chunk)

/-- The buffer behind some chunks, one taken up after the other. -/
def collect (f : Fetcher) (buffer : List UInt8) (chunks : List (List UInt8)) :
    Except FetchError (List UInt8) :=
  chunks.foldlM (takeUp f) buffer

/-- What the end of a body makes of the buffer. -/
def BodyEnd.close (f : Fetcher) (buffer : List UInt8) : BodyEnd → Except FetchError (List UInt8)
  | complete => .ok buffer
  | broken => .error .transport
  | stalled => .error (.timeout f.timeout)

/-- The octets of a body, behind those that the buffer holds. -/
def readBody (f : Fetcher) (ending : BodyEnd) (buffer : List UInt8) (chunks : List (List UInt8)) :
    Except FetchError (List UInt8) :=
  (collect f buffer chunks).bind fun buffer => ending.close f buffer

def document (f : Fetcher) (a : Answer) : Except FetchError (List UInt8) :=
  if a.status < 200 || 300 ≤ a.status then .error (.httpStatus a.status.toUInt16)
  else if a.announced.any fun length => f.limit.toNat < length then .error (.bodyTooLarge f.limit)
  else readBody f a.ending [] a.chunks

def requestRecord (f : Fetcher) : LogRecord :=
  ⟨.debug, "Fetching JWKS from endpoint", [("jwks_uri", f.endpoint.write)]⟩

def fetchedRecord (f : Fetcher) (set : KeySet) : LogRecord :=
  ⟨.info, "Fetched JWKS", [("jwks_uri", f.endpoint.write), ("key_count", toString set.size)]⟩

/-- The key set of an answer that is read at a time, with what reading it logs. -/
def receive (f : Fetcher) (a : Answer) (time : SystemTime) : Except FetchError KeySet × Log :=
  match document f a with
  | .error reason => (.error reason, [])
  | .ok body =>
    match KeySet.ofDocument body time with
    | (.ok set, log) => (.ok set, log ++ [fetchedRecord f set])
    | (.error reason, log) => (.error reason, log)

/-- The statuses that send a request elsewhere. -/
def redirectStatuses : List Nat := [301, 302, 303, 307, 308]

/-- Where an answer sends the request. -/
def redirect? (url : Url) (a : Answer) : Option Url :=
  if redirectStatuses.contains a.status then
    a.location.bind fun reference => (url.join reference).toOption
  else none

/-- How many redirects are followed. -/
def maxRedirects : Nat := 10

/-- Requests are made to web servers only. -/
def isWeb (url : Url) : Bool := url.scheme == "http" || url.scheme == "https"

/-- The URLs to which requests are sent from one on, and the last answer. -/
def follow (f : Fetcher) (network : Network) (redirects count : Nat) (url : Url) :
    List Url × Except FetchError Answer :=
  if !isWeb url then ([], .error .transport)
  else
    match network count url with
    | .refused => ([], .error .transport)
    | .dropped => ([url], .error .transport)
    | .silent => ([url], .error (.timeout f.timeout))
    | .answered a =>
      match redirect? url a with
      | none => ([url], .ok a)
      | some next =>
        match redirects with
        | 0 => ([url], .error .transport)
        | redirects + 1 =>
          let (urls, result) := follow f network redirects (count + 1) next
          (url :: urls, result)

def answer (f : Fetcher) (network : Network) : List Url × Except FetchError Answer :=
  follow f network maxRedirects 0 f.endpoint

/-- A fetch: the URLs to which requests are sent, the key set or why there is none, and the log. A
document that arrives is read at the given time. -/
def run (f : Fetcher) (network : Network) (time : SystemTime := 0) :
    List Url × (Except FetchError KeySet × Log) :=
  let (urls, last) := answer f network
  match last with
  | .error reason => (urls, .error reason, [requestRecord f])
  | .ok a =>
    let (result, log) := receive f a time
    (urls, result, requestRecord f :: log)

def accept : String := "application/json"

def userAgent : String := "keystone-auth/0.4.0"

def requestLine (url : Url) : String := "GET " ++ url.target ++ " HTTP/1.1"

end TokenGate.Fetch
