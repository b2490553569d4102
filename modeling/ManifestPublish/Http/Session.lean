import ManifestPublish.Http.MediaType
import ManifestPublish.Http.Request
import ManifestPublish.Http.Status
import ManifestPublish.Text.Charset

/-!
# Sessions

Requests go out one after the other, and each that goes out takes the next answer.

* `Answer` : what becomes of one request
* `Session` : the answers to come and the requests that went out
* `Session.send` : sends a request
* `Incoming.text` : the text of the answer to a request

A request that cannot go out (a scheme other than that of the web, a host that cannot be reached)
takes no answer and is not among the requests of the session.

Hosts are reached without encryption only, so a request to an `https` URL never goes out.  An answer
counts as it is: no redirect is followed.  There are no proxies, and time runs out before an answer
or not at all, never inside a body.
-/

set_option autoImplicit false

namespace ManifestPublish

/-- A complete answer. -/
structure Reply where
  status : Status
  contentType : Option String
  body : Bytes
  deriving DecidableEq, Repr

/-- What becomes of a request that goes out. -/
inductive Answer where
  | reply (reply : Reply)
  /-- An answer whose body ends before its promised length. -/
  | cutShort (status : Status)
  /-- The connection ends without an answer. -/
  | dropped
  /-- Nothing happens until time runs out. -/
  | silence
  deriving DecidableEq, Repr

/-- The answers to come and the requests that went out.  Encryption, redirects, proxies and stalls
inside a body are not modelled. -/
structure Session where
  /-- Whether hosts can be reached at all. -/
  isOnline : Bool
  answers : List Answer
  requests : List Request
  deriving DecidableEq, Repr

/-- An answer of which the status is read and the body is not. -/
structure Incoming where
  status : Status
  text : Except TransportFault String

/-- The text of a complete answer. -/
def Reply.text (r : Reply) : String :=
  if r.status.isBodiless then ""
  else Charset.decode (r.contentType.bind MediaType.charset?) r.body

/-- What a request gets: an answer whose body may fail, or none. -/
def Answer.receive : Answer → Except ConnectionFault Incoming
  | .reply r => .ok ⟨r.status, .ok r.text⟩
  | .cutShort status =>
    .ok ⟨status, if status.isBodiless then .ok "" else .error .truncatedBody⟩
  | .dropped => .error .closed
  | .silence => .error .timedOut

/-- The request as it goes out: neither user name and password of its URL nor a fragment are
sent. -/
def Request.sent (r : Request) : Request :=
  { r with url := r.url.withoutUserInfo.withoutFragment }

namespace Session

/-- A session in which nothing has been sent. -/
def ofAnswers (isOnline : Bool) (answers : List Answer) : Session := ⟨isOnline, answers, []⟩

/-- The session after a request went out. -/
def record (s : Session) (r : Request) : Session :=
  { s with answers := s.answers.tail, requests := s.requests ++ [r.sent] }

/-- Why a request cannot go out, if it cannot.  Hosts are reached without encryption only. -/
def obstacle? (s : Session) (url : Url) : Option TransportFault :=
  if url.scheme ≠ "http" && url.scheme ≠ "https" then some (.unsupportedScheme url.render)
  else if !url.isAddressable then some (.unaddressable url.render)
  else if url.scheme = "https" || !s.isOnline then some (.notSent url.render .unreachable)
  else none

/-- Sends a request: its answer, and the session after it. -/
def send (s : Session) (r : Request) : Except TransportFault Incoming × Session :=
  match s.obstacle? r.url with
  | some fault => (.error fault, s)
  | none =>
    let answer := s.answers.head?.getD .dropped
    (answer.receive.mapError (.notSent r.url.render ·), s.record r)

end Session

end ManifestPublish
