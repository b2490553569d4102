import ManifestPublish.File.SystemFault
import ManifestPublish.Url.Basic

/-!
# What can go wrong with a request

* `TransportFault` : why a request was not sent or its answer not read
* `TransportFault.message` : the fault in words
* `TransportFault.sources` : the faults behind it, outermost first
* `TransportFault.isTimeout` : whether time ran out
-/

set_option autoImplicit false

namespace ManifestPublish

/-- Why no answer came. -/
inductive ConnectionFault where
  /-- There is no way to the host. -/
  | unreachable
  /-- The connection ended before an answer. -/
  | closed
  /-- No answer in time. -/
  | timedOut
  deriving DecidableEq, Repr

/-- Why a request was not sent, or its answer not read. -/
inductive TransportFault where
  /-- The text is no URL. -/
  | malformedUrl (fault : UrlFault)
  /-- A header would hold a control character. -/
  | unusableHeader
  /-- The scheme of the URL is none of the web. -/
  | unsupportedScheme (url : String)
  /-- The URL cannot stand in a request, for a character of its host or for its length.  Which of
  the two it is, is not told. -/
  | unaddressable (url : String)
  /-- The request found no answer. -/
  | notSent (url : String) (fault : ConnectionFault)
  /-- The body ended before its promised length. -/
  | truncatedBody
  deriving DecidableEq, Repr

/-- The faults behind a connection that brought no answer. -/
def ConnectionFault.sources : ConnectionFault → List String
  | .unreachable =>
    ["client error (Connect)", "tcp connect error",
      SystemFault.message SystemFault.networkUnreachable]
  | .closed => ["client error (SendRequest)", "connection closed before message completed"]
  | .timedOut => ["operation timed out"]

namespace TransportFault

def message : TransportFault → String
  | .malformedUrl _ => "builder error"
  | .unusableHeader => "builder error"
  | .unsupportedScheme url => "builder error for url (" ++ url ++ ")"
  | .unaddressable url => "builder error for url (" ++ url ++ ")"
  | .notSent url _ => "error sending request for url (" ++ url ++ ")"
  | .truncatedBody => "error decoding response body"

/-- The faults behind it, outermost first. -/
def sources : TransportFault → List String
  | .malformedUrl fault => [fault.message]
  | .unusableHeader => ["failed to parse header value"]
  | .unsupportedScheme _ => ["URL scheme is not allowed"]
  | .unaddressable _ => ["Parsed Url is not a valid Uri"]
  | .notSent _ fault => fault.sources
  | .truncatedBody =>
    ["error reading a body from connection", "end of file before message length reached"]

def isTimeout : TransportFault → Bool
  | .notSent _ .timedOut => true
  | _ => false

end TransportFault

end ManifestPublish
