import ManifestPublish.Http.Fault
import ManifestPublish.Text.Base64
import ManifestPublish.Url.Parser

/-!
# Requests

* `Part` : a file as the one part of a form with several parts
* `Request` : a request as it is sent
* `Request.prepare` : a request to the URL that a text stands for
* `basicAuthorization`, `bearerAuthorization` : the two ways in which a request says who sends it
-/

set_option autoImplicit false

namespace ManifestPublish

/-- What a request asks for. -/
inductive Method where
  | post
  | put
  deriving DecidableEq, Repr

def Method.name : Method → String
  | .post => "POST"
  | .put => "PUT"

/-- A file as the one part of a form with several parts. -/
structure Part where
  field : String
  fileName : String
  mediaType : String
  contents : Bytes
  deriving DecidableEq, Repr

/-- A character of a file name as it stands between quotes: a backslash goes before quotes,
backslashes and line ends. -/
def escapeFileNameChar (c : Char) : List Char :=
  if c = '\\' || c = '"' || c = '\r' || c = '\n' then ['\\', c] else [c]

/-- A file name as it stands between quotes. -/
def escapeFileName (name : String) : String :=
  String.ofList (name.toList.flatMap escapeFileNameChar)

/-- The two header lines of a part. -/
def Part.header (p : Part) : String :=
  "Content-Disposition: form-data; name=\"" ++ p.field ++ "\"; filename=\"" ++
    escapeFileName p.fileName ++ "\"\r\nContent-Type: " ++ p.mediaType

/-- What a request carries. -/
inductive RequestBody where
  | form (text : String)
  | multipart (part : Part)
  deriving DecidableEq, Repr

/-- The media type of a body.  The boundary between parts is drawn at random and not told. -/
def RequestBody.contentType : RequestBody → String
  | .form _ => "application/x-www-form-urlencoded"
  | .multipart _ => "multipart/form-data; boundary=*"

/-- A request as it is sent. -/
structure Request where
  method : Method
  url : Url
  authorization : List String
  body : RequestBody
  deriving DecidableEq, Repr

/-- Says who sends the request by a name and a password. -/
def basicAuthorization (name password : String) : String :=
  "Basic " ++ Base64.encode (Utf8.encode (name ++ ":" ++ password))

/-- Says who sends the request by a token. -/
def bearerAuthorization (token : String) : String := "Bearer " ++ token

/-- Whether a text can stand in a header: no controls but the tab. -/
def isHeaderValue (s : String) : Bool :=
  s.toList.all fun c => c = '\t' || (0x20 ≤ c.toNat && c.toNat ≠ 0x7F)

/-- The text behind the escapes of a part of a URL, if it is UTF-8. -/
def unescape? (s : String) : Option String := Utf8.decode? (Percent.decode (Utf8.encode s))

/-- User name and password of a URL, where there are any and the name can be read.  A password
that cannot be read counts as none. -/
def Url.userInfo? (u : Url) : Option (String × Option String) := do
  let name ← unescape? u.username
  let password := u.password.bind unescape?
  if name = "" && password = none then none else some (name, password)

def Url.hasHost (u : Url) : Bool :=
  match u.host with
  | none => false
  | some host => host ≠ .domain ""

/-- A request to the URL that a text stands for.  User name and password of the URL are taken out of
it and sent before the sender's own authorization. -/
def Request.prepare (method : Method) (address authorization : String) (body : RequestBody) :
    Except TransportFault Request :=
  match Url.parse address with
  | .error fault => .error (.malformedUrl fault)
  | .ok url =>
    if !url.hasHost then .error (.unsupportedScheme url.render)
    else if !isHeaderValue authorization then .error .unusableHeader
    else
      match url.userInfo? with
      | some (name, password) =>
        .ok ⟨method, url.withoutUserInfo,
          [basicAuthorization name (password.getD ""), authorization], body⟩
      | none => .ok ⟨method, url, [authorization], body⟩

end ManifestPublish
