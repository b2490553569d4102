import ManifestPublish.Url.Host

/-!
# URLs

* `Url` : the parts of a URL
* `Url.render` : its one written form
* `Url.withoutUserInfo`, `Url.withoutFragment` : the URL less what is not sent on the request line
* `Url.isAddressable` : whether a request can be addressed to it
-/

set_option autoImplicit false

namespace ManifestPublish

/-- The path of a URL. -/
inductive UrlPath where
  /-- Segments, each after a slash. -/
  | segments (segments : List String)
  /-- One text without structure, for schemes such as `mailto`. -/
  | flat (text : String)
  deriving DecidableEq, Repr

/-- The parts of a URL, each in its written form. -/
structure Url where
  scheme : String
  username : String
  password : Option String
  host : Option Host
  /-- The port, unless it is the one that the scheme implies. -/
  port : Option Nat
  path : UrlPath
  query : Option String
  fragment : Option String
  deriving DecidableEq, Repr

def UrlPath.render : UrlPath → String
  | .segments names => String.join (names.map ("/" ++ ·))
  | .flat text => text

namespace Url

/-- The port that a scheme implies. -/
def defaultPort? : String → Option Nat
  | "http" => some 80
  | "https" => some 443
  | "ws" => some 80
  | "wss" => some 443
  | "ftp" => some 21
  | _ => none

/-- Schemes whose URLs always have a domain name for a host. -/
def isSpecial (scheme : String) : Bool := (defaultPort? scheme).isSome

/-- User name and password with the sign that ends them. -/
def renderUserInfo (u : Url) : String :=
  match u.password with
  | some password => u.username ++ ":" ++ password ++ "@"
  | none => if u.username = "" then "" else u.username ++ "@"

/-- Everything between the scheme and the path. -/
def renderAuthority (u : Url) : String :=
  match u.host with
  | some host =>
    "//" ++ u.renderUserInfo ++ host.render ++
      (match u.port with
        | some port => ":" ++ toString port
        | none => "")
  | none =>
    match u.path with
    | .segments ("" :: _ :: _) => "/."
    | _ => ""

/-- The written form of a URL. -/
def render (u : Url) : String :=
  u.scheme ++ ":" ++ u.renderAuthority ++ u.path.render ++
    (match u.query with
      | some query => "?" ++ query
      | none => "") ++
    (match u.fragment with
      | some fragment => "#" ++ fragment
      | none => "")

def withoutUserInfo (u : Url) : Url := { u with username := "", password := none }

def withoutFragment (u : Url) : Url := { u with fragment := none }

/-- Characters that a request can carry in the name of its host. -/
def isHostCharacter (c : Char) : Bool :=
  c.isAlphanum || c = '!' || c = '$' || c = '&' || c = '\'' || c = '(' || c = ')' || c = '*' ||
    c = '+' || c = ',' || c = '-' || c = '.' || c = ';' || c = '=' || c = '_' || c = '~'

def maxRequestLength : Nat := 65534

/-- Whether a request can be addressed to the URL. -/
def isAddressable (u : Url) : Bool :=
  (match u.host with
    | some (.domain name) => name.toList.all isHostCharacter
    | _ => true) &&
  u.render.utf8ByteSize ≤ maxRequestLength

end Url

end ManifestPublish
