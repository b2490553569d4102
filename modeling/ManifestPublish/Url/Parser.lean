import ManifestPublish.Url.Basic

/-!
# Reading a URL

* `Url.parse` : the URL that a text stands for, on its own and not relative to another

The text is read as by the URL standard: controls and spaces at the ends and tabs and line ends
anywhere are dropped; the scheme and the host get small letters; a backslash counts as a slash
under a scheme with hosts; `.` and `..`, also escaped, are steps; what is not allowed in a part is
escaped; the port that the scheme implies is left out.
-/

set_option autoImplicit false

namespace ManifestPublish.Url

/-! ## The text without what is dropped -/

def isEdge (c : Char) : Bool := c.toNat ≤ 0x20

def isDropped (c : Char) : Bool := c = '\t' || c = '\n' || c = '\r'

/-- The text that is read. -/
def significant (cs : List Char) : List Char :=
  (((cs.dropWhile isEdge).reverse.dropWhile isEdge).reverse).filter (!isDropped ·)

/-! ## Scheme -/

def isSchemeCharacter (c : Char) : Bool := c.isAlphanum || c = '+' || c = '-' || c = '.'

/-- The scheme in small letters, and what follows its colon. -/
def readScheme? (cs : List Char) : Option (List Char × List Char) :=
  match cs with
  | [] => none
  | c :: _ =>
    if c.isAlpha then
      match cs.dropWhile isSchemeCharacter with
      | ':' :: rest => some ((cs.takeWhile isSchemeCharacter).map Char.toLower, rest)
      | _ => none
    else none

/-! ## User name, host and port -/

/-- A slash, or under a special scheme a backslash. -/
def isSlash (special : Bool) (c : Char) : Bool := c = '/' || (special && c = '\\')

/-- What ends the part before the path. -/
def endsAuthority (special : Bool) (c : Char) : Bool := isSlash special c || c = '?' || c = '#'

/-- Cuts at the last `@`: what stands before it, if there is one, and what follows. -/
def cutAtLastAt (cs : List Char) : Option (List Char) × List Char :=
  let after := (cs.reverse.takeWhile (· ≠ '@')).reverse
  match cs.reverse.dropWhile (· ≠ '@') with
  | [] => (none, cs)
  | _ :: before => (some before.reverse, after)

/-- The user name and the password of a text before an `@`. -/
def readUserInfo (cs : List Char) : String × Option String :=
  let username := String.ofList (Percent.encode Percent.inUserInfo (cs.takeWhile (· ≠ ':')))
  match cs.dropWhile (· ≠ ':') with
  | [] => (username, none)
  | _ :: [] => (username, none)
  | _ :: password => (username, some (String.ofList (Percent.encode Percent.inUserInfo password)))

/-- Cuts off the text of a host: up to a colon outside square brackets. -/
def cutHost : Bool → List Char → List Char × List Char
  | _, [] => ([], [])
  | inBrackets, c :: cs =>
    if c = ':' && !inBrackets then ([], c :: cs)
    else
      let inBrackets := if c = '[' then true else if c = ']' then false else inBrackets
      let (host, rest) := cutHost inBrackets cs
      (c :: host, rest)

def readPortDigits : Nat → List Char → Except UrlFault Nat
  | port, [] => .ok port
  | port, c :: cs =>
    if c.isDigit then
      let port := port * 10 + (c.toNat - 48)
      if port ≤ 65535 then readPortDigits port cs else .error .invalidPort
    else .error .invalidPort

/-- The port after a host, unless there is none or the scheme implies it. -/
def readPort (scheme : String) : List Char → Except UrlFault (Option Nat)
  | ':' :: [] => .ok none
  | ':' :: digits => (readPortDigits 0 digits).map fun port =>
      if defaultPort? scheme = some port then none else some port
  | _ => .ok none

/-- The parts before the path. -/
structure Authority where
  username : String
  password : Option String
  host : Option Host
  port : Option Nat

/-- Reads the text between the two slashes and the path. -/
def readAuthority (scheme : String) (cs : List Char) : Except UrlFault Authority :=
  let special := isSpecial scheme
  let (userInfo?, place) := cutAtLastAt cs
  let (username, password) :=
    match userInfo? with
    | some userInfo => readUserInfo userInfo
    | none => ("", none)
  let (hostText, portText) := cutHost false place
  if special then
    if hostText = [] then .error .emptyHost
    else do
      let host ← Host.parse hostText
      let port ← readPort scheme portText
      .ok ⟨username, password, some host, port⟩
  else if hostText = [] then
    if portText ≠ [] || userInfo? = some [] && place ≠ [] || username ≠ "" || password.isSome then
      .error .emptyHost
    else .ok ⟨"", none, some (.domain ""), none⟩
  else do
    let host ← Host.parsePlain hostText
    let port ← readPort scheme portText
    .ok ⟨username, password, some host, port⟩

/-! ## Path, query and fragment -/

/-- A dot at the front, plain or escaped, and what follows. -/
def dropDot? : List Char → Option (List Char)
  | '.' :: cs => some cs
  | '%' :: '2' :: 'e' :: cs => some cs
  | '%' :: '2' :: 'E' :: cs => some cs
  | _ => none

/-- The segment that stays. -/
def isSingleDot (segment : List Char) : Bool := dropDot? segment = some []

/-- The segment that goes up. -/
def isDoubleDot (segment : List Char) : Bool :=
  match dropDot? segment with
  | some rest => isSingleDot rest
  | none => false

/-- Names such as `C:`, which no step upwards removes. -/
def isDriveLetter : List Char → Bool
  | [letter, mark] => letter.isAlpha && (mark = ':' || mark = '|')
  | _ => false

/-- Goes up from a path that is held last segment first. -/
def shorten : List (List Char) → List (List Char)
  | [] => []
  | segment :: path => if isDriveLetter segment then segment :: path else path

/-- Walks along segments; `path` is held last segment first.  A path that ends in a step ends in a
slash. -/
def walkSegments : List (List Char) → List (List Char) → List (List Char)
  | path, [] => path.reverse
  | path, segment :: rest =>
    let path :=
      if isDoubleDot segment then
        if rest = [] then [] :: shorten path else shorten path
      else if isSingleDot segment then
        if rest = [] then [] :: path else path
      else segment :: path
    walkSegments path rest

/-- The segments of a path, which starts after its first slash. -/
def readSegments (special : Bool) (cs : List Char) : List String :=
  let segments := (cs.splitOnP (isSlash special)).map (Percent.encode Percent.inPath)
  (walkSegments [] segments).map String.ofList

def endsPath (c : Char) : Bool := c = '?' || c = '#'

/-- The query and the fragment after a path. -/
def readTail (special : Bool) (cs : List Char) : Option String × Option String :=
  let queryText := cs.takeWhile (· ≠ '#')
  let set := if special then Percent.inSpecialQuery else Percent.inQuery
  let query? :=
    match queryText with
    | '?' :: query => some (String.ofList (Percent.encode set query))
    | _ => none
  let fragment? :=
    match cs.dropWhile (· ≠ '#') with
    | _ :: fragment => some (String.ofList (Percent.encode Percent.inFragment fragment))
    | [] => none
  (query?, fragment?)

/-! ## The whole -/

/-- Reads what follows the two slashes after a scheme. -/
def readHierarchical (scheme : String) (cs : List Char) : Except UrlFault Url := do
  let special := isSpecial scheme
  let authority ← readAuthority scheme (cs.takeWhile (!endsAuthority special ·))
  let rest := cs.dropWhile (!endsAuthority special ·)
  let pathText := rest.takeWhile (!endsPath ·)
  let (query, fragment) := readTail special (rest.dropWhile (!endsPath ·))
  let segments :=
    match pathText with
    | [] => if special then [""] else []
    | _ :: path => readSegments special path
  .ok ⟨scheme, authority.username, authority.password, authority.host, authority.port,
    .segments segments, query, fragment⟩

/-- Reads what follows a scheme that is not special. -/
def readPlain (scheme : String) (cs : List Char) : Except UrlFault Url :=
  match cs with
  | '/' :: '/' :: rest => readHierarchical scheme rest
  | _ =>
    let pathText := cs.takeWhile (!endsPath ·)
    let (query, fragment) := readTail false (cs.dropWhile (!endsPath ·))
    let path : UrlPath :=
      match pathText with
      | '/' :: path => .segments (readSegments false path)
      | path => .flat (String.ofList (Percent.encode Percent.isControl path))
    .ok ⟨scheme, "", none, none, none, path, query, fragment⟩

/-- The host of a file URL: none for the machine itself. -/
def readFileHost (cs : List Char) : Except UrlFault (Option Host) :=
  if cs = [] then .ok none
  else (Host.parse cs).map fun host => if host = .domain "localhost" then none else some host

/-- Reads what follows the scheme of a file URL. -/
def readFile (cs : List Char) : Except UrlFault Url := do
  let slashes := cs.takeWhile (isSlash true)
  let (hostText, rest) :=
    if 2 ≤ slashes.length then
      let after := cs.drop 2
      let host := after.takeWhile (!endsAuthority true ·)
      if isDriveLetter host then ([], '/' :: after)
      else (host, after.dropWhile (!endsAuthority true ·))
    else ([], cs)
  let host ← readFileHost hostText
  let pathText := rest.takeWhile (!endsPath ·)
  let (query, fragment) := readTail true (rest.dropWhile (!endsPath ·))
  let path :=
    match pathText with
    | c :: path => if isSlash true c then path else c :: path
    | [] => []
  .ok ⟨"file", "", none, some (host.getD (.domain "")), none, .segments (readSegments true path),
    query, fragment⟩

/-- Reads a text from which nothing is to be dropped. -/
def parseChars (cs : List Char) : Except UrlFault Url :=
  match readScheme? cs with
  | none => .error .noScheme
  | some (schemeChars, rest) =>
    let scheme := String.ofList schemeChars
    if scheme = "file" then readFile rest
    else if isSpecial scheme then readHierarchical scheme (rest.dropWhile (isSlash true))
    else readPlain scheme rest

/-- The URL that a text stands for. -/
def parse (s : String) : Except UrlFault Url := parseChars (significant s.toList)

end ManifestPublish.Url
