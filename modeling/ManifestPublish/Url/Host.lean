import ManifestPublish.Url.Domain
import ManifestPublish.Url.Percent

/-!
# Hosts

* `Host` : a domain name, or an address of version 4 or 6
* `Host.parse` : the host that a text names
* `Host.render` : its one written form
-/

set_option autoImplicit false

namespace ManifestPublish

/-- Why a text is no URL. -/
inductive UrlFault where
  | noScheme
  | emptyHost
  | invalidDomain
  | invalidHostCharacter
  | invalidPort
  | invalidIpv4
  | invalidIpv6
  deriving DecidableEq, Repr

def UrlFault.message : UrlFault → String
  | .noScheme => "relative URL without a base"
  | .emptyHost => "empty host"
  | .invalidDomain => "invalid international domain name"
  | .invalidHostCharacter => "invalid domain character"
  | .invalidPort => "invalid port number"
  | .invalidIpv4 => "invalid IPv4 address"
  | .invalidIpv6 => "invalid IPv6 address"

/-- Where a URL leads. -/
inductive Host where
  | domain (name : String)
  | ipv4 (address : Nat)
  /-- Eight numbers of sixteen bits. -/
  | ipv6 (pieces : List Nat)
  deriving DecidableEq, Repr

namespace Ipv4

-- Powers of numbers are those of `Nat` itself, also where others are known.
attribute [local instance (high)] instPowNat

def digit? (base : Nat) (c : Char) : Option Nat := (Hex.digitValue? c).filter (· < base)

def readDigits? (base : Nat) : Nat → List Char → Option Nat
  | value, [] => some value
  | value, c :: cs =>
    match digit? base c with
    | some d => readDigits? base (value * base + d) cs
    | none => none

/-- A part of an address: decimal, octal after `0`, base sixteen after `0x`. -/
def readPart? : List Char → Option Nat
  | [] => none
  | '0' :: 'x' :: ds => readDigits? 16 0 ds
  | '0' :: 'X' :: ds => readDigits? 16 0 ds
  | '0' :: d :: ds => readDigits? 8 0 (d :: ds)
  | ds => readDigits? 10 0 ds

/-- The parts of a name, an empty last one left out. -/
def parts (name : List Char) : List (List Char) :=
  let ls := name.splitOn '.'
  if ls.length > 1 ∧ ls.getLast? = some [] then ls.dropLast else ls

/-- Whether a name has to be an address: its last part is a number. -/
def endsInNumber (name : List Char) : Bool :=
  match (parts name).getLast? with
  | none => false
  | some last => (last ≠ [] && last.all Char.isDigit) || (readPart? last).isSome

/-- The address of up to four numbers, the last of which fills the places left. -/
def assemble? (numbers : List Nat) : Option Nat :=
  match numbers.reverse with
  | [] => none
  | last :: lead =>
    let lead := lead.reverse
    if 4 < numbers.length || lead.any (255 < ·) || 256 ^ (5 - numbers.length) ≤ last then none
    else some (lead.foldl (fun sum n => sum * 256 + n) 0 * 256 ^ (5 - numbers.length) + last)

/-- The address that a name stands for. -/
def parse? (name : List Char) : Option Nat := do
  let numbers ← (parts name).mapM readPart?
  if numbers.any (2 ^ (32 : Nat) ≤ ·) then none else assemble? numbers

/-- An address as four decimal numbers. -/
def render (address : Nat) : String :=
  toString (address / 2 ^ (24 : Nat) % 256) ++ "." ++
    toString (address / 2 ^ (16 : Nat) % 256) ++ "." ++
    toString (address / 2 ^ (8 : Nat) % 256) ++ "." ++ toString (address % 256)

end Ipv4

namespace Ipv6

/-- The number of at most four digits of base sixteen. -/
def readPiece? (cs : List Char) : Option Nat :=
  if cs = [] || 4 < cs.length then none else Ipv4.readDigits? 16 0 cs

/-- A number of the dotted tail: decimal, at most 255, no leading zero. -/
def readOctet? (cs : List Char) : Option Nat :=
  if cs = [] || (cs.head? = some '0' && 1 < cs.length) || 3 < cs.length then none
  else (Ipv4.readDigits? 10 0 cs).filter (· ≤ 255)

/-- The two pieces of a dotted tail. -/
def readDotted? (cs : List Char) : Option (List Nat) :=
  match (cs.splitOn '.').mapM readOctet? with
  | some [a, b, c, d] => some [a * 256 + b, c * 256 + d]
  | _ => none

/-- The pieces of fields none of which is empty; the last may be dotted. -/
def readFields? : List (List Char) → Option (List Nat)
  | [] => some []
  | [last] => if last.contains '.' then readDotted? last else (readPiece? last).map ([·])
  | f :: fs => do
    let piece ← readPiece? f
    let rest ← readFields? fs
    some (piece :: rest)

/-- Cuts a text at its first double colon. -/
def cutAtGap : List Char → List Char × Option (List Char)
  | ':' :: ':' :: rest => ([], some rest)
  | [] => ([], none)
  | c :: rest =>
    let (before, after) := cutAtGap rest
    (c :: before, after)

/-- The pieces of one side of a gap. -/
def readSide? (cs : List Char) : Option (List Nat) :=
  if cs = [] then some [] else readFields? (cs.splitOn ':')

/-- The eight pieces of an address. -/
def parse? (cs : List Char) : Option (List Nat) :=
  match cutAtGap cs with
  | (all, none) => do
    let pieces ← readSide? all
    if pieces.length = 8 then some pieces else none
  | (before, some after) => do
    if before.contains '.' then none
    let head ← readSide? before
    let tail ← readSide? after
    if head.length + tail.length < 8 then
      some (head ++ List.replicate (8 - head.length - tail.length) 0 ++ tail)
    else none

/-- The longest run of zeros, the first of equals: where it starts and how long it is. -/
def longestGap (pieces : List Nat) : Nat × Nat :=
  (List.range pieces.length).foldl
    (fun best i =>
      let run := ((pieces.drop i).takeWhile (· = 0)).length
      if best.2 < run then (i, run) else best)
    (0, 0)

/-- Pieces with colons between them. -/
def renderPieces (pieces : List Nat) : List Char :=
  List.intercalate [':'] (pieces.map (Nat.toDigits 16))

/-- An address with its longest run of at least two zeros left out. -/
def render (pieces : List Nat) : String :=
  let (start, length) := longestGap pieces
  if length < 2 then String.ofList (renderPieces pieces)
  else
    String.ofList (renderPieces (pieces.take start) ++ ':' :: ':' ::
      renderPieces (pieces.drop (start + length)))

end Ipv6

namespace Host

/-- The written form of a host. -/
def render : Host → String
  | .domain name => name
  | .ipv4 address => Ipv4.render address
  | .ipv6 pieces => "[" ++ Ipv6.render pieces ++ "]"

/-- The address between square brackets. -/
def parseBracketed (cs : List Char) : Except UrlFault Host :=
  if cs.getLast? = some ']' then
    match Ipv6.parse? cs.dropLast with
    | some pieces => .ok (.ipv6 pieces)
    | none => .error .invalidIpv6
  else .error .invalidIpv6

/-- The host that a text names, under a scheme whose hosts are domain names. -/
def parse (cs : List Char) : Except UrlFault Host :=
  match cs with
  | '[' :: rest => parseBracketed rest
  | _ =>
    match (Utf8.decode? (Percent.decode (Utf8.encode (String.ofList cs)))).bind
        fun s => Domain.toAscii? s.toList with
    | none => .error .invalidDomain
    | some [] => .error .emptyHost
    | some name =>
      if Ipv4.endsInNumber name then
        match Ipv4.parse? name with
        | some address => .ok (.ipv4 address)
        | none => .error .invalidIpv4
      else .ok (.domain (String.ofList name))

/-- Characters that no host holds, under a scheme that gives hosts no meaning. -/
def isForbiddenPlain (c : Char) : Bool :=
  c = '\x00' || c = '\t' || c = '\n' || c = '\r' || c = ' ' || c = '#' || c = '/' || c = ':' ||
    c = '<' || c = '>' || c = '?' || c = '@' || c = '[' || c = '\\' || c = ']' || c = '^' ||
    c = '|'

/-- The host that a text names, under a scheme that gives hosts no meaning. -/
def parsePlain (cs : List Char) : Except UrlFault Host :=
  match cs with
  | '[' :: rest => parseBracketed rest
  | _ =>
    if cs.any isForbiddenPlain then .error .invalidHostCharacter
    else .ok (.domain (String.ofList (Percent.encode Percent.isControl cs)))

end Host

end ManifestPublish
