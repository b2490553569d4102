import ManifestPublish.Text.Hex

/-!
# Percent escapes

* `encode` : a text in which the characters of a set, and all beyond ASCII, stand as escapes
* `decode` : the bytes behind the escapes of a byte string
* `isControl`, `inFragment`, `inQuery`, `inSpecialQuery`, `inPath`, `inUserInfo` : what is escaped
  in the parts of a URL
-/

set_option autoImplicit false

namespace ManifestPublish.Percent

/-- What is escaped everywhere: controls, and everything beyond ASCII. -/
def isControl (c : Char) : Bool := c.toNat < 0x20 || 0x7E < c.toNat

def inFragment (c : Char) : Bool :=
  isControl c || c = ' ' || c = '"' || c = '<' || c = '>' || c = '\x60'

def inQuery (c : Char) : Bool :=
  isControl c || c = ' ' || c = '"' || c = '#' || c = '<' || c = '>'

def inSpecialQuery (c : Char) : Bool := inQuery c || c = '\''

def inPath (c : Char) : Bool :=
  inFragment c || c = '#' || c = '?' || c = '\x7b' || c = '\x7d'

def inUserInfo (c : Char) : Bool :=
  inPath c || c = '/' || c = ':' || c = ';' || c = '=' || c = '@' || c = '[' || c = '\\' ||
    c = ']' || c = '^' || c = '|'

/-- A byte as an escape. -/
def escape (b : UInt8) : List Char := '%' :: Hex.capitalDigits b

/-- A character, escaped byte by byte if it is in the set. -/
def encodeChar (set : Char → Bool) (c : Char) : List Char :=
  if set c then (String.utf8EncodeChar c).flatMap escape else [c]

/-- Characters with those in the set escaped. -/
def encode (set : Char → Bool) (cs : List Char) : List Char := cs.flatMap (encodeChar set)

def hexValue? (b : UInt8) : Option Nat := Hex.digitValue? (Char.ofUInt8 b)

/-- The bytes behind the escapes.  A percent sign without two digits stands for itself. -/
def decode : Bytes → Bytes
  | [] => []
  | [a] => [a]
  | [a, b] => [a, b]
  | a :: b :: c :: rest =>
    if a = 0x25 then
      match hexValue? b, hexValue? c with
      | some high, some low => UInt8.ofNat (high * 16 + low) :: decode rest
      | _, _ => a :: decode (b :: c :: rest)
    else a :: decode (b :: c :: rest)

end ManifestPublish.Percent
