import ManifestPublish.Text.Utf8

/-!
# UTF-16

* `encode` : the bytes of a text, in either byte order
* `decodeLossy` : the text of a byte string; a surrogate without its partner and a last odd byte
  read as U+FFFD
-/

set_option autoImplicit false

namespace ManifestPublish.Utf16

/-- The order of the two bytes of a code unit. -/
inductive Order where
  | littleEndian
  | bigEndian
  deriving DecidableEq, Repr

/-- A code unit from its two bytes, as they stand. -/
def Order.unit : Order → UInt8 → UInt8 → Nat
  | .littleEndian, a, b => b.toNat * 256 + a.toNat
  | .bigEndian, a, b => a.toNat * 256 + b.toNat

/-- The two bytes of a code unit, as they stand. -/
def Order.bytes : Order → Nat → Bytes
  | .littleEndian, u => [UInt8.ofNat (u % 256), UInt8.ofNat (u / 256)]
  | .bigEndian, u => [UInt8.ofNat (u / 256), UInt8.ofNat (u % 256)]

/-- The first half of a pair. -/
def isLead (u : Nat) : Bool := 0xD800 ≤ u && u < 0xDC00

/-- The second half of a pair. -/
def isTrail (u : Nat) : Bool := 0xDC00 ≤ u && u < 0xE000

/-- The code units of a character. -/
def charUnits (c : Char) : List Nat :=
  if c.toNat < 0x10000 then [c.toNat]
  else [0xD800 + (c.toNat - 0x10000) / 0x400, 0xDC00 + (c.toNat - 0x10000) % 0x400]

/-- The character of a pair of surrogates. -/
def pairChar (lead trail : Nat) : Char :=
  Char.ofNat (0x10000 + (lead - 0xD800) * 0x400 + (trail - 0xDC00))

/-- The code units of a byte string; an odd last byte leaves `none`. -/
def units (order : Order) : Bytes → List (Option Nat)
  | [] => []
  | [_] => [none]
  | a :: b :: rest => some (order.unit a b) :: units order rest

/-- Reads code units; `lead?` is a first half that waits for its partner. -/
def chars : Option Nat → List (Option Nat) → List Char
  | none, [] => []
  | some _, [] => [Utf8.replacement]
  | _, none :: _ => [Utf8.replacement]
  | none, some u :: rest =>
    if isLead u then chars (some u) rest
    else if isTrail u then Utf8.replacement :: chars none rest
    else Char.ofNat u :: chars none rest
  | some l, some u :: rest =>
    if isTrail u then pairChar l u :: chars none rest
    else if isLead u then Utf8.replacement :: chars (some u) rest
    else Utf8.replacement :: Char.ofNat u :: chars none rest

/-- The bytes of a text. -/
def encode (order : Order) (s : String) : Bytes :=
  s.toList.flatMap fun c => (charUnits c).flatMap order.bytes

/-- The text of a byte string, U+FFFD for what has no meaning. -/
def decodeLossy (order : Order) (bytes : Bytes) : String :=
  String.ofList (chars none (units order bytes))

end ManifestPublish.Utf16
