/-!
# UTF-8

Bytes and the texts they stand for.

* `encode` : the bytes of a text
* `pieces` : a byte string cut into characters and maximal ill-formed runs
* `decode?` : the text of a byte string that is UTF-8 throughout
* `decodeLossy` : the text in which every ill-formed run reads as U+FFFD

`pieces` runs one small machine over the bytes.  Between characters the machine waits for a lead
byte; inside a character it knows the bytes read so far, how many more are due, and the range in
which the next one has to lie.  A byte outside that range ends the run before it and is read
again as a lead byte, so an ill-formed run is as long as the start of some character and no
longer.
-/

set_option autoImplicit false

namespace ManifestPublish

/-- Octets: file contents, paths, arguments and the values of environment variables. -/
abbrev Bytes := List UInt8

namespace Utf8

/-- A character, or a run of bytes that no character starts with or continues. -/
inductive Piece where
  | scalar (c : Char)
  | illFormed (bytes : Bytes)
  deriving DecidableEq, Repr

/-- The stand-in for what cannot be read. -/
def replacement : Char := '\uFFFD'

/-- A character that has begun and is not complete. -/
structure Pending where
  /-- The bytes read, last one first. -/
  seen : Bytes
  /-- The bits read. -/
  value : Nat
  /-- How many bytes are due after the next one. -/
  left : Nat
  /-- The least value the next byte may have. -/
  low : UInt8
  /-- The greatest value the next byte may have. -/
  high : UInt8
  deriving DecidableEq, Repr

/-- The character that lead byte `b` begins, if it begins one of several bytes. -/
def Pending.ofLead? (b : UInt8) : Option Pending :=
  if 0xC2 ≤ b && b ≤ 0xDF then some ⟨[b], b.toNat - 0xC0, 0, 0x80, 0xBF⟩
  else if b == 0xE0 then some ⟨[b], 0, 1, 0xA0, 0xBF⟩
  else if b == 0xED then some ⟨[b], 0xD, 1, 0x80, 0x9F⟩
  else if 0xE1 ≤ b && b ≤ 0xEF then some ⟨[b], b.toNat - 0xE0, 1, 0x80, 0xBF⟩
  else if b == 0xF0 then some ⟨[b], 0, 2, 0x90, 0xBF⟩
  else if 0xF1 ≤ b && b ≤ 0xF3 then some ⟨[b], b.toNat - 0xF0, 2, 0x80, 0xBF⟩
  else if b == 0xF4 then some ⟨[b], 4, 2, 0x80, 0x8F⟩
  else none

/-- The machine reads a byte between characters. -/
def lead (b : UInt8) : List Piece × Option Pending :=
  if b < 0x80 then ([.scalar (Char.ofNat b.toNat)], none)
  else
    match Pending.ofLead? b with
    | some p => ([], some p)
    | none => ([.illFormed [b]], none)

/-- The machine reads a byte: the pieces that are now complete, and where it stands. -/
def step : Option Pending → UInt8 → List Piece × Option Pending
  | none, b => lead b
  | some p, b =>
    if p.low ≤ b && b ≤ p.high then
      let value := p.value * 64 + b.toNat % 64
      match p.left with
      | 0 => ([.scalar (Char.ofNat value)], none)
      | left + 1 => ([], some ⟨b :: p.seen, value, left, 0x80, 0xBF⟩)
    else
      let (out, next) := lead b
      (.illFormed p.seen.reverse :: out, next)

/-- Reads on from where the machine stands; `done` holds the pieces so far, last one first. -/
def run : List Piece → Option Pending → Bytes → List Piece
  | done, none, [] => done.reverse
  | done, some p, [] => (Piece.illFormed p.seen.reverse :: done).reverse
  | done, at?, b :: bs =>
    let (out, next) := step at? b
    run (out.reverse ++ done) next bs

/-- A byte string cut into characters and maximal ill-formed runs. -/
def pieces (bytes : Bytes) : List Piece :=
  run [] none bytes

/-- The character of a piece, U+FFFD for an ill-formed run. -/
def Piece.toChar : Piece → Char
  | .scalar c => c
  | .illFormed _ => replacement

/-- The character of a piece that is one. -/
def Piece.char? : Piece → Option Char
  | .scalar c => some c
  | .illFormed _ => none

/-- The bytes of a text. -/
def encode (s : String) : Bytes :=
  s.toList.flatMap String.utf8EncodeChar

/-- The text of a byte string that is UTF-8 throughout. -/
def decode? (bytes : Bytes) : Option String :=
  ((pieces bytes).mapM Piece.char?).map String.ofList

/-- The text of a byte string, each ill-formed run as U+FFFD. -/
def decodeLossy (bytes : Bytes) : String :=
  String.ofList ((pieces bytes).map Piece.toChar)

end Utf8

end ManifestPublish
