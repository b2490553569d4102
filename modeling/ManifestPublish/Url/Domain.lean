import ManifestPublish.Text.Utf8

/-!
# Domain names in ASCII

* `toAscii?` : the ASCII form of a domain name: capitals fold, a label beyond ASCII becomes its
  punycode, and characters that would end a host are refused, as are labels that only look like
  punycode
* `Punycode.encode`, `Punycode.decode?` : the punycode of a label, and the label of a punycode

Folding knows the capitals of the alphabets of Europe, the wide forms of ASCII, the blanks that
count as the space and the characters that count as nothing; other characters stay as they are.
-/

set_option autoImplicit false

namespace ManifestPublish

namespace Punycode

def digit (n : Nat) : Char := if n < 26 then Char.ofNat (0x61 + n) else Char.ofNat (0x30 + n - 26)

/-- The least digit that does not end a number, at place `k`. -/
def threshold (k bias : Nat) : Nat :=
  if k ≤ bias then 1 else if bias + 26 ≤ k then 26 else k - bias

/-- The digits of a number, each place with its threshold; `fuel` bounds their count. -/
def digits (bias : Nat) : Nat → Nat → Nat → List Char
  | 0, _, _ => []
  | fuel + 1, k, q =>
    let t := threshold k bias
    if q < t then [digit q]
    else digit (t + (q - t) % (36 - t)) :: digits bias fuel (k + 36) ((q - t) / (36 - t))

/-- Scales a difference down; `fuel` bounds the steps. -/
def adaptLoop : Nat → Nat → Nat → Nat
  | 0, delta, k => k + 36 * delta / (delta + 38)
  | fuel + 1, delta, k =>
    if 455 < delta then adaptLoop fuel (delta / 35) (k + 36) else k + 36 * delta / (delta + 38)

/-- The bias after a number. -/
def adapt (delta count : Nat) (isFirst : Bool) : Nat :=
  let delta := if isFirst then delta / 700 else delta / 2
  let delta := delta + delta / count
  adaptLoop (delta + 1) delta 0

/-- The state of the encoder. -/
structure State where
  /-- The digits so far. -/
  out : List Char
  delta : Nat
  bias : Nat
  /-- How many characters are written. -/
  handled : Nat

/-- One character of the label, while the characters numbered `m` are inserted. -/
def visit (m basic : Nat) (s : State) (c : Char) : State :=
  if c.toNat < m then { s with delta := s.delta + 1 }
  else if c.toNat = m then
    let written := digits s.bias (s.delta + 1) 36 s.delta
    ⟨s.out ++ written, 0, adapt s.delta (s.handled + 1) (s.handled = basic), s.handled + 1⟩
  else s

/-- Inserts the characters beyond ASCII, smallest first. -/
def insertAll (label : List Char) (basic : Nat) : Nat → List Nat → State → State
  | _, [], s => s
  | n, m :: ms, s =>
    let s := { s with delta := s.delta + (m - n) * (s.handled + 1) }
    let s := label.foldl (visit m basic) s
    insertAll label basic (m + 1) ms { s with delta := s.delta + 1 }

/-- The punycode of a label. -/
def encode (label : List Char) : List Char :=
  let plain := label.filter (·.toNat < 0x80)
  let points := ((label.map Char.toNat).filter (0x80 ≤ ·)).eraseDups.mergeSort
  let lead := if plain = [] then [] else plain ++ ['-']
  lead ++ (insertAll label plain.length 0x80 points ⟨[], 0, 72, plain.length⟩).out

def digitValue? (c : Char) : Option Nat :=
  if 'a' ≤ c ∧ c ≤ 'z' then some (c.toNat - 0x61)
  else if '0' ≤ c ∧ c ≤ '9' then some (c.toNat - 0x30 + 26)
  else none

/-- Reads a number from its place `k` on, where a digit counts `weight` times. -/
def readNumber? (bias : Nat) : Nat → Nat → Nat → List Char → Option (Nat × List Char)
  | _, _, _, [] => none
  | k, weight, sum, c :: cs =>
    (digitValue? c).bind fun d =>
      let t := threshold k bias
      let sum := sum + d * weight
      if d < t then some (sum, cs) else readNumber? bias (k + 36) (weight * (36 - t)) sum cs

/-- Inserts characters into a label from where the decoder stands: at place `i`, at character
number `n`; `fuel` bounds their count. -/
def insertFrom : Nat → List Char → Nat → Nat → Nat → List Char → Option (List Char)
  | _, label, _, _, _, [] => some label
  | 0, _, _, _, _, _ :: _ => none
  | fuel + 1, label, n, i, bias, digits =>
    (readNumber? bias 36 1 i digits).bind fun (sum, rest) =>
      let count := label.length + 1
      let n := n + sum / count
      let place := sum % count
      if n.isValidChar then
        insertFrom fuel (label.take place ++ Char.ofNat n :: label.drop place) n (place + 1)
          (adapt (sum - i) count (i = 0)) rest
      else none

/-- The label of a punycode. -/
def decode? (code : List Char) : Option (List Char) :=
  let digits := (code.reverse.takeWhile (· ≠ '-')).reverse
  let lead := code.take (code.length - digits.length - 1)
  insertFrom code.length lead 0x80 0 72 digits

end Punycode

namespace Domain

/-- A run of capitals, `step` apart, each with its small letter `offset` after it. -/
structure Capitals where
  first : Nat
  last : Nat
  step : Nat
  offset : Nat
  deriving DecidableEq, Repr

/-- The capitals of the alphabets of Europe beyond ASCII. -/
def capitals : List Capitals :=
  [⟨0xC0, 0xD6, 1, 0x20⟩, ⟨0xD8, 0xDE, 1, 0x20⟩,
    ⟨0x100, 0x12E, 2, 1⟩, ⟨0x132, 0x136, 2, 1⟩, ⟨0x139, 0x147, 2, 1⟩, ⟨0x14A, 0x176, 2, 1⟩,
    ⟨0x179, 0x17D, 2, 1⟩, ⟨0x1CD, 0x1DB, 2, 1⟩, ⟨0x1DE, 0x1EE, 2, 1⟩, ⟨0x1F8, 0x21E, 2, 1⟩,
    ⟨0x222, 0x232, 2, 1⟩, ⟨0x386, 0x386, 1, 0x26⟩, ⟨0x388, 0x38A, 1, 0x25⟩,
    ⟨0x38C, 0x38C, 1, 0x40⟩, ⟨0x38E, 0x38F, 1, 0x3F⟩, ⟨0x391, 0x3A1, 1, 0x20⟩,
    ⟨0x3A3, 0x3AB, 1, 0x20⟩, ⟨0x400, 0x40F, 1, 0x50⟩, ⟨0x410, 0x42F, 1, 0x20⟩,
    ⟨0x460, 0x480, 2, 1⟩, ⟨0x48A, 0x4BE, 2, 1⟩, ⟨0x4C1, 0x4CD, 2, 1⟩, ⟨0x4D0, 0x52E, 2, 1⟩,
    ⟨0x531, 0x556, 1, 0x30⟩, ⟨0x1E00, 0x1E94, 2, 1⟩, ⟨0x1EA0, 0x1EFE, 2, 1⟩]

/-- Whether a character is one of a run of capitals. -/
def Capitals.holds (r : Capitals) (n : Nat) : Bool :=
  r.first ≤ n && n ≤ r.last && (n - r.first) % r.step = 0

/-- Characters that are left out of a name: those that only hint at how it is to be set. -/
def isIgnored (n : Nat) : Bool :=
  n = 0xAD || n = 0x34F || n = 0x200B || n = 0x2060 || n = 0x2064 || n = 0xFEFF ||
    (0x180B ≤ n && n ≤ 0x180F) || (0xFE00 ≤ n && n ≤ 0xFE0F)

def isWideSpace (n : Nat) : Bool :=
  n = 0xA0 || (0x2000 ≤ n && n ≤ 0x200A) || n = 0x202F || n = 0x205F || n = 0x3000

def isWideStop (n : Nat) : Bool := n = 0x3002 || n = 0xFF0E || n = 0xFF61

/-- A character as it counts in a name: small letters for capitals, plain forms for wide ones. -/
def fold (c : Char) : List Char :=
  let n := c.toNat
  if n < 0x80 then [c.toLower]
  else if isIgnored n then []
  else if isWideSpace n then [' ']
  else if isWideStop n then ['.']
  else if 0xFF01 ≤ n && n ≤ 0xFF5E then [(Char.ofNat (n - 0xFEE0)).toLower]
  else
    match capitals.find? (·.holds n) with
    | some r => [Char.ofNat (n + r.offset)]
    | none => [c]

/-- Characters beyond ASCII that steer how a text is shown, or stand for what cannot be. -/
def isSteering (n : Nat) : Bool :=
  (0x80 ≤ n && n ≤ 0x9F) || n = 0x200E || n = 0x200F || (0x2028 ≤ n && n ≤ 0x202E) ||
    (0x2061 ≤ n && n ≤ 0x206F) || n = 0xFFFD

/-- Characters that no host name holds. -/
def isForbidden (c : Char) : Bool :=
  isSteering c.toNat ||
  c.toNat ≤ 0x20 || c.toNat = 0x7F || c = '#' || c = '%' || c = '/' || c = ':' || c = '<' ||
    c = '>' || c = '?' || c = '@' || c = '[' || c = '\\' || c = ']' || c = '^' || c = '|'

/-- What a label beyond ASCII starts with in its ASCII form. -/
def marker : List Char := ['x', 'n', '-', '-']

/-- Whether a label is beyond ASCII. -/
def isInternational (label : List Char) : Bool := label.any fun c => 0x80 ≤ c.toNat

/-- Whether a punycode stands for a label that needs one, is in its folded form and holds nothing
that is forbidden.  No more is asked of its characters. -/
def isPunycode (code : List Char) : Bool :=
  match Punycode.decode? code with
  | none => false
  | some label =>
    isInternational label && label.flatMap fold = label && !label.any isForbidden &&
      Punycode.encode label = code

/-- A label in ASCII. -/
def labelToAscii? (label : List Char) : Option (List Char) :=
  if isInternational label then some (marker ++ Punycode.encode label)
  else if marker.isPrefixOf label && !isPunycode (label.drop marker.length) then none
  else some label

/-- The ASCII form of a domain name. -/
def toAscii? (name : List Char) : Option (List Char) :=
  let folded := name.flatMap fold
  if folded.any isForbidden then none
  else ((folded.splitOn '.').mapM labelToAscii?).map (List.intercalate ['.'])

end Domain

end ManifestPublish
