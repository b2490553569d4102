import ManifestPublish.Text.CharClass
import ManifestPublish.Text.Hex

/-!
# Quoted text

A text between double quotes, on one line and without characters that do not show.

* `encode` : a quote and a backslash get a backslash before them, four controls have a letter, and
  every other unseen or combining character is written by its number
* `encodeBytes` : the same for bytes; a byte outside every character is written by its value
* `decode?` : the text that a quoted text stands for
-/

set_option autoImplicit false

namespace ManifestPublish.Quoted

/-- The digits of `n` in base sixteen, small letters, no leading zero. -/
def hexDigits (n : Nat) : List Char := Nat.toDigits 16 n

/-- A character by its number. -/
def byNumber (c : Char) : List Char :=
  '\\' :: 'u' :: '\x7b' :: hexDigits c.toNat ++ ['\x7d']

/-- A character as it stands in a quoted text. -/
def encodeChar (c : Char) : List Char :=
  if c = '\x00' then ['\\', '0']
  else if c = '\t' then ['\\', 't']
  else if c = '\n' then ['\\', 'n']
  else if c = '\r' then ['\\', 'r']
  else if c = '"' then ['\\', '"']
  else if c = '\\' then ['\\', '\\']
  else if CharClass.extendsGrapheme c || CharClass.isUnseen c then byNumber c
  else [c]

/-- The inside of a quoted text. -/
def encodeChars (cs : List Char) : List Char := cs.flatMap encodeChar

/-- A text between quotes. -/
def encode (s : String) : String :=
  String.ofList ('"' :: encodeChars s.toList ++ ['"'])

/-- A byte by its value. -/
def encodeByte (b : UInt8) : List Char := '\\' :: 'x' :: Hex.capitalDigits b

/-- A piece of a byte string as it stands in a quoted text. -/
def encodePiece : Utf8.Piece → List Char
  | .scalar c => encodeChar c
  | .illFormed bytes => bytes.flatMap encodeByte

/-- A byte string between quotes. -/
def encodeBytes (bytes : Bytes) : String :=
  String.ofList ('"' :: (Utf8.pieces bytes).flatMap encodePiece ++ ['"'])

/-! ## Reading -/

def hexValue? (c : Char) : Option Nat :=
  if '0' ≤ c ∧ c ≤ '9' then some (c.toNat - 48)
  else if 'a' ≤ c ∧ c ≤ 'f' then some (c.toNat - 87)
  else none

/-- The number of some digits of base sixteen. -/
def hexNumber? : Nat → List Char → Option Nat
  | value, [] => some value
  | value, c :: cs => (hexValue? c).bind fun d => hexNumber? (value * 16 + d) cs

/-- Reads a character by its number, after the opening brace, and what follows the closing one. -/
def readNumbered? (cs : List Char) : Option (Char × List Char) :=
  match cs.takeWhile (· ≠ '\x7d'), cs.dropWhile (· ≠ '\x7d') with
  | digits, _ :: rest => (hexNumber? 0 digits).map fun n => (Char.ofNat n, rest)
  | _, [] => none

/-- The character for which one after a backslash stands. -/
def unescape? (c : Char) : Option Char :=
  if c = '0' then some '\x00'
  else if c = 't' then some '\t'
  else if c = 'n' then some '\n'
  else if c = 'r' then some '\r'
  else if c = '"' || c = '\\' then some c
  else none

/-- Reads one character of the inside of a quoted text. -/
def readChar? : List Char → Option (Char × List Char)
  | [] => none
  | '\\' :: 'u' :: '\x7b' :: cs => readNumbered? cs
  | '\\' :: c :: cs => (unescape? c).map fun d => (d, cs)
  | c :: cs => if c = '\\' || c = '"' then none else some (c, cs)

/-- Fewer characters are left after a character by its number. -/
theorem length_readNumbered? {cs rest : List Char} {c : Char}
    (h : readNumbered? cs = some (c, rest)) : rest.length < cs.length := by
  unfold readNumbered? at h
  have shorter : (cs.dropWhile (· ≠ '\x7d')).length ≤ cs.length :=
    (List.dropWhile_sublist _).length_le
  split at h
  · rename_i left heq
    obtain ⟨n, _, hn⟩ := Option.map_eq_some_iff.1 h
    obtain ⟨_, rfl⟩ := Prod.mk.inj hn
    rw [heq] at shorter
    exact shorter
  · simp at h

/-- Fewer characters are left after one is read. -/
theorem length_readChar? {cs rest : List Char} {c : Char} (h : readChar? cs = some (c, rest)) :
    rest.length < cs.length := by
  unfold readChar? at h
  split at h
  · simp at h
  · have := length_readNumbered? h
    simp only [List.length_cons]
    omega
  · obtain ⟨d, _, hd⟩ := Option.map_eq_some_iff.1 h
    obtain ⟨_, rfl⟩ := Prod.mk.inj hd
    simp only [List.length_cons]
    omega
  · split at h
    · simp at h
    · obtain ⟨_, rfl⟩ := Prod.mk.inj (Option.some.inj h)
      exact Nat.lt_succ_self _

/-- Reads the inside of a quoted text, up to the quote that ends it. -/
def decodeChars? : List Char → Option (List Char)
  | ['"'] => some []
  | cs =>
    match _h : readChar? cs with
    | none => none
    | some (c, rest) => (decodeChars? rest).map (c :: ·)
termination_by cs => cs.length
decreasing_by exact length_readChar? _h

/-- The text that a quoted text stands for. -/
def decode? (s : String) : Option String :=
  match s.toList with
  | '"' :: cs => (decodeChars? cs).map String.ofList
  | _ => none

end ManifestPublish.Quoted
