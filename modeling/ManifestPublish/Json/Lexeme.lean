import ManifestPublish.Json.Fault
import ManifestPublish.Text.Hex
import ManifestPublish.Text.Utf16

/-!
# The smallest parts of a JSON text

* `skipBlanks` : what may stand between any two parts
* `readWord` : the rest of a word such as `null`
* `readString` : the rest of a string, with its escapes replaced
* `skipString` : the rest of a string, of which only the end is wanted

All of these get what has not been read and give what is left.
-/

set_option autoImplicit false

namespace ManifestPublish.Json

/-- What may stand between any two parts. -/
def isBlank (c : Char) : Bool := c = ' ' || c = '\n' || c = '\t' || c = '\r'

def skipBlanks (cs : List Char) : List Char := cs.dropWhile isBlank

/-- Reads the rest of a word. -/
def readWord : List Char → List Char → Except Fault (List Char)
  | [], cs => .ok cs
  | _ :: _, [] => .error (.here .endOfValue [])
  | w :: ws, c :: cs => if c = w then readWord ws cs else .error (.next .wrongWord (c :: cs))

theorem length_readWord {ws cs rest : List Char} (h : readWord ws cs = .ok rest) :
    rest.length ≤ cs.length := by
  fun_induction readWord ws cs with
  | case1 cs => simp_all
  | case2 => simp at h
  | case3 ws c cs ih => exact Nat.le_succ_of_le (ih h)
  | case4 => simp at h

/-! ## Escapes -/

def hexLength : Nat := 4

def readHex : List Char → Except Fault (Nat × List Char)
  | a :: b :: c :: d :: rest =>
    match Hex.digitValue? a, Hex.digitValue? b, Hex.digitValue? c, Hex.digitValue? d with
    | some a, some b, some c, some d => .ok (((a * 16 + b) * 16 + c) * 16 + d, rest)
    | _, _, _, _ => .error ⟨.wrongEscape, a :: b :: c :: d :: rest, hexLength⟩
  | cs =>
    if hexLength ≤ (Utf8.encode (String.ofList cs)).length then
      .error ⟨.wrongEscape, cs, hexLength⟩
    else .error (.here .endOfString [])

theorem length_readHex {cs rest : List Char} {n : Nat} (h : readHex cs = .ok (n, rest)) :
    rest.length + 4 = cs.length := by
  unfold readHex at h
  split at h
  · split at h
    · simp_all
    · simp at h
  · split at h <;> simp at h

/-- The first half of a character beyond the first 2 ^ 16. -/
def isHighSurrogate (n : Nat) : Bool := 0xD800 ≤ n && n ≤ 0xDBFF

/-- The second half of a character beyond the first 2 ^ 16. -/
def isLowSurrogate (n : Nat) : Bool := 0xDC00 ≤ n && n ≤ 0xDFFF

/-- Reads the second half of a character. -/
def readLowSurrogate (high : Nat) : List Char → Except Fault (Char × List Char)
  | [] => .error (.here .endOfString [])
  | ['\\'] => .error (.here .endOfString [])
  | '\\' :: 'u' :: cs =>
    match readHex cs with
    | .error fault => .error fault
    | .ok (low, rest) =>
      if isLowSurrogate low then
        .ok (Char.ofNat (0x10000 + (high - 0xD800) * 0x400 + (low - 0xDC00)), rest)
      else .error (.here .loneSurrogate rest)
  | '\\' :: c :: cs => .error (.next .surrogateCutShort (c :: cs))
  | c :: cs => .error (.next .surrogateCutShort (c :: cs))

/-- Reads a character by its number, or by those of its two halves. -/
def readUnicode (cs : List Char) : Except Fault (Char × List Char) :=
  match readHex cs with
  | .error fault => .error fault
  | .ok (n, rest) =>
    if isLowSurrogate n then .error (.here .loneSurrogate rest)
    else if isHighSurrogate n then readLowSurrogate n rest
    else .ok (Char.ofNat n, rest)

/-- The character for which a letter stands after a backslash. -/
def letterEscape? : Char → Option Char
  | '"' => some '"'
  | '\\' => some '\\'
  | '/' => some '/'
  | 'b' => some '\x08'
  | 'f' => some '\x0c'
  | 'n' => some '\n'
  | 'r' => some '\r'
  | 't' => some '\t'
  | _ => none

/-- Reads what follows a backslash. -/
def readEscape : List Char → Except Fault (Char × List Char)
  | [] => .error (.here .endOfString [])
  | 'u' :: cs => readUnicode cs
  | c :: cs =>
    match letterEscape? c with
    | some d => .ok (d, cs)
    | none => .error (.next .wrongEscape (c :: cs))

/-- Passes over what follows a backslash; the halves of a character need not belong together. -/
def skipEscape : List Char → Except Fault (List Char)
  | [] => .error (.here .endOfString [])
  | 'u' :: cs => (readHex cs).map (·.2)
  | c :: cs => if (letterEscape? c).isSome then .ok cs else .error (.next .wrongEscape (c :: cs))

theorem length_readLowSurrogate {high : Nat} {cs rest : List Char} {c : Char}
    (h : readLowSurrogate high cs = .ok (c, rest)) : rest.length < cs.length := by
  unfold readLowSurrogate at h
  split at h
  · simp at h
  · simp at h
  · split at h
    · simp at h
    · rename_i hex
      have := length_readHex hex
      split at h
      · simp_all; omega
      · simp at h
  · simp at h
  · simp at h

theorem length_readEscape {cs rest : List Char} {c : Char} (h : readEscape cs = .ok (c, rest)) :
    rest.length < cs.length := by
  unfold readEscape at h
  split at h
  · simp at h
  · unfold readUnicode at h
    split at h
    · simp at h
    · rename_i hex
      have := length_readHex hex
      split at h
      · simp at h
      · split at h
        · have := length_readLowSurrogate h
          simp; omega
        · simp_all; omega
  · split at h
    · simp_all
    · simp at h

theorem length_skipEscape {cs rest : List Char} (h : skipEscape cs = .ok rest) :
    rest.length < cs.length := by
  unfold skipEscape at h
  split at h
  · simp at h
  · rename_i cs
    cases hex : readHex cs with
    | error fault => simp [hex, Except.map] at h
    | ok read =>
      obtain ⟨n, left⟩ := read
      have := length_readHex hex
      simp only [hex, Except.map, Except.ok.injEq] at h
      subst h
      simp; omega
  · split at h
    · simp_all
    · simp at h

/-! ## Strings -/

def isControl (c : Char) : Bool := c.toNat < 0x20

/-- Reads the rest of a string; `done` holds its characters so far, last one first. -/
def readStringFrom (done : List Char) : List Char → Except Fault (String × List Char)
  | [] => .error (.here .endOfString [])
  | '"' :: cs => .ok (String.ofList done.reverse, cs)
  | '\\' :: cs =>
    match _h : readEscape cs with
    | .error fault => .error fault
    | .ok (c, rest) => readStringFrom (c :: done) rest
  | c :: cs =>
    if isControl c then .error (.here .controlInString cs) else readStringFrom (c :: done) cs
termination_by cs => cs.length
decreasing_by
  · have := length_readEscape _h
    simp; omega
  · simp

/-- Reads the rest of a string, after its opening quote. -/
def readString (cs : List Char) : Except Fault (String × List Char) := readStringFrom [] cs

/-- Passes over the rest of a string, after its opening quote. -/
def skipString : List Char → Except Fault (List Char)
  | [] => .error (.here .endOfString [])
  | '"' :: cs => .ok cs
  | '\\' :: cs =>
    match _h : skipEscape cs with
    | .error fault => .error fault
    | .ok rest => skipString rest
  | c :: cs => if isControl c then .error (.here .controlInString (c :: cs)) else skipString cs
termination_by cs => cs.length
decreasing_by
  · have := length_skipEscape _h
    simp; omega
  · simp

theorem length_skipString {cs rest : List Char} (h : skipString cs = .ok rest) :
    rest.length < cs.length := by
  fun_induction skipString cs with
  | case1 => simp at h
  | case2 cs => simp_all
  | case3 => simp_all
  | case4 cs left hc ih =>
    have := length_skipEscape hc
    have := ih h
    simp; omega
  | case5 => simp at h
  | case6 c cs _ _ hc ih =>
    have := ih h
    simp; omega

end ManifestPublish.Json
