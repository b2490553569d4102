import ManifestPublish.Json.Skip
import ManifestPublish.Text.Utf16

/-!
# JSON texts and the values they denote

The grammar of JSON, without any reader.  It is written over a list of characters and what is left
of it, so that one part of a text follows the other.

* `Json.Value` : values; strings are sequences of 16-bit code units, of which not all are texts
* `Json.Spelled` : a string after its opening quote, with any choice of escapes
* `Json.IsNumber` : numbers
* `Json.Part`, `Json.Written` : a value, or what is left of one between brackets
* `Json.Denotes` : a whole text, blanks around its value included
-/

set_option autoImplicit false

namespace ManifestPublish.Json

/-! ## Values -/

/-- The code units of a string. -/
abbrev Units := List Nat

/-- The code units of a text. -/
def unitsOf (cs : List Char) : Units := cs.flatMap Utf16.charUnits

/-- A value of JSON. -/
inductive Value where
  | null
  | boolean (value : Bool)
  /-- A number as it is written. -/
  | number (literal : List Char)
  | string (units : Units)
  | array (items : List Value)
  /-- Members in their order, of which several may have one name. -/
  | object (members : List (Units × Value))

/-- A string that is a text. -/
def Value.text (s : String) : Value := .string (unitsOf s.toList)

/-- An object whose names are texts. -/
def Value.record (members : List (String × Value)) : Value :=
  .object (members.map fun m => (unitsOf m.1.toList, m.2))

/-- The values of all members with a name. -/
def valuesOf (name : String) (members : List (String × Value)) : List Value :=
  (members.filter (·.1 = name)).map (·.2)

/-! ## Blanks -/

/-- Blanks may stand in front of what is left. -/
def Spaced (cs rest : List Char) : Prop :=
  ∃ blanks, cs = blanks ++ rest ∧ ∀ c ∈ blanks, c ∈ [' ', '\n', '\t', '\r']

/-! ## Strings -/

def IsHexDigit (c : Char) (d : Nat) : Prop :=
  d < 16 ∧ (c = Nat.digitChar d ∨ c = (Nat.digitChar d).toUpper)

instance {c : Char} {d : Nat} : Decidable (IsHexDigit c d) := inferInstanceAs (Decidable (_ ∧ _))

/-- The letters that may follow a backslash, with the characters for which they stand. -/
def letterEscapes : List (Char × Char) :=
  [('"', '"'), ('\\', '\\'), ('/', '/'), ('b', '\x08'), ('f', '\x0c'), ('n', '\n'), ('r', '\r'),
    ('t', '\t')]

/-- A string is written after its opening quote; what follows its closing quote is left. -/
inductive Spelled : Units → List Char → List Char → Prop where
  | close {rest : List Char} : Spelled [] ('"' :: rest) rest
  /-- A character that stands for itself. -/
  | plain {c : Char} {units : Units} {cs rest : List Char} (quote : c ≠ '"')
      (backslash : c ≠ '\\') (control : 0x20 ≤ c.toNat) (more : Spelled units cs rest) :
      Spelled (Utf16.charUnits c ++ units) (c :: cs) rest
  | letter {letter c : Char} {units : Units} {cs rest : List Char}
      (escape : (letter, c) ∈ letterEscapes) (more : Spelled units cs rest) :
      Spelled (c.toNat :: units) ('\\' :: letter :: cs) rest
  /-- A code unit by its number. -/
  | unit {a b c d : Char} {a' b' c' d' : Nat} {units : Units} {cs rest : List Char}
      (first : IsHexDigit a a') (second : IsHexDigit b b') (third : IsHexDigit c c')
      (fourth : IsHexDigit d d') (more : Spelled units cs rest) :
      Spelled ((a' * 0x1000 + b' * 0x100 + c' * 0x10 + d') :: units)
        ('\\' :: 'u' :: a :: b :: c :: d :: cs) rest

/-! ## Numbers -/

def IsDigits (cs : List Char) : Prop := cs ≠ [] ∧ ∀ c ∈ cs, c.isDigit = true

/-- A whole number: zero, or digits of which the first is not zero. -/
def IsWhole (cs : List Char) : Prop := cs = ['0'] ∨ IsDigits cs ∧ cs.head? ≠ some '0'

/-- A fraction, which may be absent. -/
def IsFraction (cs : List Char) : Prop := cs = [] ∨ ∃ digits, cs = '.' :: digits ∧ IsDigits digits

/-- An exponent, which may be absent. -/
def IsExponent (cs : List Char) : Prop :=
  cs = [] ∨ ∃ e sign digits, cs = e :: (sign ++ digits) ∧ e ∈ ['e', 'E'] ∧
    sign ∈ [[], ['+'], ['-']] ∧ IsDigits digits

def IsUnsigned (cs : List Char) : Prop :=
  ∃ whole fraction exponent, cs = whole ++ (fraction ++ exponent) ∧ IsWhole whole ∧
    IsFraction fraction ∧ IsExponent exponent

def IsNumber (cs : List Char) : Prop :=
  IsUnsigned cs ∨ ∃ unsigned, cs = '-' :: unsigned ∧ IsUnsigned unsigned

/-! ## Values in a text -/

/-- What precedes a value: nothing in an array, a name and a colon in an object. -/
inductive Labelled : Frame → Units → List Char → List Char → Prop where
  | array {cs : List Char} : Labelled .array [] cs cs
  | object {name : Units} {cs afterQuote afterName rest : List Char}
      (quote : Spaced cs ('"' :: afterQuote)) (spelled : Spelled name afterQuote afterName)
      (colon : Spaced afterName (':' :: rest)) : Labelled .object name cs rest

/-- A part of a text.  Between brackets values go with their labels. -/
inductive Part where
  | value (v : Value)
  /-- What follows an opening bracket, the closing one included. -/
  | opened (frame : Frame) (elements : List (Units × Value))
  /-- A first element and all that follows it. -/
  | elements (frame : Frame) (elements : List (Units × Value))
  /-- What follows an element. -/
  | continued (frame : Frame) (elements : List (Units × Value))

/-- A part is written at the front of a text; what follows it is left. -/
inductive Written : Part → List Char → List Char → Prop where
  | null {rest : List Char} : Written (.value .null) ('n' :: 'u' :: 'l' :: 'l' :: rest) rest
  | booleanTrue {rest : List Char} :
      Written (.value (.boolean true)) ('t' :: 'r' :: 'u' :: 'e' :: rest) rest
  | booleanFalse {rest : List Char} :
      Written (.value (.boolean false)) ('f' :: 'a' :: 'l' :: 's' :: 'e' :: rest) rest
  | number {literal cs rest : List Char} (h : IsNumber literal) (front : cs = literal ++ rest) :
      Written (.value (.number literal)) cs rest
  | string {units : Units} {cs rest : List Char} (h : Spelled units cs rest) :
      Written (.value (.string units)) ('"' :: cs) rest
  | array {items : List Value} {cs rest : List Char}
      (h : Written (.opened .array (items.map ([], ·))) cs rest) :
      Written (.value (.array items)) ('[' :: cs) rest
  | object {members : List (Units × Value)} {cs rest : List Char}
      (h : Written (.opened .object members) cs rest) :
      Written (.value (.object members)) ('\x7b' :: cs) rest
  | empty {frame : Frame} {cs rest : List Char} (h : Spaced cs (frame.closing :: rest)) :
      Written (.opened frame []) cs rest
  | filled {frame : Frame} {elements : List (Units × Value)} {cs rest : List Char}
      (h : Written (.elements frame elements) cs rest) :
      Written (.opened frame elements) cs rest
  | element {frame : Frame} {name : Units} {v : Value} {elements : List (Units × Value)}
      {cs afterLabel start afterValue rest : List Char} (label : Labelled frame name cs afterLabel)
      (blanks : Spaced afterLabel start) (value : Written (.value v) start afterValue)
      (more : Written (.continued frame elements) afterValue rest) :
      Written (.elements frame ((name, v) :: elements)) cs rest
  | close {frame : Frame} {cs rest : List Char} (h : Spaced cs (frame.closing :: rest)) :
      Written (.continued frame []) cs rest
  | comma {frame : Frame} {elements : List (Units × Value)} {cs afterComma rest : List Char}
      (h : Spaced cs (',' :: afterComma))
      (more : Written (.elements frame elements) afterComma rest) :
      Written (.continued frame elements) cs rest

/-- A whole text denotes a value; blanks may stand around it. -/
def Denotes (v : Value) (text : String) : Prop :=
  ∃ start rest, Spaced text.toList start ∧ Written (.value v) start rest ∧ Spaced rest []

end ManifestPublish.Json
