import ManifestPublish.Text.Quoted

/-!
# What can be wrong with a JSON text

* `Json.Cause` : what is wrong, with its words in `Json.Cause.message`
* `Json.Fault` : a cause and where it shows
* `Json.Fault.message` : the fault with line and column

A fault holds what was not yet read when it showed.  Line and column follow from the whole text:
they are those of the place up to which it was read, and a column counts bytes.
-/

set_option autoImplicit false

namespace ManifestPublish.Json

/-- A value of a kind that was not asked for. -/
inductive Unasked where
  | null
  | boolean (value : Bool)
  | integer (value : Int)
  /-- A number with a fraction or an exponent, or beyond the integers, in its shortest form. -/
  | fractional (text : String)
  | string (text : String)
  | array
  | object
  deriving DecidableEq, Repr

def Unasked.message : Unasked → String
  | .null => "null"
  | .boolean value => "boolean \x60" ++ (if value then "true" else "false") ++ "\x60"
  | .integer value => "integer \x60" ++ toString value ++ "\x60"
  | .fractional text => "floating point \x60" ++ text ++ "\x60"
  | .string text => "string " ++ Quoted.encode text
  | .array => "sequence"
  | .object => "map"

/-- What is wrong with a text. -/
inductive Cause where
  | endOfArray
  | endOfObject
  | endOfString
  | endOfValue
  | noColon
  | noCommaOrBracket
  | noCommaOrBrace
  | wrongWord
  | noValue
  | wrongEscape
  | wrongNumber
  | numberTooLarge
  | controlInString
  | keyIsNoString
  | loneSurrogate
  | surrogateCutShort
  | finalComma
  | moreAfterEnd
  | wrongKind (found : Unasked) (expected : String)
  | repeatedMember (name : String)
  | emptyArray (expected : String)
  deriving DecidableEq, Repr

def Cause.message : Cause → String
  | .endOfArray => "EOF while parsing a list"
  | .endOfObject => "EOF while parsing an object"
  | .endOfString => "EOF while parsing a string"
  | .endOfValue => "EOF while parsing a value"
  | .noColon => "expected \x60:\x60"
  | .noCommaOrBracket => "expected \x60,\x60 or \x60]\x60"
  | .noCommaOrBrace => "expected \x60,\x60 or \x60\x7d\x60"
  | .wrongWord => "expected ident"
  | .noValue => "expected value"
  | .wrongEscape => "invalid escape"
  | .wrongNumber => "invalid number"
  | .numberTooLarge => "number out of range"
  | .controlInString => "control character (\\u0000-\\u001F) found while parsing a string"
  | .keyIsNoString => "key must be a string"
  | .loneSurrogate => "lone leading surrogate in hex escape"
  | .surrogateCutShort => "unexpected end of hex escape"
  | .finalComma => "trailing comma"
  | .moreAfterEnd => "trailing characters"
  | .wrongKind found expected => "invalid type: " ++ found.message ++ ", expected " ++ expected
  | .repeatedMember name => "duplicate field \x60" ++ name ++ "\x60"
  | .emptyArray expected => "invalid length 0, expected " ++ expected

/-- What is wrong, and where it shows. -/
structure Fault where
  cause : Cause
  /-- What was not yet read. -/
  rest : List Char
  /-- How many bytes of it are counted as read. -/
  ahead : Nat
  deriving DecidableEq, Repr

/-- A fault that shows where reading stands. -/
def Fault.here (cause : Cause) (rest : List Char) : Fault := ⟨cause, rest, 0⟩

/-- A fault that shows in the next character. -/
def Fault.next (cause : Cause) (rest : List Char) : Fault := ⟨cause, rest, 1⟩

def lineFeed : UInt8 := 0x0A

/-- The part of a text up to which a fault counts it as read. -/
def Fault.readBytes (f : Fault) (text : String) : Bytes :=
  let bytes := Utf8.encode text
  bytes.take (bytes.length - (Utf8.encode (String.ofList f.rest)).length + f.ahead)

/-- The fault in words, with its line and column in the text. -/
def Fault.message (f : Fault) (text : String) : String :=
  let bytes := f.readBytes text
  let line := bytes.count lineFeed + 1
  let column := (bytes.reverse.takeWhile (· ≠ lineFeed)).length
  f.cause.message ++ " at line " ++ toString line ++ " column " ++ toString column

end ManifestPublish.Json
