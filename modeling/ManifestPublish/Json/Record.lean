import ManifestPublish.Json.Skip

/-!
# Records with one member

* `Reader` : reads a value of some type from what has not been read
* `readText` : a string
* `readOptional` : a value, or `null` for none
* `readRecord` : the value of one member of an object, none if it is absent
* `decode` : what a whole text holds

Members with other names are passed over.  An array with one element stands for the record whose
member is that element.
-/

set_option autoImplicit false

namespace ManifestPublish.Json

/-- Reads a value: the value and what is left. -/
abbrev Reader (α : Type) := List Char → Except Fault (α × List Char)

/-- What is found where some other value is expected.  The fault shows after what is found, for an
array or an object before it. -/
def unexpected (expected : String) (cs : List Char) : Fault :=
  let word (rest : List Char) (value : Unasked) (after : List Char) : Fault :=
    match readWord rest after with
    | .ok after => .here (.wrongKind value expected) after
    | .error fault => fault
  let number (read : Except Fault (Unasked × List Char)) : Fault :=
    match read with
    | .ok (value, after) => .here (.wrongKind value expected) after
    | .error fault => fault
  match cs with
  | 'n' :: after => word "ull".toList .null after
  | 't' :: after => word "rue".toList (.boolean true) after
  | 'f' :: after => word "alse".toList (.boolean false) after
  | '-' :: after => number (readNumber true after)
  | '"' :: after =>
    match readString after with
    | .ok (text, after) => .here (.wrongKind (.string text) expected) after
    | .error fault => fault
  | '[' :: _ => .here (.wrongKind .array expected) cs
  | '\x7b' :: _ => .here (.wrongKind .object expected) cs
  | [] => .here .endOfValue []
  | c :: _ => if c.isDigit then number (readNumber false cs) else .next .noValue cs

def readText : Reader String := fun cs =>
  match skipBlanks cs with
  | '"' :: cs => readString cs
  | cs => .error (unexpected "a string" cs)

/-- Reads a value, or `null` for none. -/
def readOptional {α : Type} (read : Reader α) : Reader (Option α) := fun cs =>
  match skipBlanks cs with
  | 'n' :: cs => (readWord "ull".toList cs).map (none, ·)
  | cs => (read cs).map fun (value, rest) => (some value, rest)

/-- What a record is called, and its member. -/
structure RecordName where
  record : String
  member : String
  deriving DecidableEq, Repr

/-- A record where none was found. -/
def RecordName.expected (name : RecordName) : String := "struct " ++ name.record

/-- A record whose members were to be told apart by their places. -/
def RecordName.expectedElements (name : RecordName) : String :=
  name.expected ++ " with 1 element"

/-- Reads the end of an array after its last element. -/
def readArrayEnd (cs : List Char) : Except Fault (List Char) :=
  match skipBlanks cs with
  | [] => .error (.here .endOfArray [])
  | ']' :: rest => .ok rest
  | ',' :: rest =>
    match skipBlanks rest with
    | ']' :: rest => .error (.next .finalComma (']' :: rest))
    | rest => .error (.next .moreAfterEnd rest)
  | rest => .error (.next .moreAfterEnd rest)

/-- Reads the one element of an array, after its opening bracket. -/
def readElement {α : Type} (name : RecordName) (read : Reader α) : Reader α := fun cs =>
  match skipBlanks cs with
  | [] => .error (.here .endOfArray [])
  | ']' :: rest => .error (.here (.emptyArray name.expectedElements) rest)
  | cs =>
    match read cs with
    | .error fault => .error fault
    | .ok (value, rest) => (readArrayEnd rest).map (value, ·)

/-- Passes over the end of an object, if it comes next. -/
def skipObjectEnd (cs : List Char) : List Char :=
  match skipBlanks cs with
  | '\x7d' :: rest => rest
  | rest => rest

/-- Where reading stands among the members of an object. -/
inductive MemberStart where
  /-- The object has ended. -/
  | ended (rest : List Char)
  /-- A name follows, after its opening quote. -/
  | name (rest : List Char)
  deriving DecidableEq, Repr

/-- Reads up to the next name or the end of an object. -/
def readMemberStart (isFirst : Bool) (cs : List Char) : Except Fault MemberStart :=
  match skipBlanks cs with
  | [] => .error (.here .endOfObject [])
  | '\x7d' :: rest => .ok (.ended rest)
  | c :: rest =>
    if isFirst then
      if c = '"' then .ok (.name rest) else .error (.next .keyIsNoString (c :: rest))
    else if c = ',' then
      match skipBlanks rest with
      | [] => .error (.here .endOfValue [])
      | '"' :: rest => .ok (.name rest)
      | '\x7d' :: rest => .error (.next .finalComma ('\x7d' :: rest))
      | rest => .error (.next .keyIsNoString rest)
    else .error (.next .noCommaOrBrace (c :: rest))

/-- Reads the members of an object, after its opening bracket, up to its end.  `found` is the
member that is wanted, if it was met; `fuel` bounds the count of members. -/
def readMembers {α : Type} (name : RecordName) (read : Reader α) :
    Nat → Bool → Option α → Reader (Option α)
  | 0, _, _, cs => .error (.here .endOfObject cs)
  | fuel + 1, isFirst, found, cs => do
    match ← readMemberStart isFirst cs with
    | .ended rest => .ok (found, rest)
    | .name rest =>
      let (key, rest) ← readString rest
      if key = name.member then
        if found.isSome then
          .error (.here (.repeatedMember key) (skipObjectEnd rest))
        else
          let (value, rest) ← read (← skipColon rest)
          readMembers name read fuel false (some value) rest
      else
        let rest ← skipValue (← skipColon rest)
        readMembers name read fuel false found rest

/-- Reads the wanted member of a record, none if it is absent. -/
def readRecord {α : Type} (name : RecordName) (read : Reader (Option α)) : Reader (Option α) :=
  fun cs =>
    match skipBlanks cs with
    | '[' :: cs => readElement name read cs
    | '\x7b' :: cs =>
      (readMembers name read (cs.length + 1) true none cs).map fun (found, rest) =>
        (found.join, rest)
    | cs => .error (unexpected name.expected cs)

/-- Reads what a whole text holds; only blanks may follow. -/
def decodeChars {α : Type} (read : Reader α) (cs : List Char) : Except Fault α :=
  match read cs with
  | .error fault => .error fault
  | .ok (value, rest) =>
    match skipBlanks rest with
    | [] => .ok value
    | rest => .error (.next .moreAfterEnd rest)

/-- What a whole text holds, or what is wrong with it in words. -/
def decode {α : Type} (read : Reader α) (text : String) : Except String α :=
  (decodeChars read text.toList).mapError (·.message text)

end ManifestPublish.Json
