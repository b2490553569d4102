/-!
# Media types

* `MediaType.charset?` : the character set that a content type names
-/

set_option autoImplicit false

namespace ManifestPublish.MediaType

/-- What names and unquoted values are made of. -/
def isToken (c : Char) : Bool :=
  c.isAlphanum || c = '!' || c = '#' || c = '$' || c = '%' || c = '&' || c = '\'' || c = '+' ||
    c = '-' || c = '.' || c = '^' || c = '_' || c = '\x60' || c = '|' || c = '~'

/-- What stands between quotes. -/
def isQuotedCharacter (c : Char) : Bool := c = '\t' || (c.toNat ≠ 0x7F && 0x20 ≤ c.toNat)

/-- Reads a value and what follows it: after a quoted one blanks and then the next semicolon.  A
quoted value has at least one character, so quotes right after the opening ones do not close it. -/
def readValue? (cs : List Char) : Option (List Char × List Char) :=
  match cs with
  | '"' :: [] => none
  | '"' :: first :: quoted =>
    let value := first :: quoted.takeWhile (· ≠ '"')
    match quoted.dropWhile (· ≠ '"') with
    | [] => none
    | _ :: rest =>
      if !value.all isQuotedCharacter then none
      else
        match rest.dropWhile (· = ' ') with
        | [] => some (value, [])
        | ';' :: rest => some (value, ';' :: rest)
        | _ => none
  | _ =>
    let value := cs.takeWhile isToken
    match cs.dropWhile isToken with
    | [] => some (value, [])
    | ';' :: rest => if value = [] then none else some (value, ';' :: rest)
    | _ => none

/-- Reads parameters, each after a semicolon; `fuel` bounds their count. -/
def readParameters? : Nat → List Char → Option (List (List Char × List Char))
  | 0, _ => none
  | _, [] => some []
  | fuel + 1, ';' :: rest =>
    let rest := rest.dropWhile (· = ' ')
    if rest = [] then some []
    else
      let name := rest.takeWhile isToken
      match rest.dropWhile isToken with
      | '=' :: rest =>
        if name = [] then none
        else do
          let (value, rest) ← readValue? rest
          let parameters ← readParameters? fuel rest
          some ((name, value) :: parameters)
      | _ => none
  | _, _ => none

/-- The parameters of a content type. -/
def parameters? (contentType : String) : Option (List (List Char × List Char)) :=
  let cs := contentType.toList
  let kind := cs.takeWhile isToken
  match cs.dropWhile isToken with
  | '/' :: rest =>
    let subkind := rest.takeWhile isToken
    if kind = [] || subkind = [] then none
    else readParameters? (cs.length + 1) (rest.dropWhile isToken)
  | _ => none

/-- The character set that a content type names; the name of the parameter may be in capitals. -/
def charset? (contentType : String) : Option String := do
  let parameters ← parameters? contentType
  let (_, value) ← parameters.find? fun p => p.1.map Char.toLower = "charset".toList
  some (String.ofList value)

end ManifestPublish.MediaType
