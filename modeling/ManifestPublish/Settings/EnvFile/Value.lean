import ManifestPublish.Text.CharClass

/-!
# The values in an environment file

A value ends at a blank outside quotes; only a comment may follow.  Between single quotes all is
taken as it stands.  Elsewhere a backslash goes before a few characters, and a dollar sign before
the name of a variable, which may stand in braces.

* `ValueState` : where reading stands in a value
* `readValue` : the value that a text stands for, given the values of variables
-/

set_option autoImplicit false

namespace ManifestPublish.EnvFile

/-- Where reading stands in a value.  A flag tells whether double quotes are open. -/
inductive ValueState where
  | text (quoted : Bool)
  | strong
  | escape (quoted : Bool)
  /-- In the name of a variable, held last character first. -/
  | variable (quoted : Bool) (name : List Char)
  /-- In such a name between braces. -/
  | braced (quoted : Bool) (name : List Char)
  /-- After a blank. -/
  | ending
  | comment
  deriving DecidableEq, Repr

/-- The character for which one after a backslash stands. -/
def escaped? (c : Char) : Option Char :=
  if c = '\\' || c = '\'' || c = '"' || c = '$' || c = ' ' then some c
  else if c = 'n' then some '\n'
  else none

/-- The value of a variable whose name is held last character first. -/
def substitute (value : String → String) (name : List Char) : List Char :=
  (value (String.ofList name.reverse)).toList

/-- Reads a character: what it adds to the value, and the next state; none if it cannot stand
there. -/
def ValueState.step? (value : String → String) : ValueState → Char →
    Option (List Char × ValueState)
  | .text quoted, c =>
    if c = '$' then some ([], .variable quoted [])
    else if c = '"' then some ([], .text (!quoted))
    else if c = '\\' then some ([], .escape quoted)
    else if quoted then some ([c], .text true)
    else if c = '\'' then some ([], .strong)
    else if c = ' ' || c = '\t' then some ([], .ending)
    else some ([c], .text false)
  | .strong, c => some (if c = '\'' then ([], .text false) else ([c], .strong))
  | .escape quoted, c => (escaped? c).map fun c => ([c], .text quoted)
  | .variable quoted name, c =>
    if CharClass.isAlphanumeric c then some ([], .variable quoted (c :: name))
    else if c = '\x7b' && name = [] then some ([], .braced quoted [])
    else if c = '$' then some (substitute value name, .variable quoted [])
    else some (substitute value name ++ [c], .text quoted)
  | .braced quoted name, c =>
    if c = '\x7d' then some (substitute value name, .text quoted)
    else some ([], .braced quoted (c :: name))
  | .ending, c =>
    if c = ' ' || c = '\t' then some ([], .ending)
    else if c = '#' then some ([], .comment)
    else none
  | .comment, _ => some ([], .comment)

/-- What the end of a value adds to it; none if quotes or braces are open. -/
def ValueState.finish? (value : String → String) : ValueState → Option (List Char)
  | .text quoted => if quoted then none else some []
  | .strong => none
  | .escape quoted => if quoted then none else some []
  | .variable quoted name => if quoted then none else some (substitute value name)
  | .braced .. => none
  | .ending => some []
  | .comment => some []

/-- Reads the rest of a value; `done` holds the value so far, last character first. -/
def readValueFrom (value : String → String) (state : ValueState) (done : List Char) :
    List Char → Option String
  | [] => (state.finish? value).map fun cs => String.ofList (cs.reverse ++ done).reverse
  | c :: cs =>
    match state.step? value c with
    | none => none
    | some (added, state) => readValueFrom value state (added.reverse ++ done) cs

/-- The value that a text stands for; none if it is malformed. -/
def readValue (value : String → String) (cs : List Char) : Option String :=
  readValueFrom value (.text false) [] cs

end ManifestPublish.EnvFile
