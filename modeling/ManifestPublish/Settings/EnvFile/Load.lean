import ManifestPublish.File.Resolve
import ManifestPublish.Settings.EnvFile.Line
import ManifestPublish.Settings.EnvFile.Value
import ManifestPublish.Settings.Environment

/-!
# Environment files

A file of assignments to variables, which count where the environment has none.

* `readLine` : what a line says
* `Environment.assign` : the environment after the assignments of some lines
* `Environment.withFile` : the environment together with the file `.env`

Of two assignments to one variable the first counts.  The first malformed line ends the reading,
and what was assigned before it stays.
-/

set_option autoImplicit false

namespace ManifestPublish

namespace EnvFile

/-- What a line says. -/
inductive Line where
  | nothing
  /-- A name and the text of its value. -/
  | assignment (name : String) (value : List Char)
  | malformed
  deriving DecidableEq, Repr

def isNameStart (c : Char) : Bool := c.isAlpha || c = '_'

def isNamePart (c : Char) : Bool := c.isAlphanum || c = '_' || c = '.'

/-- Reads a name and the blanks after it. -/
def readName? (cs : List Char) : Option (List Char × List Char) :=
  match cs with
  | [] => none
  | c :: _ =>
    if isNameStart c then
      some (cs.takeWhile isNamePart, Blank.trimStartChars (cs.dropWhile isNamePart))
    else none

/-- Reads the equals sign after a name and the blanks after it. -/
def readAssignment (name : List Char) : List Char → Line
  | '=' :: cs => .assignment (String.ofList name) (Blank.trimStartChars cs)
  | _ => .malformed

/-- The word that may stand before a name. -/
def exportWord : List Char := "export".toList

/-- What a line says. -/
def readLine (line : List Char) : Line :=
  let line := Blank.trimChars line
  if line = [] || line.head? = some '#' then .nothing
  else
    match readName? line with
    | none => .malformed
    | some (name, rest) =>
      if name = exportWord && rest.head? ≠ some '=' then
        match readName? rest with
        | none => .malformed
        | some (name, rest) => readAssignment name rest
      else readAssignment name rest

/-- The value that a text stands for; a comment alone is an empty value. -/
def valueOf? (value : String → String) (text : List Char) : Option String :=
  if text.head? = some '#' then some "" else readValue value text

def name : Bytes := Utf8.encode ".env"

/-- What a directory tells a search for the file. -/
inductive Sighting where
  | found (contents : Bytes)
  /-- Nothing has the name, or what has it is no regular file: the search goes on above. -/
  | absent
  /-- The file cannot be read, or the way to it is blocked: the search ends. -/
  | lost
  deriving DecidableEq, Repr

/-- What the name of the file stands for in a directory, links followed. -/
def sightIn (tree : FileTree) (directory : Place) : Sighting :=
  match tree.walk FileTree.maxLinks directory [name] with
  | .arrived place =>
    match tree.entryAt? place with
    | some (.file contents) => .found contents
    | some (.unreadable _) => .lost
    | _ => .absent
  | .absent .. => .absent
  | _ => .lost

/-- The contents of the file in a directory or the nearest one above it that has it. -/
def contentsAbove? (tree : FileTree) (directory : Place) : Option Bytes :=
  match sightIn tree directory, directory with
  | .found contents, _ => some contents
  | .lost, _ => none
  | .absent, [] => none
  | .absent, _ :: above => contentsAbove? tree above

/-- The contents of the file that goes with the working directory. -/
def contents? (tree : FileTree) : Option Bytes := contentsAbove? tree tree.workingDirectory

section Search

variable {tree : FileTree} {directory place : Place} {contents : Bytes}

theorem sightIn_of_file
    (hwalk : tree.walk FileTree.maxLinks directory [name] = .arrived place)
    (hentry : tree.entryAt? place = some (.file contents)) :
    sightIn tree directory = .found contents := by
  rw [sightIn, hwalk]
  simp only [hentry]

theorem contents?_of_found (h : sightIn tree tree.workingDirectory = .found contents) :
    contents? tree = some contents := by
  rw [contents?]
  unfold contentsAbove?
  rw [h]

end Search

end EnvFile

namespace Environment

/-- The value of a variable in a text: that of the environment, else the last one assigned, else
nothing. -/
def valueIn (env : Environment) (assigned : List (String × String)) (name : String) : String :=
  (env.text? name <|> (assigned.find? (·.1 = name)).map (·.2)).getD ""

/-- Assigns a value to a variable that has none. -/
def setDefault (env : Environment) (name value : String) : Environment :=
  if (env.text? name).isSome then env else env.set name (Utf8.encode value)

/-- The environment after the assignments of some lines; `assigned` holds those before, last one
first. -/
def assign (env : Environment) (assigned : List (String × String)) :
    List (List Char) → Environment
  | [] => env
  | line :: rest =>
    match EnvFile.readLine line with
    | .nothing => env.assign assigned rest
    | .malformed => env
    | .assignment name text =>
      match EnvFile.valueOf? (env.valueIn assigned) text with
      | none => env
      | some value => (env.setDefault name value).assign ((name, value) :: assigned) rest

/-- `dotenvy::dotenv`: the environment together with the file `.env`, if there is one. -/
def withFile (env : Environment) (tree : FileTree) : Environment :=
  match EnvFile.contents? tree with
  | some bytes => env.assign [] (EnvFile.logicalLines bytes)
  | none => env

end Environment

end ManifestPublish
