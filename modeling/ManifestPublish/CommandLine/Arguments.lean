import ManifestPublish.CommandLine.Stop
import ManifestPublish.Text.Similarity

/-!
# Reading arguments

* `Argument` : the shapes of an argument
* `Arguments` : what the arguments read so far come to
* `parseArguments` : the settings given with options, or why there is to be no run

The value of an option is looked at when the next argument that means something is read, so an
argument without a meaning is told before a fault in the value in front of it.
-/

set_option autoImplicit false

namespace ManifestPublish

/-! ## One argument -/

/-- The shapes of an argument. -/
inductive Argument where
  /-- Two hyphens: no switch follows. -/
  | separator
  /-- Two hyphens and a name; a value may follow an equals sign. -/
  | long (name : Bytes) (value : Option Bytes)
  /-- A hyphen and letters. -/
  | short (letters : Bytes)
  | plain (text : Bytes)
  deriving DecidableEq, Repr

def hyphen : UInt8 := 0x2D

def equalsSign : UInt8 := 0x3D

/-- The shape of what follows two hyphens. -/
def Argument.ofLong (text : Bytes) : Argument :=
  if text = [] then .separator
  else
    match text.dropWhile (· ≠ equalsSign) with
    | [] => .long text none
    | _ :: value => .long (text.takeWhile (· ≠ equalsSign)) (some value)

/-- The shape of an argument. -/
def Argument.ofBytes : Bytes → Argument
  | [] => .plain []
  | b :: rest =>
    if b = hyphen then
      match rest with
      | [] => .plain [hyphen]
      | c :: name => if c = hyphen then .ofLong name else .short rest
    else .plain (b :: rest)

/-! ## Names that mean nothing -/

/-- A name is like another if they are more similar than this. -/
def leastSimilarity : Binary64 := Similarity.share 7 10

/-- The better of two names so far: the later of two that are as good. -/
def betterMatch (name : String) (best : Option (Switch × Binary64)) (switch : Switch) :
    Option (Switch × Binary64) :=
  let similarity := Similarity.jaro name switch.name
  if !leastSimilarity.lt similarity then best
  else
    match best with
    | some (_, greatest) => if similarity.lt greatest then best else some (switch, similarity)
    | none => some (switch, similarity)

/-- The switch whose name is most like a given one, if any is. -/
def similarSwitch? (name : String) : Option Switch :=
  (Switch.all.foldl (betterMatch name) none).map (·.1)

/-! ## Values -/

/-- The value of a path, which is not empty. -/
def readPath (setting : Setting) (value : Bytes) : Except Stop Bytes :=
  if value = [] then .error (.missingValue setting) else .ok value

def readText (value : Bytes) : Except Stop String :=
  match Utf8.decode? value with
  | some text => .ok text
  | none => .error .notText

def readNumber (setting : Setting) (value : Bytes) : Except Stop UInt64 := do
  let text ← readText value
  (Decimal.read text).mapError (.malformedNumber setting text)

/-- The settings with one more. -/
def Overrides.give (o : Overrides) (setting : Setting) (value : Bytes) : Except Stop Overrides :=
  match setting with
  | .manifest => (readPath setting value).map fun path => { o with manifestFile := some path }
  | .sbom => (readPath setting value).map fun path => { o with sbomFile := some path }
  | .subdomain => (readText value).map fun text => { o with subdomain := some text }
  | .baseUrl => (readText value).map fun text => { o with baseUrl := some text }
  | .timeoutSecs => (readNumber setting value).map fun secs => { o with timeoutSecs := some secs }

/-! ## All arguments -/

/-- What the arguments read so far come to. -/
structure Arguments where
  overrides : Overrides
  /-- The settings given, in order. -/
  given : List Setting
  /-- The option read last, with its value if that is read, not yet looked at. -/
  pending : Option (Setting × Option Bytes)
  deriving DecidableEq, Repr

/-- Why reading stops, and the settings that count as given then. -/
structure Halt where
  stop : Stop
  given : List Setting
  deriving DecidableEq, Repr

namespace Arguments

def empty : Arguments := ⟨{}, [], none⟩

/-- Takes in the value of an option. -/
def give (a : Arguments) (setting : Setting) (value : Bytes) : Except Halt Arguments :=
  if a.given.contains setting then .error ⟨.repeated setting, a.given.erase setting⟩
  else
    let given := a.given ++ [setting]
    match a.overrides.give setting value with
    | .ok overrides => .ok ⟨overrides, given, none⟩
    | .error stop => .error ⟨stop, given⟩

/-- Takes in the option read last. -/
def settle (a : Arguments) : Except Halt Arguments :=
  match a.pending with
  | none => .ok a
  | some (setting, some value) => a.give setting value
  | some (setting, none) => .error ⟨.missingValue setting, a.given⟩

/-- The settings that count as given, whether or not the last one is as it should be. -/
def settled (a : Arguments) : List Setting :=
  match a.settle with
  | .ok a => a.given
  | .error halt => halt.given

/-- What the arguments come to when no more follow. -/
def finish (a : Arguments) : Except Stop Overrides :=
  match a.settle with
  | .ok a => .ok a.overrides
  | .error halt => .error halt.stop

/-- Stops for a switch that has no value. -/
def stopFor (a : Arguments) (stop : Stop) : Stop :=
  match a.settle with
  | .ok _ => stop
  | .error halt => halt.stop

/-- Stops at an argument that is no switch and no value. -/
def unknownArgument (argument : String) : Stop := .unknown argument none []

/-- Stops at a name that means nothing. -/
def unknownName (a : Arguments) (name : String) : Stop :=
  let used := a.settled.map Switch.setting
  let argument := "--" ++ name
  match similarSwitch? name with
  | none => .unknown argument none used
  | some switch =>
    .unknown argument (some switch) (if used.contains switch then used else used ++ [switch])

/-- Stops for a switch without a value that was given one. -/
def superfluous (a : Arguments) (switch : Switch) (value : Bytes) : Stop :=
  .superfluousValue (Utf8.decodeLossy value) switch (a.given.map Switch.setting ++ [switch])

/-- Takes in an option, with its value if that comes with it. -/
def takeSetting (a : Arguments) (setting : Setting) (value : Option Bytes) :
    Except Stop Arguments :=
  match a.settle with
  | .error halt => .error halt.stop
  | .ok a =>
    match value with
    | some value => (a.give setting value).mapError Halt.stop
    | none => .ok { a with pending := some (setting, none) }

def asked : Switch → Stop
  | .help => .helpAsked
  | .version => .versionAsked
  | .setting setting => .missingValue setting

/-- Takes in a name after two hyphens. -/
def takeLong (a : Arguments) (name : Bytes) (value : Option Bytes) : Except Stop Arguments :=
  match (Utf8.decode? name).bind Switch.ofName? with
  | none => .error (a.unknownName (Utf8.decodeLossy name))
  | some (.setting setting) => a.takeSetting setting value
  | some switch =>
    match value with
    | some value => .error (a.superfluous switch value)
    | none => .error (a.stopFor (asked switch))

/-- Why letters after a hyphen stop the reading: every letter that means something does. -/
def stopAtLetters (a : Arguments) (letters : Bytes) : Stop :=
  match (Utf8.pieces letters).head? with
  | some (.scalar letter) =>
    match Switch.ofLetter? letter with
    | some switch => a.stopFor (asked switch)
    | none => unknownArgument ("-" ++ String.ofList [letter])
  | _ => unknownArgument ("-" ++ Utf8.decodeLossy letters)

/-- Takes in an argument that is no switch: the value of an option that waits for it. -/
def takePlain (a : Arguments) (text : Bytes) : Except Stop Arguments :=
  match a.pending with
  | some (setting, none) => .ok { a with pending := some (setting, some text) }
  | _ => .error (unknownArgument (Utf8.decodeLossy text))

/-- Ends with the arguments after two hyphens, of which there can be none. -/
def takeRest (a : Arguments) : List Bytes → Except Stop Overrides
  | [] => a.finish
  | text :: _ => .error (unknownArgument (Utf8.decodeLossy text))

/-- Takes in arguments one after the other. -/
def take (a : Arguments) : List Bytes → Except Stop Overrides
  | [] => a.finish
  | text :: rest =>
    match Argument.ofBytes text with
    | .separator => a.takeRest rest
    | .short letters => .error (a.stopAtLetters letters)
    | .long name value =>
      match a.takeLong name value with
      | .ok a => a.take rest
      | .error stop => .error stop
    | .plain text =>
      match a.takePlain text with
      | .ok a => a.take rest
      | .error stop => .error stop

end Arguments

/-- `Cli::parse` and `Cli::overrides`: the settings that arguments give, or why there is to be no
run. -/
def parseArguments (args : List Bytes) : Except Stop Overrides := Arguments.empty.take args

end ManifestPublish
