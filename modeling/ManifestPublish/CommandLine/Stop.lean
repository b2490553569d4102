import ManifestPublish.CommandLine.Usage

/-!
# Why arguments lead to no run

* `Stop` : what was asked for instead, or what is wrong
* `Stop.message` : what is printed
* `Stop.exitCode` : the code with which the program ends
-/

set_option autoImplicit false

namespace ManifestPublish

/-- Why arguments lead to no run. -/
inductive Stop where
  | helpAsked
  | versionAsked
  /-- An argument that means nothing; one like it that does, and the switches given so far. -/
  | unknown (argument : String) (similar : Option Switch) (used : List Switch)
  | missingValue (setting : Setting)
  | malformedNumber (setting : Setting) (given : String) (fault : Decimal.Fault)
  | repeated (setting : Setting)
  /-- A value for a switch that has none, and the switches given so far. -/
  | superfluousValue (given : String) (switch : Switch) (used : List Switch)
  /-- A value that is not UTF-8. -/
  | notText
  deriving DecidableEq, Repr

namespace Stop

/-- What is wrong, in words and without a hint; nothing if nothing is. -/
def complaint : Stop → List String
  | .helpAsked => []
  | .versionAsked => []
  | .unknown argument similar used =>
    ["unexpected argument '" ++ argument ++ "' found"] ++
      (match similar with
        | some switch => ["  tip: a similar argument exists: '--" ++ switch.name ++ "'"]
        | none => []) ++
      [Usage.line used]
  | .missingValue setting =>
    ["a value is required for '" ++ setting.display ++ "' but none was supplied"]
  | .malformedNumber setting given fault =>
    ["invalid value '" ++ given ++ "' for '" ++ setting.display ++ "': " ++ fault.message]
  | .repeated setting =>
    ["the argument '" ++ setting.display ++ "' cannot be used multiple times", Usage.line []]
  | .superfluousValue given switch used =>
    ["unexpected value '" ++ given ++ "' for '" ++ switch.display ++
      "' found; no more were expected", Usage.line used]
  | .notText => ["invalid UTF-8 was detected in one or more arguments", Usage.line []]

/-- Where to learn more. -/
def hint : String := "For more information, try '--help'."

def message (stop : Stop) : String :=
  match stop with
  | .helpAsked => Usage.help
  | .versionAsked => Usage.version
  | _ => "error: " ++ String.intercalate "\n\n" (stop.complaint ++ [hint]) ++ "\n"

def isError : Stop → Bool
  | .helpAsked => false
  | .versionAsked => false
  | _ => true

def exitCode (stop : Stop) : Nat := if stop.isError then 2 else 0

end Stop

end ManifestPublish
