import ManifestPublish.Settings.Load

/-!
# The options of the program

* `Setting` : the settings that have an option
* `Switch` : everything that is given by name
* `Usage.help`, `Usage.version` : what the program says of itself
* `Usage.line` : how it is called
-/

set_option autoImplicit false

namespace ManifestPublish

/-- The settings that have an option. -/
inductive Setting where
  | manifest
  | sbom
  | subdomain
  | baseUrl
  | timeoutSecs
  deriving DecidableEq, Repr

namespace Setting

/-- All settings that have an option. -/
def all : List Setting := [.manifest, .sbom, .subdomain, .baseUrl, .timeoutSecs]

def name : Setting → String
  | .manifest => "manifest"
  | .sbom => "sbom"
  | .subdomain => "subdomain"
  | .baseUrl => "base-url"
  | .timeoutSecs => "timeout-secs"

/-- What stands for the value of the option. -/
def placeholder : Setting → String
  | .manifest => "MANIFEST"
  | .sbom => "SBOM"
  | .subdomain => "SUBDOMAIN"
  | .baseUrl => "BASE_URL"
  | .timeoutSecs => "TIMEOUT_SECS"

/-- The option with its value. -/
def display (s : Setting) : String := "--" ++ s.name ++ " <" ++ s.placeholder ++ ">"

def description : Setting → String
  | .manifest => "Manifest file to upload (overrides LEANIX_MANIFEST_FILE, default leanix.yaml)"
  | .sbom => "SBOM file to register (overrides LEANIX_SBOM_FILE, default sbom.json)"
  | .subdomain => "Workspace subdomain (overrides LEANIX_SUBDOMAIN, default leanix)"
  | .baseUrl => "Full services base URL (overrides LEANIX_BASE_URL)"
  | .timeoutSecs =>
    "Per-request timeout in seconds (overrides LEANIX_REQUEST_TIMEOUT_SECS, default 20)"

end Setting

/-- Everything that is given by name. -/
inductive Switch where
  | setting (setting : Setting)
  | help
  | version
  deriving DecidableEq, Repr

namespace Switch

/-- Everything that is given by name, in order. -/
def all : List Switch := Setting.all.map .setting ++ [.help, .version]

/-- The name after two hyphens. -/
def name : Switch → String
  | .setting s => s.name
  | .help => "help"
  | .version => "version"

/-- The switch of a name. -/
def ofName? (name : String) : Option Switch := all.find? (·.name = name)

/-- The switch with its value, if it has one. -/
def display : Switch → String
  | .setting s => s.display
  | .help => "--help"
  | .version => "--version"

/-- The letter that stands for the switch after one hyphen. -/
def letter? : Switch → Option Char
  | .setting _ => none
  | .help => some 'h'
  | .version => some 'V'

/-- The switch of a letter. -/
def ofLetter? (letter : Char) : Option Switch := all.find? (·.letter? = some letter)

def description : Switch → String
  | .setting s => s.description
  | .help => "Print help"
  | .version => "Print version"

end Switch

namespace Usage

def program : String := "leanix-publish"

def version : String := program ++ " 0.1.0\n"

def summary : String :=
  "Upload a service manifest to LeanIX and register its SBOM against the fact sheet"

/-- How the program is called with given switches. -/
def line (used : List Switch) : String :=
  let switches := if used = [] then ["[OPTIONS]"] else used.map Switch.display
  "Usage: " ++ String.intercalate " " (program :: switches)

/-- A switch with its letter, or the room for one. -/
def label (s : Switch) : String :=
  match s.letter? with
  | some letter => "  -" ++ String.ofList [letter] ++ ", " ++ s.display
  | none => "      " ++ s.display

/-- How wide the labels are with the space after them. -/
def labelWidth : Nat := (Switch.all.map fun s => (label s).length).foldl max 0 + 2

/-- A switch with what it is for, in columns. -/
def describe (s : Switch) : String :=
  let room := labelWidth - (label s).length
  label s ++ String.ofList (List.replicate room ' ') ++ s.description ++ "\n"

/-- What the program says of itself. -/
def help : String :=
  summary ++ "\n\n" ++ line [] ++ "\n\nOptions:\n" ++ String.join (Switch.all.map describe)

end Usage

end ManifestPublish
