import ManifestPublish.CommandLine.Program
import ManifestPublish.File.Edit

/-!
# The command line

Reads arguments, variables and files, and prints what the program comes to.  Hosts count as
unreachable: nothing is sent from here.
-/

set_option autoImplicit false

namespace ManifestPublish

/-- The names that a file may mention. -/
def mentionedNames (contents : Bytes) : List String :=
  let text := (Utf8.decodeLossy contents).toList
  let separated := text.map fun c => if EnvFile.isNamePart c then c else ' '
  ((String.ofList separated).splitOn " ").filter (· ≠ "")

/-- The environment of the process, as far as it is asked for. -/
def readEnvironment (names : List String) : IO Environment := do
  let mut env := Environment.empty
  for name in names do
    match ← IO.getEnv name with
    | some value => env := env.set name (Utf8.encode value)
    | none => pure ()
  return env

/-- The tree with the file of a path, if there is one. -/
def addFile (tree : FileTree) (path : Bytes) : IO FileTree := do
  match Utf8.decode? path with
  | none => return tree
  | some name =>
    try
      let contents ← IO.FS.readBinFile name
      return tree.write path (.file contents.toList)
    catch
      | .permissionDenied .. =>
        return tree.write path (.unreadable SystemFault.permissionDenied)
      | _ => return tree

/-- The files that a run may read. -/
def readTree (paths : List Bytes) : IO FileTree := paths.foldlM addFile ⟨[], []⟩

/-- Runs the program on the process's arguments. -/
def runProcess (args : List String) : IO UInt32 := do
  let bytes := args.map Utf8.encode
  let tree ← readTree [EnvFile.name]
  let mentioned := ((EnvFile.contents? tree).map mentionedNames).getD []
  let env ← readEnvironment (settingVariables ++ mentioned)
  let paths :=
    match parseArguments bytes with
    | .error _ => []
    | .ok o =>
      match loadConfig o (env.withFile tree) with
      | .error _ => []
      | .ok config => [config.manifestFile, config.sbomFile]
  let tree ← readTree (EnvFile.name :: paths)
  let (outcome, _) := runProgram bytes ⟨env, tree, .ofAnswers false []⟩
  (← IO.getStdout).putStr outcome.stdout
  (← IO.getStderr).putStr outcome.stderr
  return UInt32.ofNat outcome.exitCode

end ManifestPublish

/-- The program. -/
def main (args : List String) : IO UInt32 := ManifestPublish.runProcess args
