import ManifestPublish.CommandLine.Arguments
import ManifestPublish.Publish.Run
import ManifestPublish.Settings.EnvFile.Load

/-!
# The program

* `runWith` : a run with the settings given with options and by the environment
* `Failure` : the failures that the program knows, of runs and of anything else
* `run` : a run whose failures are such
* `Outcome` : what the program prints and the code with which it ends
* `runProgram` : the whole program; a file `.env` adds to the environment
-/

set_option autoImplicit false

namespace ManifestPublish

/-- What a run finds. -/
structure World where
  environment : Environment
  tree : FileTree
  session : Session
  deriving DecidableEq, Repr

/-- The run inside `run`, with the settings given with options and by the environment.  It makes no
clients: that `build_client` might fail (`Transport` while "building HTTP client") is left out. -/
def runWith (o : Overrides) (world : World) : Except PublishError Report × Trace Session :=
  match loadConfig o world.environment with
  | .error e => (.error e, ⟨world.session, [], []⟩)
  | .ok config =>
    (publish (.overHttp config.endpoints) world.tree config).trace world.session

/-- The failures that the program knows. -/
inductive Failure where
  | publish (e : PublishError)
  /-- A failure of something that is no run, in words. -/
  | other (text : String)
  deriving DecidableEq, Repr

namespace Failure

/-- The failure and everything behind it, in one line. -/
def chain : Failure → String
  | .publish e => e.chain
  | .other text => text

/-- `exit_code_for`. -/
def exitCode : Failure → Nat
  | .publish e => e.exitCode
  | .other _ => 1

def complaint (failure : Failure) : String := "[ERROR] Publish failed: " ++ failure.chain ++ "\n"

end Failure

/-- `run`: a run as the program sees it. -/
def run (o : Overrides) (world : World) : Except Failure Report × Trace Session :=
  let (result, trace) := runWith o world
  (result.mapError .publish, trace)

/-- What the program prints and the code with which it ends. -/
structure Outcome where
  exitCode : Nat
  stdout : String
  /-- The complaint of the program or of its arguments.  Log lines, which go there too, are left
  out. -/
  stderr : String
  deriving DecidableEq, Repr

def SbomOutcome.summary : SbomOutcome → String
  | .registered report => "Registered SBOM " ++ report.name
  | .skipped path => "No SBOM registered (" ++ Path.display path ++ " not found)"

/-- What `main` prints of a run that succeeded. -/
def Report.summary (r : Report) : String :=
  "Published " ++ r.manifest.name ++ " to fact sheet " ++ r.factSheetId ++ "\n" ++
    r.sbom.summary ++ "\n"

/-- The end of the program when arguments lead to no run: help goes where results go. -/
def Stop.outcome (stop : Stop) : Outcome :=
  if stop.isError then ⟨stop.exitCode, "", stop.message⟩ else ⟨stop.exitCode, stop.message, ""⟩

/-- The end of `main` after a run. -/
def Outcome.ofResult : Except Failure Report → Outcome
  | .ok report => ⟨0, report.summary, ""⟩
  | .error failure => ⟨failure.exitCode, "", failure.complaint⟩

def World.withEnvFile (world : World) : World :=
  { world with environment := world.environment.withFile world.tree }

/-- `main`: the end of the program, and where services stand then. -/
def runProgram (args : List Bytes) (world : World) : Outcome × Session :=
  let world := world.withEnvFile
  match parseArguments args with
  | .error stop => (stop.outcome, world.session)
  | .ok o =>
    let (result, trace) := run o world
    (.ofResult result, trace.services)

end ManifestPublish
