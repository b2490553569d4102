import ManifestPublish.Publish.Service
import ManifestPublish.Publish.Stage

/-!
# A run

A run reads the manifest, gets an access token, uploads the manifest and registers the SBOM for the
fact sheet that the service names.  Each step needs what the one before it gave.  A missing SBOM is
no failure.

* `Report` : what a run comes to
* `Trace` : what happened on the way
* `publish` : a run
* `uploadManifestFile`, `registerSboms` : its last two steps
-/

set_option autoImplicit false

namespace ManifestPublish

/-- What became of the SBOM (`SbomOutcome`). -/
inductive SbomOutcome where
  | registered (report : FileReport)
  /-- There is no file at the path; nothing was sent. -/
  | skipped (path : Bytes)
  deriving DecidableEq, Repr

/-- What a run comes to (`PublishReport`). -/
structure Report where
  factSheetId : String
  manifest : FileReport
  sbom : SbomOutcome
  deriving DecidableEq, Repr

/-- What happened so far.  Of the log lines those with a stage are kept, by their stage. -/
structure Trace (σ : Type) where
  /-- What the services keep. -/
  services : σ
  calls : List Call
  stages : List Stage

/-- A part of a run: it may fail, and leaves a trace either way. -/
abbrev Act (σ : Type) := ExceptT PublishError (StateM (Trace σ))

def reach {σ : Type} (stage : Stage) : Act σ Unit :=
  modify fun t => { t with stages := t.stages ++ [stage] }

def ask {σ α : Type} (call : Call) (answer : σ → Except PublishError α × σ) : Act σ α :=
  fun t =>
    let (reply, services) := answer t.services
    (reply, { t with services, calls := t.calls ++ [call] })

section Steps

variable {σ α β : Type} {services services' : σ} {calls : List Call} {stages : List Stage}

theorem Act.bind_ok {act : Act σ α} {next : α → Act σ β} {t t' : Trace σ} {a : α}
    (h : act t = (.ok a, t')) : (act >>= next) t = next a t' := by
  simp only [bind, ExceptT.bind, ExceptT.mk, StateT.bind, h]
  rfl

/-- A part that fails is the last one. -/
theorem Act.bind_error {act : Act σ α} {next : α → Act σ β} {t t' : Trace σ} {e : PublishError}
    (h : act t = (.error e, t')) : (act >>= next) t = (.error e, t') := by
  simp only [bind, ExceptT.bind, ExceptT.mk, StateT.bind, h]
  rfl

theorem Act.tryCatch_ok {act : Act σ α} {handle : PublishError → Act σ α} {t t' : Trace σ} {a : α}
    (h : act t = (.ok a, t')) : (tryCatch act handle : Act σ α) t = (.ok a, t') := by
  simp only [tryCatch, tryCatchThe, MonadExceptOf.tryCatch, ExceptT.tryCatch, ExceptT.mk, bind,
    StateT.bind, h]
  rfl

theorem Act.tryCatch_error {act : Act σ α} {handle : PublishError → Act σ α} {t t' : Trace σ}
    {e : PublishError} (h : act t = (.error e, t')) :
    (tryCatch act handle : Act σ α) t = handle e t' := by
  simp only [tryCatch, tryCatchThe, MonadExceptOf.tryCatch, ExceptT.tryCatch, ExceptT.mk, bind,
    StateT.bind, h]

theorem ofExcept_apply (result : Except PublishError α) (t : Trace σ) :
    (MonadExcept.ofExcept result : Act σ α) t = (result, t) := by
  cases result <;> rfl

theorem reach_apply (stage : Stage) :
    reach stage ⟨services, calls, stages⟩ = (.ok (), ⟨services, calls, stages ++ [stage]⟩) := rfl

theorem ask_apply {call : Call} {answer : σ → Except PublishError α × σ}
    {reply : Except PublishError α} (h : answer services = (reply, services')) :
    ask call answer ⟨services, calls, stages⟩ = (reply, ⟨services', calls ++ [call], stages⟩) := by
  simp only [ask, h]

end Steps

/-- `upload_manifest_file`: the id of the fact sheet of a manifest, which the service has to
name. -/
def uploadManifestFile {σ : Type} (service : Service σ) (token : AccessToken)
    (manifest : LocalFile) : Act σ String := do
  let result ← ask (.uploadManifest token manifest) (service.uploadManifest token manifest)
  match result.factSheetId with
  | some id =>
    reach .manifestUploaded
    return id
  | none => throw .missingIdentifier

/-- `register_sboms`: registers the SBOM at a path, if there is one. -/
def registerSboms {σ : Type} (service : Service σ) (tree : FileTree) (token : AccessToken)
    (factSheetId : String) (path : Bytes) : Act σ SbomOutcome := do
  reach .sbomChecked
  match tree.ensureFile path with
  | .error _ =>
    reach .sbomSkipped
    return .skipped path
  | .ok () =>
    let sbom ← MonadExcept.ofExcept (tree.read path)
    ask (.registerSbom token factSheetId sbom) (service.registerSbom token factSheetId sbom)
    reach .sbomUploaded
    return .registered sbom.report

/-- `run_stages`: the steps of a run. -/
def runStages {σ : Type} (service : Service σ) (tree : FileTree) (config : PublishConfig) :
    Act σ Report := do
  let manifest ← MonadExcept.ofExcept (tree.read config.manifestFile)
  reach .manifestValidated
  let token ← ask (.fetchToken config.credentials) (service.fetchToken config.credentials)
  reach .tokenObtained
  let factSheetId ← uploadManifestFile service token manifest
  let sbom ← registerSboms service tree token factSheetId config.sbomFile
  return ⟨factSheetId, manifest.report, sbom⟩

/-- `publish`: a run, told from its start to its end. -/
def publish {σ : Type} (service : Service σ) (tree : FileTree) (config : PublishConfig) :
    Act σ Report := do
  reach .start
  tryCatch
    (do
      let report ← runStages service tree config
      reach .done
      return report)
    (fun e => do
      reach .failed
      throw e)

/-- A part of a run from where services stand: how it ended and what happened. -/
def Act.trace {σ α : Type} (act : Act σ α) (services : σ) : Except PublishError α × Trace σ :=
  act ⟨services, [], []⟩

end ManifestPublish
