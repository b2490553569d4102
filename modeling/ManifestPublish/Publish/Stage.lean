/-!
# The stages of a run

* `Stage` : how far a run has got
* `Stage.name`, `Stage.level`, `Stage.message` : how a stage is told
-/

set_option autoImplicit false

namespace ManifestPublish

/-- How far a run has got (`PublishStage`). -/
inductive Stage where
  | start
  | manifestValidated
  | tokenObtained
  | manifestUploaded
  | sbomChecked
  | sbomUploaded
  | sbomSkipped
  | done
  | failed
  deriving DecidableEq, Repr

/-- How much a message matters. -/
inductive Level where
  | info
  | warn
  | error
  deriving DecidableEq, Repr

def Level.name : Level → String
  | .info => "INFO"
  | .warn => "WARN"
  | .error => "ERROR"

namespace Stage

def all : List Stage :=
  [.start, .manifestValidated, .tokenObtained, .manifestUploaded, .sbomChecked, .sbomUploaded,
    .sbomSkipped, .done, .failed]

/-- The `Display` form of `PublishStage`. -/
def name : Stage → String
  | .start => "START"
  | .manifestValidated => "MANIFEST_VALIDATED"
  | .tokenObtained => "TOKEN_OBTAINED"
  | .manifestUploaded => "MANIFEST_UPLOADED"
  | .sbomChecked => "SBOM_CHECKED"
  | .sbomUploaded => "SBOM_UPLOADED"
  | .sbomSkipped => "SBOM_SKIPPED"
  | .done => "DONE"
  | .failed => "FAILED"

/-- How much the log line of a stage matters. -/
def level : Stage → Level
  | .sbomSkipped => .warn
  | .failed => .error
  | _ => .info

/-- What the log line of a stage says. -/
def message : Stage → String
  | .start => "Starting publish run"
  | .manifestValidated => "Processing manifest file"
  | .tokenObtained => "Access token obtained"
  | .manifestUploaded => "Manifest uploaded"
  | .sbomChecked => "Checking for sbom file"
  | .sbomUploaded => "SBOM registered"
  | .sbomSkipped => "No sbom file found"
  | .done => "Publish run complete"
  | .failed => "Publish run failed"

end Stage

end ManifestPublish
