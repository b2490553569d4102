import ManifestPublish.File.Path
import ManifestPublish.Http.Fault
import ManifestPublish.Http.Status
import ManifestPublish.Text.Decimal
import ManifestPublish.Text.Quoted

/-!
# Why a run fails

* `PublishError` : the failures of a run, by cause
* `PublishError.message` : a failure in words
* `PublishError.chain` : the failure and everything behind it, in one line
* `PublishError.exitCode` : the code with which the program ends
-/

set_option autoImplicit false

namespace ManifestPublish

/-- Where a time limit was set. -/
inductive TimeoutSetting where
  | option
  | variable
  deriving DecidableEq, Repr

/-- What is wrong with the settings of a run: the texts that `PublishError::Configuration` holds. -/
inductive SettingFault where
  | missingToken
  | blankToken
  | invalidSubdomain (given : String)
  | invalidBaseUrl (given : String)
  | zeroTimeout (setting : TimeoutSetting)
  | malformedTimeout (fault : Decimal.Fault)
  /-- A fault in someone else's words. -/
  | stated (text : String)
  deriving DecidableEq, Repr

/-- Why the contents of a file could not be had: the source of `PublishError::FileRead`. -/
inductive ReadFault where
  | system (fault : Nat)
  /-- A fault in someone else's words. -/
  | stated (text : String)
  deriving DecidableEq, Repr

/-- What a service was asked to take (`UploadTarget`). -/
inductive UploadTarget where
  | manifest
  | sbom
  deriving DecidableEq, Repr

/-- What is wrong with the answer of a service that did what it was asked: the texts that
`PublishError::malformed` is given. -/
inductive ResponseFault where
  | tokenNotJson (fault : String)
  | noToken
  | manifestNotJson (fault : String)
  /-- A fault in someone else's words. -/
  | stated (text : String)
  deriving DecidableEq, Repr

/-- The failures of a run (`PublishError`). -/
inductive PublishError where
  | configuration (fault : SettingFault)
  | fileNotFound (path : Bytes)
  | fileRead (path : Bytes) (fault : ReadFault)
  | authentication (status : Status) (body : String)
  | upload (target : UploadTarget) (status : Status) (body : String)
  | malformedResponse (fault : ResponseFault)
  | missingIdentifier
  | transport (context : String) (fault : TransportFault)
  deriving DecidableEq, Repr

def TimeoutSetting.name : TimeoutSetting → String
  | .option => "--timeout-secs"
  | .variable => "LEANIX_REQUEST_TIMEOUT_SECS"

def SettingFault.message : SettingFault → String
  | .missingToken => "LEANIX_API_TOKEN must be set to a valid API token"
  | .blankToken => "a valid API token is required"
  | .invalidSubdomain given =>
    "invalid subdomain " ++ Quoted.encode given ++
      ": expected lowercase letters, digits and hyphens"
  | .invalidBaseUrl given =>
    "invalid base URL " ++ Quoted.encode given ++ ": must start with http:// or https://"
  | .zeroTimeout setting => setting.name ++ " must be at least one second"
  | .malformedTimeout fault =>
    TimeoutSetting.variable.name ++ " must be a positive integer: " ++ fault.message
  | .stated text => text

def ReadFault.message : ReadFault → String
  | .system fault => SystemFault.message fault
  | .stated text => text

/-- The `Display` form of `UploadTarget`. -/
def UploadTarget.name : UploadTarget → String
  | .manifest => "manifest"
  | .sbom => "sbom"

def UploadTarget.all : List UploadTarget := [.manifest, .sbom]

def ResponseFault.message : ResponseFault → String
  | .tokenNotJson fault => "token response is not valid JSON: " ++ fault
  | .noToken => "token response has no access_token"
  | .manifestNotJson fault => "manifest response is not valid JSON: " ++ fault
  | .stated text => text

namespace PublishError

/-- The `Display` form of `PublishError`. -/
def message : PublishError → String
  | .configuration fault => "configuration error: " ++ fault.message
  | .fileNotFound path => "file " ++ Path.display path ++ " not found"
  | .fileRead path fault => "failed to read file " ++ Path.display path ++ ": " ++ fault.message
  | .authentication status body =>
    "authentication failed with status " ++ Status.line status ++ ": " ++ body
  | .upload target status body =>
    target.name ++ " upload failed with status " ++ Status.line status ++ ": " ++ body
  | .malformedResponse fault => "malformed response: " ++ fault.message
  | .missingIdentifier => "service did not return a fact sheet ID"
  | .transport context fault => "transport error during " ++ context ++ ": " ++ fault.message

/-- The errors behind the failure, outermost first, as `source` leads to them. -/
def sources : PublishError → List String
  | .fileRead _ fault => [fault.message]
  | .transport _ fault => fault.message :: fault.sources
  | _ => []

/-- The failure and everything behind it, in one line. -/
def chain (e : PublishError) : String := String.intercalate ": " (e.message :: e.sources)

/-- `PublishError::exit_code`. -/
def exitCode : PublishError → Nat
  | .configuration _ => 2
  | .fileNotFound _ => 3
  | .fileRead .. => 3
  | .authentication .. => 4
  | .upload .. => 5
  | .missingIdentifier => 6
  | .malformedResponse _ => 7
  | .transport .. => 8

end PublishError

end ManifestPublish
