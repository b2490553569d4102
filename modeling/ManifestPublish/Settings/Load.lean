import ManifestPublish.Publish.Error
import ManifestPublish.Settings.Config
import ManifestPublish.Settings.Environment

/-!
# Where settings come from

A setting given with an option wins over the variable of the environment, and that over the
default.  A variable counts if it is UTF-8 and not blank; the blanks around it do not count, but
in a path they do.

* `Overrides` : the settings given with options
* `settingVariables` : the variables that settings come from
* `isSubdomain` : the names that a workspace can have
* `loadConfig` : the settings of a run; of several faults the one in the first of token, subdomain,
  base URL and time limit is told
-/

set_option autoImplicit false

namespace ManifestPublish

/-- The settings given with options (`ConfigOverrides`). -/
structure Overrides where
  manifestFile : Option Bytes := none
  sbomFile : Option Bytes := none
  subdomain : Option String := none
  baseUrl : Option String := none
  timeoutSecs : Option UInt64 := none
  deriving DecidableEq, Repr

namespace Variable

/-- `ENV_API_TOKEN`. -/
def apiToken : String := "LEANIX_API_TOKEN"

/-- `ENV_SUBDOMAIN`. -/
def subdomain : String := "LEANIX_SUBDOMAIN"

/-- `ENV_BASE_URL`. -/
def baseUrl : String := "LEANIX_BASE_URL"

/-- `ENV_MANIFEST_FILE`. -/
def manifestFile : String := "LEANIX_MANIFEST_FILE"

/-- `ENV_SBOM_FILE`. -/
def sbomFile : String := "LEANIX_SBOM_FILE"

/-- `ENV_TIMEOUT_SECS`. -/
def timeoutSecs : String := "LEANIX_REQUEST_TIMEOUT_SECS"

end Variable

/-- The variables that settings come from. -/
def settingVariables : List String :=
  [Variable.apiToken, Variable.subdomain, Variable.baseUrl, Variable.manifestFile,
    Variable.sbomFile, Variable.timeoutSecs]

namespace Default

/-- `DEFAULT_SUBDOMAIN`. -/
def subdomain : String := "leanix"

/-- `DEFAULT_MANIFEST_FILE`. -/
def manifestFile : String := "leanix.yaml"

/-- `DEFAULT_SBOM_FILE`. -/
def sbomFile : String := "sbom.json"

/-- `DEFAULT_TIMEOUT`, in seconds. -/
def timeoutSecs : UInt64 := 20

end Default

def isSubdomainEdge (c : Char) : Bool := ('a' ≤ c && c ≤ 'z') || ('0' ≤ c && c ≤ '9')

def isSubdomainInner (c : Char) : Bool := isSubdomainEdge c || c = '-'

/-- The pattern `SUBDOMAIN`: a letter or digit, or several with letters, digits and hyphens between
them. -/
def isSubdomain (s : String) : Bool :=
  match s.toList with
  | [] => false
  | first :: rest =>
    isSubdomainEdge first &&
      (match rest.reverse with
        | [] => true
        | last :: inner => isSubdomainEdge last && inner.all isSubdomainInner)

def hasWebScheme (url : String) : Bool :=
  "https://".toList.isPrefixOf url.toList || "http://".toList.isPrefixOf url.toList

/-- The API token in `load_config`; no option gives it. -/
def loadToken (env : Environment) : Except SettingFault String :=
  match env.setting? Variable.apiToken with
  | some token => .ok token
  | none => .error .missingToken

/-- The workspace in `load_config`. -/
def loadSubdomain (o : Overrides) (env : Environment) : Except SettingFault String :=
  let subdomain := (o.subdomain <|> env.setting? Variable.subdomain).getD Default.subdomain
  if isSubdomain subdomain then .ok subdomain else .error (.invalidSubdomain subdomain)

/-- The endpoints in `load_config`, under a base URL if there is one. -/
def loadEndpoints (o : Overrides) (env : Environment) (subdomain : String) :
    Except SettingFault Endpoints :=
  match o.baseUrl <|> env.setting? Variable.baseUrl with
  | none => .ok (.ofSubdomain subdomain)
  | some url => if hasWebScheme url then .ok (.ofBaseUrl url) else .error (.invalidBaseUrl url)

/-- `parse_timeout`: the time limit that a text stands for. -/
def parseTimeout (s : String) : Except SettingFault UInt64 :=
  match Decimal.read s with
  | .ok secs => if secs = 0 then .error (.zeroTimeout .variable) else .ok secs
  | .error fault => .error (.malformedTimeout fault)

/-- The time limit in `load_config`. -/
def loadTimeout (o : Overrides) (env : Environment) : Except SettingFault UInt64 :=
  match o.timeoutSecs with
  | some secs => if secs = 0 then .error (.zeroTimeout .option) else .ok secs
  | none =>
    match env.setting? Variable.timeoutSecs with
    | some text => parseTimeout text
    | none => .ok Default.timeoutSecs

/-- A path in `load_config`: given with an option, or by a variable, or else the default. -/
def loadPath (given : Option Bytes) (env : Environment) (name fallback : String) : Bytes :=
  (given <|> (env.filled? name).map Utf8.encode).getD (Utf8.encode fallback)

/-- The settings of a run, or the first fault in them. -/
def loadSettings (o : Overrides) (env : Environment) : Except SettingFault PublishConfig := do
  let token ← loadToken env
  let subdomain ← loadSubdomain o env
  let endpoints ← loadEndpoints o env subdomain
  let timeoutSecs ← loadTimeout o env
  return {
    credentials := ⟨token, subdomain⟩
    endpoints
    manifestFile := loadPath o.manifestFile env Variable.manifestFile Default.manifestFile
    sbomFile := loadPath o.sbomFile env Variable.sbomFile Default.sbomFile
    timeoutSecs }

/-- `load_config`: the settings of a run.  What it logs is left out. -/
def loadConfig (o : Overrides) (env : Environment) : Except PublishError PublishConfig :=
  (loadSettings o env).mapError .configuration

section Load

variable {o : Overrides} {env : Environment}

theorem loadConfig_ok {config : PublishConfig} (h : loadConfig o env = .ok config) :
    loadSettings o env = .ok config := by
  unfold loadConfig at h
  cases hload : loadSettings o env with
  | error fault =>
    rw [hload] at h
    cases h
  | ok loaded =>
    rw [hload] at h
    cases h
    rfl

/-- What is wrong with the settings of a run is told as such. -/
theorem loadConfig_error {e : PublishError} (h : loadConfig o env = .error e) :
    ∃ fault, e = .configuration fault := by
  unfold loadConfig at h
  cases hload : loadSettings o env with
  | error fault =>
    rw [hload] at h
    cases h
    exact ⟨fault, rfl⟩
  | ok loaded =>
    rw [hload] at h
    cases h

/-- The API token of a run is the variable as a setting. -/
theorem loadSettings_apiToken {config : PublishConfig} (h : loadSettings o env = .ok config) :
    env.setting? Variable.apiToken = some config.credentials.apiToken := by
  unfold loadSettings loadToken at h
  cases htoken : env.setting? Variable.apiToken with
  | none =>
    rw [htoken] at h
    cases h
  | some token =>
    rw [htoken] at h
    simp only [bind, Except.bind] at h
    split at h
    · cases h
    split at h
    · cases h
    split at h
    · cases h
    cases h
    rfl

/-- No run has a blank API token. -/
theorem isBlankText_apiToken {config : PublishConfig} (h : loadConfig o env = .ok config) :
    Blank.isBlankText config.credentials.apiToken = false :=
  Environment.isBlankText_of_setting? (loadSettings_apiToken (loadConfig_ok h))

end Load

end ManifestPublish
