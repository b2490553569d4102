import ManifestPublish.Settings.Endpoints
import ManifestPublish.Text.Quoted

/-!
# The settings of a run

* `Credentials` : the API token and the workspace that it belongs to
* `AccessToken` : what the service gives out for an API token
* `PublishConfig` : everything that a run is told
* `Credentials.describe`, `AccessToken.describe`, `PublishConfig.describe` : descriptions that hold
  no secret
-/

set_option autoImplicit false

namespace ManifestPublish

/-- The API token and the workspace that it belongs to (`Credentials`). -/
structure Credentials where
  apiToken : String
  subdomain : String
  deriving DecidableEq

/-- What the service gives out for an API token (`AccessToken`). -/
structure AccessToken where
  value : String
  deriving DecidableEq

/-- Everything that a run is told (`PublishConfig`). -/
structure PublishConfig where
  credentials : Credentials
  endpoints : Endpoints
  manifestFile : Bytes
  sbomFile : Bytes
  /-- How long one request may take. -/
  timeoutSecs : UInt64
  deriving DecidableEq

/-- What `debug_struct` writes: a name, and fields with their values. -/
def describeFields (name : String) (fields : List (String × String)) : String :=
  name ++ " \x7b " ++ String.intercalate ", " (fields.map fun f => f.1 ++ ": " ++ f.2) ++ " \x7d"

/-- The `Debug` form of `Credentials`, without the API token. -/
def Credentials.describe (c : Credentials) : String :=
  describeFields "Credentials"
    [("api_token", Quoted.encode "<redacted>"), ("subdomain", Quoted.encode c.subdomain)]

/-- The `Debug` form of `AccessToken`, which tells only the length. -/
def AccessToken.describe (t : AccessToken) : String :=
  "AccessToken(<" ++ toString t.value.utf8ByteSize ++ " chars>)"

/-- The `Debug` form of `Endpoints`. -/
def Endpoints.describe (e : Endpoints) : String :=
  describeFields "Endpoints" [("base_url", Quoted.encode e.baseUrl)]

/-- The `Debug` form of `PublishConfig`, with the credentials in theirs. -/
def PublishConfig.describe (c : PublishConfig) : String :=
  describeFields "PublishConfig"
    [("credentials", c.credentials.describe), ("endpoints", c.endpoints.describe),
      ("manifest_file", Quoted.encodeBytes c.manifestFile),
      ("sbom_file", Quoted.encodeBytes c.sbomFile),
      ("timeout", toString c.timeoutSecs.toNat ++ "s")]

end ManifestPublish
