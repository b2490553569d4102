import ManifestPublish.Json.Record
import ManifestPublish.Publish.Error
import ManifestPublish.Settings.Config

/-!
# What services answer

* `decodeToken` : the access token in the answer to a token request
* `decodeFactSheetId` : the fact sheet id in the answer to an upload, if there is one
* `UploadResult` : what an upload that was taken comes to

An empty token or id counts as absent.
-/

set_option autoImplicit false

namespace ManifestPublish

/-- `TokenResponse`, with the name of its member in an answer. -/
def tokenRecord : Json.RecordName := ⟨"TokenResponse", "access_token"⟩

/-- `ManifestResponse`. -/
def manifestRecord : Json.RecordName := ⟨"ManifestResponse", "data"⟩

/-- `ManifestData`, whose member is written in camel case. -/
def manifestDataRecord : Json.RecordName := ⟨"ManifestData", "factSheetId"⟩

def readTokenRecord : Json.Reader (Option String) :=
  Json.readRecord tokenRecord (Json.readOptional Json.readText)

def readManifestData : Json.Reader (Option String) :=
  Json.readRecord manifestDataRecord (Json.readOptional Json.readText)

def readManifestRecord : Json.Reader (Option (Option String)) :=
  Json.readRecord manifestRecord (Json.readOptional readManifestData)

/-- `parse_token_response`: the access token in the answer to a token request. -/
def decodeToken (text : String) : Except ResponseFault AccessToken :=
  match Json.decode readTokenRecord text with
  | .error fault => .error (.tokenNotJson fault)
  | .ok none => .error .noToken
  | .ok (some token) => if token = "" then .error .noToken else .ok ⟨token⟩

/-- `parse_fact_sheet_id`: the fact sheet id in the answer to an upload, if there is one. -/
def decodeFactSheetId (text : String) : Except ResponseFault (Option String) :=
  match Json.decode readManifestRecord text with
  | .error fault => .error (.manifestNotJson fault)
  | .ok found => .ok (found.join.filter (· ≠ ""))

/-- What an upload that was taken comes to (`UploadResult`). -/
structure UploadResult where
  status : Status
  factSheetId : Option String
  deriving DecidableEq, Repr

end ManifestPublish
