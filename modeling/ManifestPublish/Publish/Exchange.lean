import ManifestPublish.File.LocalFile
import ManifestPublish.Http.Session
import ManifestPublish.Publish.Answer
import ManifestPublish.Text.Blank

/-!
# The three requests of a run

* `Session.converse` : sends a request and reads its answer to the end
* `Session.fetchToken` : asks for an access token
* `Session.uploadManifest` : uploads a manifest
* `Session.registerSbom` : registers an SBOM for a fact sheet

An answer that fails to come or to be read whole is a transport error; a status outside 200 to 299
is a refusal with the whole text of the answer; only then is the text looked into.
-/

set_option autoImplicit false

namespace ManifestPublish

/-- `TOKEN_USERNAME`: the user name that goes with an API token. -/
def tokenUsername : String := "apitoken"

def tokenForm : String := "grant_type=client_credentials"

/-- What an exchange is called when sending fails, and when reading does: the `context` of a
transport error. -/
structure ExchangeName where
  sending : String
  reading : String
  deriving DecidableEq, Repr

def tokenExchange : ExchangeName := ⟨"token request", "token response"⟩

def manifestExchange : ExchangeName := ⟨"manifest upload", "manifest response"⟩

def sbomExchange : ExchangeName := ⟨"sbom upload", "sbom response"⟩

/-- `file_part` under `MANIFEST_FIELD`, of type `MANIFEST_MIME`.  That type can be read, so the
failure of `file_part` does not occur. -/
def manifestPart (file : LocalFile) : Part := ⟨"file", file.name, "application/yaml", file.contents⟩

/-- `file_part` under `SBOM_FIELD`, of type `SBOM_MIME`. -/
def sbomPart (file : LocalFile) : Part := ⟨"sbom", file.name, "application/json", file.contents⟩

/-- What `fetch_token` sends. -/
def tokenRequest (endpoints : Endpoints) (credentials : Credentials) :
    Except TransportFault Request :=
  Request.prepare .post endpoints.oauth2Token
    (basicAuthorization tokenUsername credentials.apiToken) (.form tokenForm)

/-- What `upload_manifest` sends. -/
def manifestRequest (endpoints : Endpoints) (token : AccessToken) (file : LocalFile) :
    Except TransportFault Request :=
  Request.prepare .put endpoints.manifests (bearerAuthorization token.value)
    (.multipart (manifestPart file))

/-- What `register_sbom` sends. -/
def sbomRequest (endpoints : Endpoints) (token : AccessToken) (factSheetId : String)
    (file : LocalFile) : Except TransportFault Request :=
  Request.prepare .post (endpoints.sboms factSheetId) (bearerAuthorization token.value)
    (.multipart (sbomPart file))

/-- `status_and_body`: the status of an answer and its text, or the fault in reading it. -/
def Incoming.read (incoming : Incoming) (name : ExchangeName) :
    Except PublishError (Status × String) :=
  match incoming.text with
  | .ok text => .ok (incoming.status, text)
  | .error fault => .error (.transport name.reading fault)

/-- What `fetch_token` makes of the status and text of an answer. -/
def acceptToken (status : Status) (text : String) : Except PublishError AccessToken :=
  if status.isSuccess then (decodeToken text).mapError .malformedResponse
  else .error (.authentication status text)

/-- What `upload_manifest` makes of the status and text of an answer. -/
def acceptUpload (status : Status) (text : String) : Except PublishError UploadResult :=
  if status.isSuccess then
    match decodeFactSheetId text with
    | .ok factSheetId => .ok ⟨status, factSheetId⟩
    | .error fault => .error (.malformedResponse fault)
  else .error (.upload .manifest status text)

/-- What `register_sbom` makes of the status and text of an answer. -/
def acceptSbom (status : Status) (text : String) : Except PublishError Unit :=
  if status.isSuccess then .ok () else .error (.upload .sbom status text)

namespace Session

/-- Sends a request and reads its answer to the end.  What fails is a `transport` error. -/
def converse (s : Session) (name : ExchangeName) (prepared : Except TransportFault Request) :
    Except PublishError (Status × String) × Session :=
  match prepared with
  | .error fault => (.error (.transport name.sending fault), s)
  | .ok request =>
    match s.send request with
    | (.error fault, s) => (.error (.transport name.sending fault), s)
    | (.ok incoming, s) => (incoming.read name, s)

/-- Sends a request and makes something of the status and text of its answer. -/
def exchange {α : Type} (s : Session) (name : ExchangeName)
    (prepared : Except TransportFault Request)
    (accept : Status → String → Except PublishError α) : Except PublishError α × Session :=
  let (answer, s) := s.converse name prepared
  (answer.bind fun (status, text) => accept status text, s)

/-- `fetch_token`: asks for an access token.  A blank API token is not sent. -/
def fetchToken (s : Session) (endpoints : Endpoints) (credentials : Credentials) :
    Except PublishError AccessToken × Session :=
  if Blank.isBlankText credentials.apiToken then (.error (.configuration .blankToken), s)
  else s.exchange tokenExchange (tokenRequest endpoints credentials) acceptToken

/-- `upload_manifest`: uploads a manifest. -/
def uploadManifest (s : Session) (endpoints : Endpoints) (token : AccessToken)
    (file : LocalFile) : Except PublishError UploadResult × Session :=
  s.exchange manifestExchange (manifestRequest endpoints token file) acceptUpload

/-- `register_sbom`: registers an SBOM for a fact sheet. -/
def registerSbom (s : Session) (endpoints : Endpoints) (token : AccessToken)
    (factSheetId : String) (file : LocalFile) : Except PublishError Unit × Session :=
  s.exchange sbomExchange (sbomRequest endpoints token factSheetId file) acceptSbom

end Session

end ManifestPublish
