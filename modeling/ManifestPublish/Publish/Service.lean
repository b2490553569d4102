import ManifestPublish.Publish.Exchange

/-!
# Services

* `Service` : what a run asks of others, who may keep a state between the questions
* `Call` : a question that was asked
* `Service.overHttp` : the services at given endpoints
* `Service.scripted` : services whose answers are known beforehand
-/

set_option autoImplicit false

namespace ManifestPublish

/-- What a run asks of others (`TokenProvider` and `DiscoveryApi`); `σ` is what they keep between
the questions. -/
structure Service (σ : Type) where
  fetchToken : Credentials → σ → Except PublishError AccessToken × σ
  uploadManifest : AccessToken → LocalFile → σ → Except PublishError UploadResult × σ
  registerSbom : AccessToken → String → LocalFile → σ → Except PublishError Unit × σ

/-- A question that was asked. -/
inductive Call where
  | fetchToken (credentials : Credentials)
  | uploadManifest (token : AccessToken) (manifest : LocalFile)
  | registerSbom (token : AccessToken) (factSheetId : String) (sbom : LocalFile)
  deriving DecidableEq

/-- Answers that are known beforehand. -/
structure Replies where
  token : Except PublishError AccessToken
  upload : Except PublishError UploadResult
  register : Except PublishError Unit

namespace Service

/-- `OAuthTokenFetcher` and `DiscoveryClient` at given endpoints. -/
def overHttp (endpoints : Endpoints) : Service Session where
  fetchToken credentials s := s.fetchToken endpoints credentials
  uploadManifest token manifest s := s.uploadManifest endpoints token manifest
  registerSbom token factSheetId sbom s := s.registerSbom endpoints token factSheetId sbom

/-- Services that give the same answers to everyone. -/
def scripted (replies : Replies) : Service Unit where
  fetchToken _ s := (replies.token, s)
  uploadManifest _ _ s := (replies.upload, s)
  registerSbom _ _ _ s := (replies.register, s)

end Service

end ManifestPublish
