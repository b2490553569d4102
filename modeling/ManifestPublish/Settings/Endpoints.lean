/-!
# Endpoints

* `Endpoints` : the base of the addresses of a service, without a final slash
* `Endpoints.ofBaseUrl` : the endpoints under a base URL
* `Endpoints.ofSubdomain` : the endpoints of a workspace
* `Endpoints.oauth2Token`, `Endpoints.manifests`, `Endpoints.sboms` : the addresses
-/

set_option autoImplicit false

namespace ManifestPublish

/-- A text without the slashes at its end. -/
def trimSlashes (s : String) : String :=
  String.ofList (s.toList.reverse.dropWhile (· = '/')).reverse

/-- No slash is left at the end. -/
theorem getLast?_trimSlashes (s : String) : (trimSlashes s).toList.getLast? ≠ some '/' := by
  have h := List.head?_dropWhile_not (fun c => decide (c = '/')) s.toList.reverse
  intro hlast
  simp only [trimSlashes, String.toList_ofList, List.getLast?_reverse] at hlast
  simp [hlast] at h

/-- Where a service is to be found (`Endpoints`). -/
structure Endpoints where
  baseUrl : String
  noFinalSlash : baseUrl.toList.getLast? ≠ some '/'
  deriving DecidableEq, Repr

namespace Endpoints

/-- `Endpoints::from_base_url`: every slash at the end of the base URL is dropped. -/
def ofBaseUrl (url : String) : Endpoints := ⟨trimSlashes url, getLast?_trimSlashes url⟩

/-- `Endpoints::for_subdomain`: the endpoints of a workspace. -/
def ofSubdomain (subdomain : String) : Endpoints :=
  ofBaseUrl ("https://" ++ subdomain ++ ".leanix.net/services")

/-- `Endpoints::oauth2_token`: where access tokens are given out. -/
def oauth2Token (e : Endpoints) : String := e.baseUrl ++ "/mtm/v1/oauth2/token"

/-- `Endpoints::manifests`: where manifests are uploaded. -/
def manifests (e : Endpoints) : String := e.baseUrl ++ "/technology-discovery/v1/manifests"

/-- `Endpoints::sboms`: where the SBOM of a fact sheet is registered.  The id goes into the path as
it is. -/
def sboms (e : Endpoints) (factSheetId : String) : String :=
  e.baseUrl ++ "/technology-discovery/v1/factSheets/" ++ factSheetId ++ "/sboms"

end Endpoints

end ManifestPublish
