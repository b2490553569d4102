import ManifestPublish.Proofs.Settings.Resolution
import ManifestPublish.Proofs.Url.Authority

/-!
# Addresses under a base URL

The final slashes of a base URL go before the addresses of the service are written behind it.

* `Endpoints.addresses` : the addresses of a service
* `Overrides.ServiceUrl` : what the base URL is, that of the workspace if none is given
* `IsFilled` : what is written behind a scheme is not slashes only
* `Endpoints.Under` : what is left of a base URL, and what is read before the paths of the addresses

The addresses have the authority of the base URL exactly if that is more than a scheme and slashes.
Of a base URL that is not, the slashes that belong to the scheme go as well, and the first name of
the path is taken for the host.

Principal result: `loadConfig_baseUrl`.
-/

set_option autoImplicit false

namespace ManifestPublish

/-! ## Slashes at the end -/

def slashes (n : Nat) : String := String.ofList (List.replicate n '/')

theorem slashes_succ (n : Nat) : slashes (n + 1) = "/" ++ slashes n := by
  apply String.toList_inj.1
  simp [slashes, List.replicate_succ]

theorem eq_slash_of_mem {n : Nat} {c : Char} (h : c ∈ (slashes n).toList) : c = '/' := by
  rw [slashes, String.toList_ofList] at h
  exact (List.mem_replicate.1 h).2

theorem slashes_append_slash (n : Nat) : slashes n ++ "/" = "/" ++ slashes n := by
  rw [← slashes_succ]
  apply String.toList_inj.1
  simp [slashes, List.replicate_succ']

theorem trimSlashes_append_slashes {s : String} (h : s.toList.getLast? ≠ some '/') (n : Nat) :
    trimSlashes (s ++ slashes n) = s := by
  have hreverse : (s ++ slashes n).toList.reverse = List.replicate n '/' ++ s.toList.reverse := by
    simp [slashes]
  have hself : s.toList.reverse.dropWhile (· = '/') = s.toList.reverse := by
    rw [← List.head?_reverse] at h
    cases hs : s.toList.reverse with
    | nil => rfl
    | cons c cs =>
      rw [hs] at h
      have hc : c ≠ '/' := fun hslash => h (congrArg some hslash)
      rw [List.dropWhile_cons_of_neg (by simpa using hc)]
  have hdrop : (s ++ slashes n).toList.reverse.dropWhile (· = '/') = s.toList.reverse := by
    rw [hreverse, List.dropWhile_append_of_pos (by simp [List.mem_replicate]), hself]
  rw [trimSlashes, hdrop, List.reverse_reverse, String.ofList_toList]

theorem trimSlashes_eq_self {s : String} (h : s.toList.getLast? ≠ some '/') :
    trimSlashes s = s := by
  have htrim := trimSlashes_append_slashes h 0
  have hnone : slashes 0 = "" := rfl
  rw [hnone, String.append_empty] at htrim
  exact htrim

theorem exists_trimSlashes (s : String) : ∃ n, s = trimSlashes s ++ slashes n := by
  have hslashes : ∀ c ∈ s.toList.reverse.takeWhile (· = '/'), c = '/' := by
    intro c hc
    simpa using List.mem_takeWhile_imp hc
  have hfinal := List.eq_replicate_of_mem hslashes
  refine ⟨(s.toList.reverse.takeWhile (· = '/')).length, String.toList_inj.1 ?_⟩
  calc s.toList
    _ = (s.toList.reverse.takeWhile (· = '/') ++ s.toList.reverse.dropWhile (· = '/')).reverse := by
      rw [List.takeWhile_append_dropWhile, List.reverse_reverse]
    _ = (trimSlashes s).toList ++ (s.toList.reverse.takeWhile (· = '/')).reverse := by
      rw [List.reverse_append, trimSlashes, String.toList_ofList]
    _ = (trimSlashes s ++ slashes (s.toList.reverse.takeWhile (· = '/')).length).toList := by
      rw [String.toList_append, slashes, String.toList_ofList, ← List.reverse_replicate, ← hfinal]

/-- What stands in front of a text stays, if it does not end in a slash or something is left of the
text. -/
theorem trimSlashes_append {a b : String} (h : a.toList.getLast? ≠ some '/' ∨ trimSlashes b ≠ "") :
    trimSlashes (a ++ b) = a ++ trimSlashes b := by
  obtain ⟨n, hn⟩ := exists_trimSlashes b
  have hlast : (a ++ trimSlashes b).toList.getLast? ≠ some '/' := by
    rw [String.toList_append, List.getLast?_append]
    have hb := getLast?_trimSlashes b
    cases hend : (trimSlashes b).toList.getLast? with
    | some c =>
      rw [hend] at hb
      exact hb
    | none =>
      have hempty : trimSlashes b = "" :=
        String.toList_eq_nil_iff.1 (List.getLast?_eq_none_iff.1 hend)
      exact h.resolve_right fun hne => hne hempty
  calc trimSlashes (a ++ b)
    _ = trimSlashes (a ++ trimSlashes b ++ slashes n) := by rw [String.append_assoc, ← hn]
    _ = a ++ trimSlashes b := trimSlashes_append_slashes hlast n

/-- What is written behind a scheme is not slashes only. -/
def IsFilled (text : String) : Prop := ∃ c ∈ text.toList, c ≠ '/'

theorem isFilled_iff {s : String} : IsFilled s ↔ trimSlashes s ≠ "" := by
  obtain ⟨n, hn⟩ := exists_trimSlashes s
  constructor
  · intro ⟨c, hc, hslash⟩ hempty
    rw [hn, hempty, String.empty_append] at hc
    exact hslash (eq_slash_of_mem hc)
  · intro hne
    have hcs : (trimSlashes s).toList ≠ [] := fun hnil => hne (String.toList_eq_nil_iff.1 hnil)
    have hsub : ∀ c ∈ (trimSlashes s).toList, c ∈ s.toList := by
      intro c hc
      rw [hn, String.toList_append]
      exact List.mem_append_left _ hc
    refine ⟨(trimSlashes s).toList.getLast hcs, hsub _ (List.getLast_mem hcs), ?_⟩
    intro hslash
    apply getLast?_trimSlashes s
    rw [List.getLast?_eq_some_getLast hcs, hslash]

theorem not_namesPlace_slashes (n : Nat) : ¬ Url.NamesPlace (slashes n) := by
  intro ⟨c, hc, hslash, _⟩
  rw [eq_slash_of_mem hc] at hslash
  cases hslash

theorem endsPlain_slashes (n : Nat) : Url.EndsPlain (slashes n) := by
  intro c hc
  rw [eq_slash_of_mem (List.mem_of_getLast? hc)]
  decide

theorem namesPlace_trimSlashes {s : String} :
    Url.NamesPlace (trimSlashes s) ↔ Url.NamesPlace s := by
  obtain ⟨n, hn⟩ := exists_trimSlashes s
  have hsplit : Url.NamesPlace s ↔ Url.NamesPlace (trimSlashes s) ∨ Url.NamesPlace (slashes n) := by
    rw [← Url.namesPlace_append, ← hn]
  rw [hsplit, or_iff_left (not_namesPlace_slashes n)]

/-! ## The addresses of a service -/

/-- The addresses of a service, with that of the SBOMs of one fact sheet. -/
def Endpoints.addresses (e : Endpoints) (factSheetId : String) : List String :=
  [e.oauth2Token, e.manifests, e.sboms factSheetId]

theorem Endpoints.oauth2Token_eq (e : Endpoints) :
    e.oauth2Token = e.baseUrl ++ "/" ++ ("mtm" ++ "/" ++ "v1/oauth2/token") := by
  simp only [oauth2Token, String.append_assoc]
  rfl

theorem Endpoints.manifests_eq (e : Endpoints) :
    e.manifests = e.baseUrl ++ "/" ++ ("technology-discovery" ++ "/" ++ "v1/manifests") := by
  simp only [manifests, String.append_assoc]
  rfl

theorem Endpoints.sboms_eq (e : Endpoints) (id : String) :
    e.sboms id = e.baseUrl ++ "/" ++
      ("technology-discovery" ++ "/" ++ ("v1/factSheets/" ++ id ++ "/sboms")) := by
  have hfront : "/technology-discovery/v1/factSheets/" =
      "/" ++ ("technology-discovery" ++ ("/" ++ "v1/factSheets/")) := by decide
  simp only [sboms, hfront, String.append_assoc]

theorem endsPlain_oauth2Token : Url.EndsPlain "v1/oauth2/token" :=
  Url.endsPlain_of_getLast? (c := 'n') (by decide) (by decide)

theorem endsPlain_manifests : Url.EndsPlain "v1/manifests" :=
  Url.endsPlain_of_getLast? (c := 's') (by decide) (by decide)

theorem endsPlain_sboms (id : String) : Url.EndsPlain ("v1/factSheets/" ++ id ++ "/sboms") := by
  have hsboms : Url.EndsPlain "/sboms" :=
    Url.endsPlain_of_getLast? (c := 's') (by decide) (by decide)
  exact hsboms.append (by decide) _

/-- An address is written behind the base URL and a slash: a name, a slash and something more. -/
theorem exists_path {e : Endpoints} {id a : String} (ha : a ∈ e.addresses id) :
    ∃ name more, Url.EndsPlain more ∧ a = e.baseUrl ++ "/" ++ (name ++ "/" ++ more) := by
  simp only [Endpoints.addresses, List.mem_cons, List.not_mem_nil, or_false] at ha
  rcases ha with rfl | rfl | rfl
  · exact ⟨_, _, endsPlain_oauth2Token, e.oauth2Token_eq⟩
  · exact ⟨_, _, endsPlain_manifests, e.manifests_eq⟩
  · exact ⟨_, _, endsPlain_sboms id, e.sboms_eq id⟩

/-! ## What is left of a base URL -/

section Base

variable {scheme rest id a : String}

theorem web_eq (scheme rest : String) :
    scheme ++ "://" ++ rest = scheme ++ ":" ++ ("//" ++ rest) := by
  have hsplit : "://" = ":" ++ "//" := by decide
  simp only [hsplit, String.append_assoc]

theorem namesPlace_web {rest : String} : Url.NamesPlace ("//" ++ rest) ↔ Url.NamesPlace rest := by
  have hslashes : ¬ Url.NamesPlace "//" := not_namesPlace_slashes 2
  rw [Url.namesPlace_append, or_iff_right hslashes]

/-- Only what stands behind the colon of the scheme is trimmed. -/
theorem baseUrl_ofBaseUrl (scheme rest : String) :
    (Endpoints.ofBaseUrl (scheme ++ "://" ++ rest)).baseUrl =
      scheme ++ ":" ++ trimSlashes ("//" ++ rest) := by
  have hcolon : (scheme ++ ":").toList.getLast? ≠ some '/' := by
    rw [String.toList_append, List.getLast?_append]
    simp
  rw [web_eq]
  exact trimSlashes_append (.inl hcolon)

/-- Something behind the scheme keeps the two slashes. -/
theorem baseUrl_of_isFilled (h : IsFilled rest) (scheme : String) :
    (Endpoints.ofBaseUrl (scheme ++ "://" ++ rest)).baseUrl = scheme ++ "://" ++ trimSlashes rest :=
  trimSlashes_append (.inr (isFilled_iff.1 h))

/-- Slashes behind the scheme go together with the two that belong to it. -/
theorem baseUrl_of_not_isFilled (h : ¬ IsFilled rest) (scheme : String) :
    (Endpoints.ofBaseUrl (scheme ++ "://" ++ rest)).baseUrl = scheme ++ ":" := by
  have hempty : trimSlashes ("//" ++ rest) = "" := by
    by_contra hne
    obtain ⟨c, hc, hslash⟩ := isFilled_iff.2 hne
    rw [String.toList_append, List.mem_append] at hc
    rcases hc with hc | hc
    · simp at hc
      exact hslash hc
    · exact h ⟨c, hc, hslash⟩
  rw [baseUrl_ofBaseUrl, hempty, String.append_empty]

/-- A scheme, two slashes and something behind them. -/
def IsWebBase (base : String) : Prop :=
  ∃ scheme rest, Url.IsWebScheme scheme ∧ rest ≠ "" ∧ base = scheme ++ "://" ++ rest

/-- Something is left behind the slashes of the scheme exactly if there was something. -/
theorem isWebBase_iff (hscheme : Url.IsWebScheme scheme) :
    IsWebBase (Endpoints.ofBaseUrl (scheme ++ "://" ++ rest)).baseUrl ↔ IsFilled rest := by
  constructor
  · intro hweb
    by_contra hbare
    rw [baseUrl_of_not_isFilled hbare] at hweb
    obtain ⟨scheme', rest', hscheme', -, heq⟩ := hweb
    have hlist := congrArg String.toList heq
    cases hscheme <;> cases hscheme' <;> simp at hlist
  · intro hfilled
    exact ⟨scheme, _, hscheme, isFilled_iff.1 hfilled, baseUrl_of_isFilled hfilled scheme⟩

/-! ### The authority as it is written -/

theorem writtenAuthority?_trimSlashes (hscheme : Url.IsWebScheme scheme) (rest : String) :
    Url.writtenAuthority? (scheme ++ "://" ++ trimSlashes rest) =
      Url.writtenAuthority? (scheme ++ "://" ++ rest) := by
  obtain ⟨n, hn⟩ := exists_trimSlashes rest
  cases n with
  | zero =>
    have hnone : slashes 0 = "" := rfl
    rw [hnone, String.append_empty] at hn
    rw [← hn]
  | succ n =>
    have hrest : scheme ++ "://" ++ rest =
        scheme ++ "://" ++ trimSlashes rest ++ "/" ++ slashes n := by
      conv_lhs => rw [hn, slashes_succ]
      simp only [String.append_assoc]
    rw [hrest, hscheme.writtenAuthority?_append]

theorem written_iff (hscheme : Url.IsWebScheme scheme) :
    (∀ id, ∀ a ∈ (Endpoints.ofBaseUrl (scheme ++ "://" ++ rest)).addresses id,
      Url.writtenAuthority? a = Url.writtenAuthority? (scheme ++ "://" ++ rest)) ↔
      IsFilled rest := by
  constructor
  · intro hall
    by_contra hbare
    have htoken := hall "" _ List.mem_cons_self
    rw [Endpoints.oauth2Token, baseUrl_of_not_isFilled hbare,
      hscheme.writtenAuthority?_eq] at htoken
    have hnone : Url.writtenAuthority? (scheme ++ ":" ++ "/mtm/v1/oauth2/token") = none := by
      cases hscheme <;> decide
    rw [hnone] at htoken
    cases htoken
  · intro hfilled id a ha
    obtain ⟨name, more, -, rfl⟩ := exists_path ha
    rw [baseUrl_of_isFilled hfilled, hscheme.writtenAuthority?_append,
      writtenAuthority?_trimSlashes hscheme]

/-! ### The authority as it is read -/

theorem namesPlace_left : Url.NamesPlace (trimSlashes ("//" ++ rest)) ↔ Url.NamesPlace rest := by
  rw [namesPlace_trimSlashes, namesPlace_web]

/-- A base URL with one more slash is what is left of it with that slash in front of the others. -/
theorem exists_web_slash (scheme rest : String) :
    ∃ n, scheme ++ "://" ++ rest ++ "/" =
      scheme ++ ":" ++ trimSlashes ("//" ++ rest) ++ "/" ++ slashes n := by
  obtain ⟨n, hn⟩ := exists_trimSlashes ("//" ++ rest)
  refine ⟨n, ?_⟩
  rw [web_eq]
  conv_lhs => rw [hn]
  simp only [String.append_assoc, slashes_append_slash]

theorem authority_of_namesPlace (hscheme : Url.IsWebScheme scheme) (hplace : Url.NamesPlace rest)
    (ha : a ∈ (Endpoints.ofBaseUrl (scheme ++ "://" ++ rest)).addresses id) :
    (Url.parse a).map Url.authority =
      (Url.parse (scheme ++ "://" ++ rest ++ "/")).map Url.authority := by
  obtain ⟨name, more, hmore, rfl⟩ := exists_path ha
  obtain ⟨n, hn⟩ := exists_web_slash scheme rest
  rw [baseUrl_ofBaseUrl, hn, hscheme.parse_authority (namesPlace_left.2 hplace) (hmore.under name),
    hscheme.parse_authority (namesPlace_left.2 hplace) (endsPlain_slashes n)]

/-- Without a place behind the scheme the first name of the path is taken for the host. -/
theorem authority_astray (hscheme : Url.IsWebScheme scheme) (hnone : ¬ Url.NamesPlace rest)
    {name more : String} (hname : Url.IsHostText name) (hmore : Url.EndsPlain more) :
    (Url.parse ((Endpoints.ofBaseUrl (scheme ++ "://" ++ rest)).baseUrl ++ "/" ++
      (name ++ "/" ++ more))).map Url.authority = (Host.parse name.toList).map .ofHost := by
  have hskip : ¬ Url.NamesPlace (trimSlashes ("//" ++ rest) ++ "/") := by
    rw [Url.namesPlace_append, not_or, namesPlace_left]
    exact ⟨hnone, not_namesPlace_slashes 1⟩
  have hsplit : scheme ++ ":" ++ trimSlashes ("//" ++ rest) ++ "/" ++ (name ++ "/" ++ more) =
      scheme ++ ":" ++ (trimSlashes ("//" ++ rest) ++ "/") ++ (name ++ "/" ++ more) := by
    simp only [String.append_assoc]
  rw [baseUrl_ofBaseUrl, hsplit, hscheme.parse_host hskip hname hmore]

/-- Without a place behind the scheme the hosts are names of the paths. -/
theorem addresses_astray (hscheme : Url.IsWebScheme scheme) (hnone : ¬ Url.NamesPlace rest) :
    (Url.parse (Endpoints.ofBaseUrl (scheme ++ "://" ++ rest)).oauth2Token).map Url.authority =
      .ok (.ofHost (.domain "mtm")) ∧
    (Url.parse (Endpoints.ofBaseUrl (scheme ++ "://" ++ rest)).manifests).map Url.authority =
      .ok (.ofHost (.domain "technology-discovery")) ∧
    ∀ id, (Url.parse ((Endpoints.ofBaseUrl (scheme ++ "://" ++ rest)).sboms id)).map Url.authority =
      .ok (.ofHost (.domain "technology-discovery")) := by
  have htoken : Url.IsHostText "mtm" := Url.isHostText_of_all (by decide) (by decide)
  have hdiscovery : Url.IsHostText "technology-discovery" :=
    Url.isHostText_of_all (by decide) (by decide)
  have hparse : Host.parse "mtm".toList = .ok (.domain "mtm") := by cbv
  have hparse' : Host.parse "technology-discovery".toList =
      .ok (.domain "technology-discovery") := by cbv
  refine ⟨?_, ?_, ?_⟩
  · rw [Endpoints.oauth2Token_eq, authority_astray hscheme hnone htoken endsPlain_oauth2Token,
      hparse]
    rfl
  · rw [Endpoints.manifests_eq, authority_astray hscheme hnone hdiscovery endsPlain_manifests,
      hparse']
    rfl
  · intro id
    rw [Endpoints.sboms_eq, authority_astray hscheme hnone hdiscovery (endsPlain_sboms id), hparse']
    rfl

/-- The addresses are read with the authority of the base URL exactly if a place is named behind its
scheme. -/
theorem read_iff (hscheme : Url.IsWebScheme scheme) :
    (∀ id, ∀ a ∈ (Endpoints.ofBaseUrl (scheme ++ "://" ++ rest)).addresses id,
      (Url.parse a).map Url.authority =
        (Url.parse (scheme ++ "://" ++ rest ++ "/")).map Url.authority) ↔ Url.NamesPlace rest := by
  constructor
  · intro hall
    by_contra hnone
    have hempty : Url.parse (scheme ++ "://" ++ rest ++ "/") = .error .emptyHost := by
      have hends : Url.EndsPlain "/" := Url.endsPlain_of_getLast? (c := '/') (by decide) (by decide)
      rw [web_eq, hscheme.parse_astray (namesPlace_web.not.2 hnone) hends (by decide)]
      cases hscheme <;> rfl
    have htoken := hall "" _ List.mem_cons_self
    rw [(addresses_astray hscheme hnone).1, hempty] at htoken
    cases htoken
  · intro hplace id a ha
    exact authority_of_namesPlace hscheme hplace ha

end Base

/-! ## The base URL of a run -/

/-- What is left of a base URL, and what is written and read before the paths of the addresses. -/
structure Endpoints.Under (e : Endpoints) (scheme rest : String) : Prop where
  trimmed : ∃ n, scheme ++ "://" ++ rest = e.baseUrl ++ slashes n
  ended : e.baseUrl.toList.getLast? ≠ some '/'
  web : IsWebBase e.baseUrl ↔ IsFilled rest
  written : (∀ id, ∀ a ∈ e.addresses id,
    Url.writtenAuthority? a = Url.writtenAuthority? (scheme ++ "://" ++ rest)) ↔ IsFilled rest
  read : (∀ id, ∀ a ∈ e.addresses id, (Url.parse a).map Url.authority =
    (Url.parse (scheme ++ "://" ++ rest ++ "/")).map Url.authority) ↔ Url.NamesPlace rest
  astray : ¬ Url.NamesPlace rest →
    (Url.parse e.oauth2Token).map Url.authority = .ok (.ofHost (.domain "mtm")) ∧
    (Url.parse e.manifests).map Url.authority = .ok (.ofHost (.domain "technology-discovery")) ∧
    ∀ id, (Url.parse (e.sboms id)).map Url.authority =
      .ok (.ofHost (.domain "technology-discovery"))

theorem under_ofBaseUrl {scheme : String} (hscheme : Url.IsWebScheme scheme) (rest : String) :
    (Endpoints.ofBaseUrl (scheme ++ "://" ++ rest)).Under scheme rest where
  trimmed := exists_trimSlashes _
  ended := getLast?_trimSlashes _
  web := isWebBase_iff hscheme
  written := written_iff hscheme
  read := read_iff hscheme
  astray := addresses_astray hscheme

/-- What the base URL is: the one that is given, else that of the workspace. -/
inductive Overrides.ServiceUrl (o : Overrides) (env : Environment) : String → Prop where
  | given {url : String} (h : o.BaseUrl env (some url)) : ServiceUrl o env url
  | ofWorkspace {subdomain : String} (silent : o.BaseUrl env none)
      (named : o.Subdomain env subdomain) :
      ServiceUrl o env ("https://" ++ subdomain ++ ".leanix.net/services")

theorem IsWebUrl.exists_scheme {url : String} (h : IsWebUrl url) :
    ∃ scheme rest, Url.IsWebScheme scheme ∧ url = scheme ++ "://" ++ rest := by
  obtain ⟨rest, rfl | rfl⟩ := h
  · exact ⟨"https", rest, .https, rfl⟩
  · exact ⟨"http", rest, .http, rfl⟩

/-- **The base URL of a run loses its final slashes and nothing else.**  The addresses of the
service have its authority exactly if it is more than a scheme and slashes; if it is not, the
requests go to hosts under the names that their paths start with. -/
theorem loadConfig_baseUrl {o : Overrides} {env : Environment} {config : PublishConfig}
    (h : loadConfig o env = .ok config) :
    ∃ scheme rest, Url.IsWebScheme scheme ∧ o.ServiceUrl env (scheme ++ "://" ++ rest) ∧
      config.endpoints.Under scheme rest := by
  have hresolution := loadSettings_eq_ok_iff_resolution.1 (loadConfig_ok h)
  obtain ⟨baseUrl, hbase, hendpoints⟩ := hresolution.endpoints
  rw [hendpoints]
  cases baseUrl with
  | none =>
    have hunder := under_ofBaseUrl .https (config.credentials.subdomain ++ ".leanix.net/services")
    rw [← String.append_assoc] at hunder
    refine ⟨"https", _, .https, ?_, hunder⟩
    rw [← String.append_assoc]
    exact .ofWorkspace hbase hresolution.subdomain
  | some url =>
    obtain ⟨scheme, rest, hscheme, rfl⟩ := (hresolution.accepted.baseUrl url hbase).exists_scheme
    exact ⟨scheme, rest, hscheme, .given hbase, under_ofBaseUrl hscheme rest⟩

/-- A base URL with a port and two slashes at its end. -/
theorem loadConfig_baseUrl_port :
    ∃ config, loadConfig { baseUrl := some "http://127.0.0.1:8080/services//" }
        (Environment.empty.set Variable.apiToken (Utf8.encode "secret")) = .ok config ∧
      config.endpoints.baseUrl = "http://127.0.0.1:8080/services" ∧
      ∃ scheme rest, Url.IsWebScheme scheme ∧
        Overrides.ServiceUrl { baseUrl := some "http://127.0.0.1:8080/services//" }
          (Environment.empty.set Variable.apiToken (Utf8.encode "secret"))
          (scheme ++ "://" ++ rest) ∧
        config.endpoints.Under scheme rest := by
  have hload : loadConfig { baseUrl := some "http://127.0.0.1:8080/services//" }
      (Environment.empty.set Variable.apiToken (Utf8.encode "secret")) =
      .ok ⟨⟨"secret", "leanix"⟩, .ofBaseUrl "http://127.0.0.1:8080/services//",
        Utf8.encode "leanix.yaml", Utf8.encode "sbom.json", 20⟩ := by rfl
  exact ⟨_, hload, by decide, loadConfig_baseUrl hload⟩

/-- **A base URL of a scheme and its slashes is taken**, loses the slashes of the scheme, and the
API token goes to a host that nobody named. -/
theorem loadConfig_baseUrl_scheme :
    ∃ config, loadConfig { baseUrl := some "https://" }
        (Environment.empty.set Variable.apiToken (Utf8.encode "secret")) = .ok config ∧
      config.endpoints.baseUrl = "https:" ∧ ¬ IsWebBase config.endpoints.baseUrl ∧
      Url.writtenAuthority? "https://" = some "" ∧
      (∀ a ∈ config.endpoints.addresses "FS-1", Url.writtenAuthority? a = none) ∧
      (Url.parse config.endpoints.oauth2Token).map Url.authority =
        .ok (.ofHost (.domain "mtm")) ∧
      (Url.parse config.endpoints.manifests).map Url.authority =
        .ok (.ofHost (.domain "technology-discovery")) ∧
      (Url.parse (config.endpoints.sboms "FS-1")).map Url.authority =
        .ok (.ofHost (.domain "technology-discovery")) := by
  have hload : loadConfig { baseUrl := some "https://" }
      (Environment.empty.set Variable.apiToken (Utf8.encode "secret")) =
      .ok ⟨⟨"secret", "leanix"⟩, .ofBaseUrl ("https" ++ "://" ++ ""), Utf8.encode "leanix.yaml",
        Utf8.encode "sbom.json", 20⟩ := by rfl
  have hbare : ¬ IsFilled "" := by
    intro ⟨c, hc, _⟩
    cases hc
  have hnone : ¬ Url.NamesPlace "" := by
    intro ⟨c, hc, _⟩
    cases hc
  have hweb : ¬ IsWebBase (Endpoints.ofBaseUrl ("https" ++ "://" ++ "")).baseUrl := by
    rw [isWebBase_iff .https]
    exact hbare
  obtain ⟨htoken, hmanifests, hsboms⟩ := addresses_astray .https hnone
  exact ⟨_, hload, by decide, hweb, by decide, by decide, htoken, hmanifests, hsboms "FS-1"⟩

end ManifestPublish
