import ManifestPublish.CommandLine.Program
import ManifestPublish.Proofs.Http.Alike
import ManifestPublish.Proofs.Program.ExitCodes
import ManifestPublish.Proofs.Run.Lockstep
import ManifestPublish.Proofs.Settings.Resolution

/-!
# Secrets are not shown

The API token and the access token reach the headers of requests and nothing else.  Each is
compared in two runs that differ in it alone.

* `SameButFirst`, `SameButLater` : requests that differ in what some of them say of their sender
* `World.SameButToken`, `World.SameButGrant` : worlds that differ in one of the secrets
* `ShowsSame` : two runs that come to the same and tell the same

Principal results: `run_sameButToken` and `run_sameButGrant`, with what the program prints
`secrets_not_shown`.
-/

set_option autoImplicit false

namespace ManifestPublish

/-! ## Requests that differ in a secret -/

/-- What a token request says of its sender. -/
def Credentials.authorization (credentials : Credentials) : String :=
  basicAuthorization tokenUsername credentials.apiToken

/-- What the other requests say of their sender. -/
def AccessToken.authorization (token : AccessToken) : String := bearerAuthorization token.value

/-- Requests that are the same but for what the first says of its sender. -/
inductive SameButFirst (a a' : String) : List Request → List Request → Prop where
  | none : SameButFirst a a' [] []
  | some {first first' : Request} (rest : List Request) (alike : first.Alike a a' first') :
      SameButFirst a a' (first :: rest) (first' :: rest)

/-- Requests that are the same but for what those after the first say of their sender. -/
inductive SameButLater (a a' : String) : List Request → List Request → Prop where
  | none : SameButLater a a' [] []
  | some (first : Request) {later later' : List Request}
      (alike : List.Forall₂ (Request.Alike a a') later later') :
      SameButLater a a' (first :: later) (first :: later')

section Requests

variable {a a' : String} {rs rs' : List Request} {r r' : Request}

theorem SameButFirst.append (h : SameButFirst a a' rs rs') (hsent : rs ≠ []) :
    SameButFirst a a' (rs ++ [r]) (rs' ++ [r]) := by
  cases h with
  | none => exact absurd rfl hsent
  | some rest alike => exact .some (rest ++ [r]) alike

theorem SameButLater.append (h : SameButLater a a' rs rs') (hsent : rs ≠ [])
    (alike : r.Alike a a' r') : SameButLater a a' (rs ++ [r]) (rs' ++ [r']) := by
  cases h with
  | none => exact absurd rfl hsent
  | some first later => exact .some first (List.rel_append later (.cons alike .nil))

end Requests

/-! ## Services in step -/

section Lockstep

variable {endpoints : Endpoints} {credentials credentials' : Credentials}
  {token token' : AccessToken}

theorem fetchToken_eq_exchange (hblank : Blank.isBlankText credentials.apiToken = false)
    (s : Session) :
    s.fetchToken endpoints credentials =
      s.exchange tokenExchange (tokenRequest endpoints credentials) acceptToken := by
  rw [Session.fetchToken, hblank]
  rfl

/-- Requests have gone out, the same but for what the first says of its sender. -/
def CredentialsSaid (credentials credentials' : Credentials) (rs rs' : List Request) : Prop :=
  rs ≠ [] ∧ SameButFirst credentials.authorization credentials'.authorization rs rs'

/-- Token requests are prepared with any credentials or with none. -/
theorem tokenRequest_alike (endpoints : Endpoints) (credentials credentials' : Credentials) :
    (∃ fault, tokenRequest endpoints credentials = .error fault ∧
      tokenRequest endpoints credentials' = .error fault) ∨
    ∃ r r', tokenRequest endpoints credentials = .ok r ∧
      tokenRequest endpoints credentials' = .ok r' ∧
      r.Alike credentials.authorization credentials'.authorization r' :=
  Request.prepare_alike (isHeaderValue_basic _ _) (isHeaderValue_basic _ _)

/-- Nothing has gone out before the first request, which goes out in both runs or in neither. -/
theorem fetchToken_alike (hblank : Blank.isBlankText credentials.apiToken = false)
    (hblank' : Blank.isBlankText credentials'.apiToken = false) {s : Session}
    (hunused : s.requests = []) :
    ∃ reply s' t', s.fetchToken endpoints credentials = (reply, s') ∧
      s.fetchToken endpoints credentials' = (reply, t') ∧
      Session.Beside (SameButFirst credentials.authorization credentials'.authorization) s' t' := by
  have hbeside : Session.Beside
      (SameButFirst credentials.authorization credentials'.authorization) s s := by
    refine ⟨rfl, rfl, ?_⟩
    rw [hunused]
    exact .none
  rw [fetchToken_eq_exchange hblank, fetchToken_eq_exchange hblank']
  refine hbeside.exchange ?_
  obtain ⟨fault, hfault, hfault'⟩ | ⟨r, r', hr, hr', halike⟩ :=
    tokenRequest_alike endpoints credentials credentials'
  · exact .inl ⟨fault, hfault, hfault'⟩
  · refine .inr ⟨r, r', hr, hr', halike.url, ?_⟩
    rw [hunused]
    exact .some [] halike.sent

/-- A request in the name of one token goes out in both runs or in neither. -/
theorem CredentialsSaid.exchange {α : Type} {name : ExchangeName}
    {accept : Status → String → Except PublishError α} {s t : Session}
    (h : Session.Beside (CredentialsSaid credentials credentials') s t)
    (prepared : Except TransportFault Request) :
    ∃ reply s' t', s.exchange name prepared accept = (reply, s') ∧
      t.exchange name prepared accept = (reply, t') ∧
      Session.Beside (CredentialsSaid credentials credentials') s' t' := by
  refine h.exchange ?_
  cases prepared with
  | error fault => exact .inl ⟨fault, rfl, rfl⟩
  | ok r =>
    obtain ⟨hsent, hsame⟩ := h.requests
    have hmore : s.requests ++ [r.sent] ≠ [] :=
      List.append_ne_nil_of_right_ne_nil _ (List.cons_ne_nil _ _)
    exact .inr ⟨r, r, rfl, rfl, rfl, hmore, hsame.append hsent⟩

/-- **An API token decides nothing**: services answer alike whichever is shown to them. -/
theorem lockstep_credentials (hblank : Blank.isBlankText credentials.apiToken = false)
    (hblank' : Blank.isBlankText credentials'.apiToken = false) :
    Lockstep (.overHttp endpoints) (.overHttp endpoints) credentials credentials'
      (fun s t => s = t ∧ s.requests = [])
      (fun s t => SameButFirst credentials.authorization credentials'.authorization
        s.requests t.requests)
      (fun token token' s t => token = token' ∧
        Session.Beside (CredentialsSaid credentials credentials') s t) where
  start_end := by
    rintro s _ ⟨rfl, hunused⟩
    rw [hunused]
    exact .none
  going_end := by
    rintro token token' s t ⟨-, hbeside⟩
    exact hbeside.requests.2
  fetchToken := by
    rintro s _ ⟨rfl, hunused⟩
    obtain ⟨reply, s', t', hs', ht', hbeside'⟩ := fetchToken_alike hblank hblank' hunused
    cases reply with
    | error e => exact .inl ⟨e, s', t', hs', ht', hbeside'.requests⟩
    | ok token =>
      refine .inr ⟨token, token, s', t', hs', ht', rfl, hbeside'.isOnline, hbeside'.answers, ?_,
        hbeside'.requests⟩
      obtain ⟨request, _, _, _, -, hrecord, -⟩ := Session.fetchToken_ok hs'
      rw [hrecord, Session.record_requests]
      exact List.append_ne_nil_of_right_ne_nil _ (List.cons_ne_nil _ _)
  uploadManifest := by
    rintro token _ s t ⟨rfl, hbeside⟩ manifest
    obtain ⟨reply, s', t', hs', ht', hbeside'⟩ :=
      CredentialsSaid.exchange hbeside (manifestRequest endpoints token manifest)
    exact ⟨reply, s', t', hs', ht', rfl, hbeside'⟩
  registerSbom := by
    rintro token _ s t ⟨rfl, hbeside⟩ id sbom
    obtain ⟨reply, s', t', hs', ht', hbeside'⟩ :=
      CredentialsSaid.exchange hbeside (sbomRequest endpoints token id sbom)
    exact ⟨reply, s', t', hs', ht', rfl, hbeside'⟩

/-- Requests have gone out, the same but for what those after the first say of their sender. -/
def TokensSaid (token token' : AccessToken) (rs rs' : List Request) : Prop :=
  rs ≠ [] ∧ SameButLater token.authorization token'.authorization rs rs'

/-- Two sessions that differ at most in the answer to the first request, which grants a token. -/
structure Granting (token token' : AccessToken) (s t : Session) : Prop where
  isOnline : s.isOnline = t.isOnline
  unused : s.requests = []
  unused' : t.requests = []
  later : s.answers.tail = t.answers.tail
  told : TokenInFirstAnswer s.answers token
  told' : TokenInFirstAnswer t.answers token'

theorem TokenInFirstAnswer.outcome {answers : List Answer} (h : TokenInFirstAnswer answers token)
    (name : ExchangeName) (url : Url) :
    (answers.head?.getD .dropped).outcome name url acceptToken = .ok token := by
  obtain ⟨answer, status, text, hhead, htells, hsuccess, hdecode⟩ := h
  rw [hhead, Option.getD_some, htells.outcome, acceptToken, if_pos hsuccess, hdecode]
  rfl

/-- Requests in the names of two tokens go out in both runs or in neither. -/
theorem TokensSaid.exchange {α : Type} {name : ExchangeName} {method : Method} {address : String}
    {body : RequestBody} {accept : Status → String → Except PublishError α} {s t : Session}
    (hvalid : isHeaderValue token.value = true) (hvalid' : isHeaderValue token'.value = true)
    (h : Session.Beside (TokensSaid token token') s t) :
    ∃ reply s' t',
      s.exchange name (Request.prepare method address (bearerAuthorization token.value) body)
        accept = (reply, s') ∧
      t.exchange name (Request.prepare method address (bearerAuthorization token'.value) body)
        accept = (reply, t') ∧ Session.Beside (TokensSaid token token') s' t' := by
  rw [← isHeaderValue_bearer] at hvalid hvalid'
  refine h.exchange ?_
  obtain ⟨fault, hfault, hfault'⟩ | ⟨r, r', hr, hr', halike⟩ :=
    Request.prepare_alike hvalid hvalid'
  · exact .inl ⟨fault, hfault, hfault'⟩
  · obtain ⟨hsent, hsame⟩ := h.requests
    have hmore : s.requests ++ [r.sent] ≠ [] :=
      List.append_ne_nil_of_right_ne_nil _ (List.cons_ne_nil _ _)
    exact .inr ⟨r, r', hr, hr', halike.url, hmore, hsame.append hsent halike.sent⟩

/-- **An access token decides nothing** if it can be said: services answer alike whichever they
gave out. -/
theorem lockstep_tokens (hblank : Blank.isBlankText credentials.apiToken = false)
    (hvalid : isHeaderValue token.value = true) (hvalid' : isHeaderValue token'.value = true) :
    Lockstep (.overHttp endpoints) (.overHttp endpoints) credentials credentials
      (Granting token token')
      (fun s t => SameButLater token.authorization token'.authorization s.requests t.requests)
      (fun given given' s t => given = token ∧ given' = token' ∧
        Session.Beside (TokensSaid token token') s t) where
  start_end := by
    intro s t h
    rw [h.unused, h.unused']
    exact .none
  going_end := by
    rintro given given' s t ⟨-, -, hbeside⟩
    exact hbeside.requests.2
  fetchToken := by
    intro s t h
    have hunsent : SameButLater token.authorization token'.authorization s.requests t.requests := by
      rw [h.unused, h.unused']
      exact .none
    have hfetch : ∀ s : Session, (Service.overHttp endpoints).fetchToken credentials s =
        s.exchange tokenExchange (tokenRequest endpoints credentials) acceptToken :=
      fetchToken_eq_exchange hblank
    rw [hfetch, hfetch]
    cases tokenRequest endpoints credentials with
    | error fault => exact .inl ⟨_, s, t, rfl, rfl, hunsent⟩
    | ok r =>
      have hobstacles : t.obstacle? r.url = s.obstacle? r.url := by
        rw [Session.obstacle?, Session.obstacle?, h.isOnline]
      cases hobstacle : s.obstacle? r.url with
      | some fault =>
        exact .inl ⟨_, s, t, Session.exchange_obstructed hobstacle,
          Session.exchange_obstructed (hobstacles.trans hobstacle), hunsent⟩
      | none =>
        refine .inr ⟨token, token', s.record r, t.record r, ?_, ?_, rfl, rfl, h.isOnline, h.later,
          ?_, ?_⟩
        · rw [Session.exchange_unobstructed hobstacle, h.told.outcome]
        · rw [Session.exchange_unobstructed (hobstacles.trans hobstacle), h.told'.outcome]
        · exact List.append_ne_nil_of_right_ne_nil _ (List.cons_ne_nil _ _)
        · rw [Session.record_requests, Session.record_requests, h.unused, h.unused']
          exact .some _ .nil
  uploadManifest := by
    rintro _ _ s t ⟨rfl, rfl, hbeside⟩ manifest
    obtain ⟨reply, s', t', hs', ht', hbeside'⟩ := TokensSaid.exchange hvalid hvalid' hbeside
    exact ⟨reply, s', t', hs', ht', rfl, rfl, hbeside'⟩
  registerSbom := by
    rintro _ _ s t ⟨rfl, rfl, hbeside⟩ id sbom
    obtain ⟨reply, s', t', hs', ht', hbeside'⟩ := TokensSaid.exchange hvalid hvalid' hbeside
    exact ⟨reply, s', t', hs', ht', rfl, rfl, hbeside'⟩

end Lockstep

/-! ## Runs that differ in a secret -/

/-- Two worlds that differ at most in the API token, in which nothing is sent yet. -/
structure World.SameButToken (world world' : World) (token token' : String) : Prop where
  others : ∀ name, name ≠ Variable.apiToken →
    world.environment.get? name = world'.environment.get? name
  token : ∃ text, world.environment.Holds Variable.apiToken text ∧ Blank.TrimsTo text token
  token' : ∃ text, world'.environment.Holds Variable.apiToken text ∧ Blank.TrimsTo text token'
  tree : world.tree = world'.tree
  session : world.session = world'.session
  unused : world.session.requests = []

/-- Two worlds that differ at most in the answer to the first request, which grants a token that can
stand in a header. -/
structure World.SameButGrant (world world' : World) (token token' : AccessToken) : Prop where
  environment : world.environment = world'.environment
  tree : world.tree = world'.tree
  granting : Granting token token' world.session world'.session
  valid : isHeaderValue token.value = true
  valid' : isHeaderValue token'.value = true

/-- Two runs that come to the same and tell the same; of their requests `sent` holds. -/
structure ShowsSame (sent : List Request → List Request → Prop)
    (a b : Except Failure Report × Trace Session) : Prop where
  result : a.1 = b.1
  stages : a.2.stages = b.2.stages
  requests : sent a.2.services.requests b.2.services.requests

section Run

variable {o : Overrides} {world world' : World}

theorem World.SameButToken.setting? {token token' : String}
    (h : world.SameButToken world' token token') {name : String}
    (hname : name ≠ Variable.apiToken) :
    world.environment.setting? name = world'.environment.setting? name := by
  rw [Environment.setting?, Environment.setting?, Environment.filled?, Environment.filled?,
    Environment.text?, Environment.text?, h.others name hname]

theorem World.SameButToken.loadPath {token token' : String}
    (h : world.SameButToken world' token token') {name : String}
    (hname : name ≠ Variable.apiToken) (given : Option Bytes) (fallback : String) :
    loadPath given world.environment name fallback =
      loadPath given world'.environment name fallback := by
  rw [ManifestPublish.loadPath, ManifestPublish.loadPath, Environment.filled?,
    Environment.filled?, Environment.text?, Environment.text?, h.others name hname]

/-- **The API token decides none of the other settings.** -/
theorem World.SameButToken.loadConfig {token token' : String}
    (h : world.SameButToken world' token token') (o : Overrides) :
    (∃ e, loadConfig o world.environment = .error e ∧ loadConfig o world'.environment = .error e) ∨
    ∃ config : PublishConfig,
      loadConfig o world.environment =
        .ok { config with credentials := ⟨token, config.credentials.subdomain⟩ } ∧
      loadConfig o world'.environment =
        .ok { config with credentials := ⟨token', config.credentials.subdomain⟩ } := by
  have htoken := loadToken_eq_ok_iff.2 h.token
  have htoken' := loadToken_eq_ok_iff.2 h.token'
  have hsubdomain : loadSubdomain o world'.environment = loadSubdomain o world.environment := by
    rw [loadSubdomain, loadSubdomain, h.setting? (by decide)]
  have hendpoints : loadEndpoints o world'.environment = loadEndpoints o world.environment := by
    funext subdomain
    rw [loadEndpoints, loadEndpoints, h.setting? (by decide)]
  have htimeout : loadTimeout o world'.environment = loadTimeout o world.environment := by
    rw [loadTimeout, loadTimeout, h.setting? (by decide)]
  cases hload : loadSettings o world.environment with
  | error fault =>
    left
    refine ⟨.configuration fault, loadConfig_eq_error_iff.2 ⟨fault, hload, rfl⟩,
      loadConfig_eq_error_iff.2 ⟨fault, ?_, rfl⟩⟩
    rw [loadSettings_eq_error_iff] at hload ⊢
    rw [htoken', hsubdomain, hendpoints, htimeout]
    rw [htoken] at hload
    obtain ⟨⟨⟩⟩ | ⟨_, ⟨⟩, hlater⟩ := hload
    exact .inr ⟨token', rfl, hlater⟩
  | ok config =>
    right
    obtain ⟨hsame, hsubdomain₁, hendpoints₁, htimeout₁, hmanifest, hsbom⟩ :=
      loadSettings_eq_ok_iff.1 hload
    rw [htoken] at hsame
    cases hsame
    refine ⟨config, loadConfig_eq_ok_iff.2 hload, loadConfig_eq_ok_iff.2 ?_⟩
    rw [loadSettings_eq_ok_iff, htoken', hsubdomain, hendpoints, htimeout,
      ← h.loadPath (by decide), ← h.loadPath (by decide)]
    exact ⟨rfl, hsubdomain₁, hendpoints₁, htimeout₁, hmanifest, hsbom⟩

/-- A run that goes in step with another one comes to the same and tells the same. -/
theorem showsSame_of_lockstep {env env' : Environment} {tree : FileTree}
    {session session' : Session}
    {config config' : PublishConfig} {Start : Session → Session → Prop}
    {sent : List Request → List Request → Prop}
    {Going : AccessToken → AccessToken → Session → Session → Prop}
    (hload : loadConfig o env = .ok config) (hload' : loadConfig o env' = .ok config')
    (hendpoints : config'.endpoints = config.endpoints)
    (hmanifest : config'.manifestFile = config.manifestFile)
    (hsbom : config'.sbomFile = config.sbomFile)
    (hlockstep : Lockstep (.overHttp config.endpoints) (.overHttp config.endpoints)
      config.credentials config'.credentials Start
      (fun s t => sent s.requests t.requests) Going)
    (hstart : Start session session') :
    ShowsSame sent (run o ⟨env, tree, session⟩) (run o ⟨env', tree, session'⟩) := by
  obtain ⟨result, trace, hcourse⟩ :=
    exists_course (.overHttp config.endpoints) tree config session
  obtain ⟨trace', hcourse', hstages, hrequests⟩ :=
    hcourse.lockstep hlockstep hmanifest hsbom hstart
  rw [← hendpoints] at hcourse'
  rw [run_of_settled hload hcourse.trace_eq, run_of_settled hload' hcourse'.trace_eq]
  exact ⟨rfl, hstages.symm, hrequests⟩

/-- **The API token is not shown by a run.** -/
theorem run_sameButToken {token token' : String} (h : world.SameButToken world' token token') :
    ShowsSame (SameButFirst (basicAuthorization tokenUsername token)
      (basicAuthorization tokenUsername token')) (run o world) (run o world') := by
  have hload := h.loadConfig o
  obtain ⟨env, tree, session⟩ := world
  obtain ⟨env', tree', session'⟩ := world'
  obtain ⟨-, -, -, rfl, rfl, hunused⟩ := h
  obtain ⟨e, he, he'⟩ | ⟨config, hconfig, hconfig'⟩ := hload
  · rw [run_of_unsettled he, run_of_unsettled he']
    refine ⟨rfl, rfl, ?_⟩
    rw [hunused]
    exact .none
  · exact showsSame_of_lockstep hconfig hconfig' rfl rfl rfl
      (lockstep_credentials (isBlankText_apiToken hconfig) (isBlankText_apiToken hconfig'))
      ⟨rfl, hunused⟩

/-- **The access token is not shown by a run.** -/
theorem run_sameButGrant {token token' : AccessToken} (h : world.SameButGrant world' token token') :
    ShowsSame (SameButLater (bearerAuthorization token.value) (bearerAuthorization token'.value))
      (run o world) (run o world') := by
  obtain ⟨env, tree, session⟩ := world
  obtain ⟨env', tree', session'⟩ := world'
  obtain ⟨rfl, rfl, hgranting, hvalid, hvalid'⟩ := h
  cases hload : loadConfig o env with
  | error e =>
    rw [run_of_unsettled hload, run_of_unsettled hload]
    refine ⟨rfl, rfl, ?_⟩
    rw [hgranting.unused, hgranting.unused']
    exact .none
  | ok config =>
    exact showsSame_of_lockstep hload hload rfl rfl rfl
      (lockstep_tokens (isBlankText_apiToken hload) hvalid hvalid') hgranting

end Run

/-! ## The program -/

theorem runProgram_of_showsSame {args : List Bytes} {world world' : World}
    {sent : List Request → List Request → Prop}
    (hunsent : sent world.withEnvFile.session.requests world'.withEnvFile.session.requests)
    (hruns : ∀ o, ShowsSame sent (run o world.withEnvFile) (run o world'.withEnvFile)) :
    (runProgram args world).1 = (runProgram args world').1 ∧
      sent (runProgram args world).2.requests (runProgram args world').2.requests := by
  unfold runProgram
  cases parseArguments args with
  | error stop => exact ⟨rfl, hunsent⟩
  | ok o =>
    obtain ⟨hresult, -, hrequests⟩ := hruns o
    exact ⟨congrArg Outcome.ofResult hresult, hrequests⟩

/-- **The API token is not shown by the program** without a file `.env`. -/
theorem runProgram_sameButToken {world world' : World} {token token' : String}
    (h : world.SameButToken world' token token') (hfile : EnvFile.contents? world.tree = none)
    (args : List Bytes) :
    (runProgram args world).1 = (runProgram args world').1 ∧
      SameButFirst (basicAuthorization tokenUsername token)
        (basicAuthorization tokenUsername token') (runProgram args world).2.requests
        (runProgram args world').2.requests := by
  have hfile' : EnvFile.contents? world'.tree = none := by
    rw [← h.tree]
    exact hfile
  apply runProgram_of_showsSame
  · rw [World.withEnvFile_of_none hfile, World.withEnvFile_of_none hfile', ← h.session, h.unused]
    exact .none
  · intro o
    rw [World.withEnvFile_of_none hfile, World.withEnvFile_of_none hfile']
    exact run_sameButToken h

/-- **The access token is not shown by the program**, with a file `.env` or without. -/
theorem runProgram_sameButGrant {world world' : World} {token token' : AccessToken}
    (h : world.SameButGrant world' token token') (args : List Bytes) :
    (runProgram args world).1 = (runProgram args world').1 ∧
      SameButLater (bearerAuthorization token.value) (bearerAuthorization token'.value)
        (runProgram args world).2.requests (runProgram args world').2.requests := by
  have hfile : world.withEnvFile.SameButGrant world'.withEnvFile token token' := by
    refine ⟨?_, h.tree, h.granting, h.valid, h.valid'⟩
    rw [World.withEnvFile, World.withEnvFile, h.environment, h.tree]
  apply runProgram_of_showsSame
  · rw [hfile.granting.unused, hfile.granting.unused']
    exact .none
  · intro o
    exact run_sameButGrant hfile

/-- **Secrets are not shown.**  Two runs that differ in the API token alone come to the same, tell
the same and send the same but for what the first request says of its sender, and the program ends
the same way.  Two runs that are granted different access tokens do so but for what the other
requests say of their sender.  Descriptions of credentials and settings do not depend on the API
token, and that of an access token depends on its length alone. -/
theorem secrets_not_shown :
    (∀ (world world' : World) (token token' : String), world.SameButToken world' token token' →
      (∀ o, ShowsSame (SameButFirst (basicAuthorization tokenUsername token)
        (basicAuthorization tokenUsername token')) (run o world) (run o world')) ∧
      (EnvFile.contents? world.tree = none → ∀ args,
        (runProgram args world).1 = (runProgram args world').1 ∧
        SameButFirst (basicAuthorization tokenUsername token)
          (basicAuthorization tokenUsername token') (runProgram args world).2.requests
          (runProgram args world').2.requests)) ∧
    (∀ (world world' : World) (token token' : AccessToken),
      world.SameButGrant world' token token' →
      (∀ o, ShowsSame (SameButLater (bearerAuthorization token.value)
        (bearerAuthorization token'.value)) (run o world) (run o world')) ∧
      (∀ args, (runProgram args world).1 = (runProgram args world').1 ∧
        SameButLater (bearerAuthorization token.value) (bearerAuthorization token'.value)
          (runProgram args world).2.requests (runProgram args world').2.requests)) ∧
    (∀ (config : PublishConfig) (token : String),
      (⟨token, config.credentials.subdomain⟩ : Credentials).describe =
        config.credentials.describe ∧
      ({ config with credentials := ⟨token, config.credentials.subdomain⟩ } :
        PublishConfig).describe = config.describe) ∧
    (∀ token token' : AccessToken, token.value.utf8ByteSize = token'.value.utf8ByteSize →
      token.describe = token'.describe) := by
  refine ⟨?_, ?_, ?_, ?_⟩
  · intro world world' token token' h
    exact ⟨fun o => run_sameButToken h, runProgram_sameButToken h⟩
  · intro world world' token token' h
    exact ⟨fun o => run_sameButGrant h, runProgram_sameButGrant h⟩
  · intro config token
    exact ⟨rfl, rfl⟩
  · intro token token' h
    rw [AccessToken.describe, AccessToken.describe, h]

/-- Two API tokens, one with blanks around it, and two access tokens of one length, where there is a
manifest to upload. -/
theorem secrets_not_shown_pair :
    let environment (token : String) : Environment :=
      (Environment.empty.set Variable.baseUrl (Utf8.encode "http://host")).set Variable.apiToken
        (Utf8.encode token)
    let tree : FileTree := ⟨[([Utf8.encode "leanix.yaml"], .file (Utf8.encode "id: x"))], []⟩
    let answers (body : String) : List Answer :=
      [.reply ⟨200, none, Utf8.encode body⟩, .reply ⟨500, none, []⟩]
    let first := "\x7b\"access_token\":\"abc\"\x7d"
    let second := "\x7b\"access_token\":\"x y\"\x7d"
    let world (token body : String) : World :=
      ⟨environment token, tree, .ofAnswers true (answers body)⟩
    (ShowsSame (SameButFirst (basicAuthorization tokenUsername "secret")
        (basicAuthorization tokenUsername "other")) (run {} (world " secret " first))
      (run {} (world "other" first))) ∧
    ((runProgram [] (world " secret " first)).1 = (runProgram [] (world "other" first)).1) ∧
    (ShowsSame (SameButLater (bearerAuthorization "abc") (bearerAuthorization "x y"))
      (run {} (world "other" first)) (run {} (world "other" second))) ∧
    (AccessToken.mk "abc").describe = (AccessToken.mk "x y").describe := by
  intro environment tree answers first second world
  obtain ⟨htokens, hgrants, -, hdescribed⟩ := secrets_not_shown
  have hothers : ∀ token token' : String, ∀ name, name ≠ Variable.apiToken →
      (environment token).get? name = (environment token').get? name := by
    intro token token' name hname
    rw [Environment.get?_set_of_ne hname, Environment.get?_set_of_ne hname]
  -- What the worlds share is named: compared as they stand, their bytes would be worked out.
  have htoken : (world " secret " first).SameButToken (world "other" first) "secret" "other" := by
    refine ⟨hothers " secret " "other", ⟨" secret ", ⟨Environment.get?_set_self _ _ _, ?_⟩, ?_⟩,
      ⟨"other", ⟨Environment.get?_set_self _ _ _, ?_⟩, ?_⟩, Eq.refl tree,
      Eq.refl (Session.ofAnswers true (answers first)), Eq.refl []⟩
    · exact ⟨'s', by decide, by decide⟩
    · exact Blank.trimsTo_iff.2 (by decide)
    · exact ⟨'o', by decide, by decide⟩
    · exact Blank.trimsTo_iff.2 (by decide)
  have hgrant : (world "other" first).SameButGrant (world "other" second) ⟨"abc"⟩ ⟨"x y"⟩ := by
    refine ⟨Eq.refl (environment "other"), Eq.refl tree,
      ⟨Eq.refl true, Eq.refl [], Eq.refl [], Eq.refl [Answer.reply ⟨500, none, []⟩], ?_, ?_⟩,
      by decide, by decide⟩
    · exact ⟨_, 200, first, rfl, by cbv, rfl, by cbv⟩
    · exact ⟨_, 200, second, rfl, by cbv, rfl, by cbv⟩
  have hfile : EnvFile.contents? tree = none := by cbv
  obtain ⟨hrun, hprogram⟩ := htokens _ _ _ _ htoken
  obtain ⟨hrun', -⟩ := hgrants _ _ _ _ hgrant
  exact ⟨hrun {}, (hprogram hfile []).1, hrun' {}, hdescribed ⟨"abc"⟩ ⟨"x y"⟩ (by decide)⟩

end ManifestPublish
