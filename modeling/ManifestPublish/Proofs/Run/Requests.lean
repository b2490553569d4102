import Mathlib.Data.List.Forall2
import Mathlib.Data.List.Infix
import ManifestPublish.Proofs.Http.Exchange
import ManifestPublish.Proofs.Run.Course

/-!
# The requests of a run over HTTP

Each call of a run makes one request, and that goes out unless the call fails before.

* `Call.request`, `Call.target` : the request that a call makes, and where it goes
* `Call.Sends`, `Sends` : the requests of calls have gone out
* `TokenInFirstAnswer` : the access token in the first answer

Principal results: `Course.sends` (all calls of a run are sent, except that the last one may not be)
and `Course.exists_token` (every call but the first shows the token that was given out).
-/

set_option autoImplicit false

namespace ManifestPublish

/-- The request that a call makes. -/
def Call.request (endpoints : Endpoints) : Call → Except TransportFault Request
  | .fetchToken credentials => tokenRequest endpoints credentials
  | .uploadManifest token manifest => manifestRequest endpoints token manifest
  | .registerSbom token id sbom => sbomRequest endpoints token id sbom

/-- How and where a call goes. -/
def Call.target (endpoints : Endpoints) : Call → Method × Option Url
  | .fetchToken _ => (.post, sentUrl? endpoints.oauth2Token)
  | .uploadManifest .. => (.put, sentUrl? endpoints.manifests)
  | .registerSbom _ id _ => (.post, sentUrl? (endpoints.sboms id))

/-- The access token that a call shows. -/
def Call.token? : Call → Option AccessToken
  | .fetchToken _ => none
  | .uploadManifest token _ => some token
  | .registerSbom token _ _ => some token

/-- How and where a request goes. -/
def Request.target (r : Request) : Method × Option Url := (r.method, some r.url)

/-- A request of a call, as it goes out. -/
def Call.Sends (endpoints : Endpoints) (call : Call) (sent : Request) : Prop :=
  ∃ r, call.request endpoints = .ok r ∧ sent = r.sent

/-- The requests of calls have gone out, and no others. -/
def Sends (endpoints : Endpoints) : List Call → List Request → Prop :=
  List.Forall₂ (Call.Sends endpoints)

/-! ## What a request says of its call -/

section Request

variable {endpoints : Endpoints} {call : Call} {calls : List Call} {r : Request}
  {requests : List Request} {token : AccessToken}

theorem Call.Sends.target (h : call.Sends endpoints r) : r.target = call.target endpoints := by
  obtain ⟨r, hrequest, rfl⟩ := h
  cases call with
  | fetchToken credentials =>
    have hfor := Request.prepare_isFor hrequest
    exact Prod.ext hfor.method hfor.url.symm
  | uploadManifest token manifest =>
    have hfor := Request.prepare_isFor hrequest
    exact Prod.ext hfor.method hfor.url.symm
  | registerSbom token id sbom =>
    have hfor := Request.prepare_isFor hrequest
    exact Prod.ext hfor.method hfor.url.symm

theorem Call.Sends.bearer (h : call.Sends endpoints r) (htoken : call.token? = some token) :
    r.authorization.getLast? = some ("Bearer " ++ token.value) := by
  obtain ⟨r, hrequest, rfl⟩ := h
  cases call with
  | fetchToken credentials => cases htoken
  | uploadManifest shown manifest =>
    cases htoken
    exact (Request.prepare_isFor hrequest).authorization
  | registerSbom shown id sbom =>
    cases htoken
    exact (Request.prepare_isFor hrequest).authorization

theorem Call.Sends.manifest_body {manifest : LocalFile}
    (h : (Call.uploadManifest token manifest).Sends endpoints r) :
    r.body = .multipart (manifestPart manifest) := by
  obtain ⟨r, hrequest, rfl⟩ := h
  exact (Request.prepare_isFor hrequest).body

theorem Call.Sends.sbom_url {id : String} {sbom : LocalFile}
    (h : (Call.registerSbom token id sbom).Sends endpoints r) :
    sentUrl? (endpoints.sboms id) = some r.url :=
  (congrArg Prod.snd h.target).symm

theorem Call.Sends.sbom_body {id : String} {sbom : LocalFile}
    (h : (Call.registerSbom token id sbom).Sends endpoints r) :
    r.body = .multipart (sbomPart sbom) := by
  obtain ⟨r, hrequest, rfl⟩ := h
  exact (Request.prepare_isFor hrequest).body

theorem Sends.nil {isOnline : Bool} {answers : List Answer} :
    Sends endpoints [] (Session.ofAnswers isOnline answers).requests :=
  List.Forall₂.nil

theorem Sends.map_target (h : Sends endpoints calls requests) :
    requests.map Request.target = calls.map (Call.target endpoints) := by
  induction h with
  | nil => rfl
  | cons hsends _ ih => rw [List.map_cons, List.map_cons, hsends.target, ih]

theorem Sends.length_eq (h : Sends endpoints calls requests) : requests.length = calls.length :=
  (List.Forall₂.length_eq h).symm

theorem Sends.eq_two {call' : Call} (h : Sends endpoints [call, call'] requests) :
    ∃ first second, requests = [first, second] ∧ call.Sends endpoints first ∧
      call'.Sends endpoints second := by
  cases h with
  | cons hfirst hrest => cases hrest with
    | cons hsecond hnil =>
      cases hnil
      exact ⟨_, _, rfl, hfirst, hsecond⟩

theorem Sends.eq_three {call' call'' : Call}
    (h : Sends endpoints [call, call', call''] requests) :
    ∃ first second third, requests = [first, second, third] ∧ call.Sends endpoints first ∧
      call'.Sends endpoints second ∧ call''.Sends endpoints third := by
  cases h with
  | cons hfirst hrest =>
    obtain ⟨second, third, rfl, hsecond, hthird⟩ := Sends.eq_two hrest
    exact ⟨_, second, third, rfl, hfirst, hsecond, hthird⟩

theorem Sends.exists_call (h : Sends endpoints calls requests) (hr : r ∈ requests) :
    ∃ call ∈ calls, call.Sends endpoints r := by
  induction h with
  | nil => cases hr
  | cons hsends _ ih =>
    rcases List.mem_cons.1 hr with rfl | hr
    · exact ⟨_, List.mem_cons_self, hsends⟩
    · obtain ⟨call, hcall, hsends⟩ := ih hr
      exact ⟨call, List.mem_cons_of_mem _ hcall, hsends⟩

theorem Sends.tail (h : Sends endpoints calls requests) :
    Sends endpoints calls.tail requests.tail := by
  cases h with
  | nil => exact List.Forall₂.nil
  | cons _ hrest => exact hrest

theorem Sends.record {s : Session} (h : Sends endpoints calls s.requests)
    (hrequest : call.request endpoints = .ok r) :
    Sends endpoints (calls ++ [call]) (s.record r).requests :=
  List.rel_append h (.cons ⟨r, hrequest, rfl⟩ .nil)

end Request

/-! ## Which calls of a run are sent -/

section Course

variable {endpoints : Endpoints} {tree : FileTree} {config : PublishConfig} {isOnline : Bool}
  {answers : List Answer} {result : Except PublishError Report} {trace : Trace Session}
  {manifest sbom : LocalFile} {token : AccessToken} {id : String} {s₁ s₂ s₃ : Session}

/-- The access token is the one in the answer to the first request, which was a success. -/
def TokenInFirstAnswer (answers : List Answer) (token : AccessToken) : Prop :=
  ∃ answer status text, answers.head? = some answer ∧ answer.Tells status text ∧
    status.isSuccess = true ∧ decodeToken text = .ok token

theorem GotToken.tokenInFirstAnswer (got : GotToken (.overHttp endpoints) tree config
    (.ofAnswers isOnline answers) manifest token s₁) : TokenInFirstAnswer answers token := by
  obtain ⟨_, answer, status, text, _, _, next, tells, hsuccess, hdecode⟩ :=
    Session.fetchToken_ok got.fetched
  exact ⟨answer, status, text, next, tells, hsuccess, hdecode⟩

theorem GotIdentifier.tokenInFirstAnswer (got : GotIdentifier (.overHttp endpoints) tree config
    (.ofAnswers isOnline answers) manifest token id s₂) : TokenInFirstAnswer answers token := by
  obtain ⟨got, _⟩ := got
  exact got.tokenInFirstAnswer

theorem GotToken.sends (got : GotToken (.overHttp endpoints) tree config
    (.ofAnswers isOnline answers) manifest token s₁) :
    Sends endpoints [.fetchToken config.credentials] s₁.requests := by
  obtain ⟨_, _, _, _, hrequest, rfl, _⟩ := Session.fetchToken_ok got.fetched
  exact Sends.nil.record hrequest

theorem GotIdentifier.sends (got : GotIdentifier (.overHttp endpoints) tree config
    (.ofAnswers isOnline answers) manifest token id s₂) :
    Sends endpoints [.fetchToken config.credentials, .uploadManifest token manifest]
      s₂.requests := by
  obtain ⟨got, uploaded⟩ := got
  obtain ⟨_, hrequest, rfl⟩ := Session.uploadManifest_ok uploaded
  exact got.sends.record hrequest

theorem GotIdentifier.sends_register (got : GotIdentifier (.overHttp endpoints) tree config
    (.ofAnswers isOnline answers) manifest token id s₂)
    (registered : (Service.overHttp endpoints).registerSbom token id sbom s₂ = (.ok (), s₃)) :
    Sends endpoints [.fetchToken config.credentials, .uploadManifest token manifest,
      .registerSbom token id sbom] s₃.requests := by
  obtain ⟨_, hrequest, rfl⟩ := Session.registerSbom_ok registered
  exact got.sends.record hrequest

/-- **All calls of a run are sent, except that the last one may not be**: then the run fails, in
transport or because the API token is blank. -/
theorem Course.sends (h : Course (.overHttp endpoints) tree config (.ofAnswers isOnline answers)
    result trace) :
    Sends endpoints trace.calls trace.services.requests ∨
    Sends endpoints trace.calls.dropLast trace.services.requests ∧
      ∃ e, result = .error e ∧ (e.exitCode = 2 ∧
        Blank.isBlankText config.credentials.apiToken = true ∨ e.exitCode = 8) := by
  -- Only the last call of a course can have failed, so all before it have been sent.
  cases h with
  | manifestUnread => exact .inl .nil
  | tokenRefused _ refused =>
    rcases Session.fetchToken_error refused with ⟨rfl, hcode⟩ | ⟨_, hrequest, rfl, _⟩
    · exact .inr ⟨.nil, _, rfl, hcode⟩
    · exact .inl (Sends.nil.record hrequest)
  | uploadRefused got refused =>
    rcases Session.uploadManifest_error refused with ⟨rfl, hcode⟩ | ⟨_, hrequest, rfl, _⟩
    · exact .inr ⟨got.sends, _, rfl, .inr hcode⟩
    · exact .inl (got.sends.record hrequest)
  | identifierMissing got nameless =>
    obtain ⟨_, hrequest, rfl⟩ := Session.uploadManifest_ok nameless
    exact .inl (got.sends.record hrequest)
  | sbomAbsent got => exact .inl got.sends
  | sbomUnread got => exact .inl got.sends
  | sbomRefused got _ _ refused =>
    rcases Session.registerSbom_error refused with ⟨rfl, hcode⟩ | ⟨_, hrequest, rfl, _⟩
    · exact .inr ⟨got.sends, _, rfl, .inr hcode⟩
    · exact .inl (got.sends.record hrequest)
  | sbomRegistered got _ _ registered => exact .inl (got.sends_register registered)

theorem Course.exists_sends (h : Course (.overHttp endpoints) tree config
    (.ofAnswers isOnline answers) result trace) :
    ∃ calls, calls <+: trace.calls ∧ Sends endpoints calls trace.services.requests := by
  rcases h.sends with hsends | ⟨hsends, _⟩
  · exact ⟨_, List.prefix_refl _, hsends⟩
  · exact ⟨_, List.dropLast_prefix _, hsends⟩

/-- Every call but the first shows the token that was given out in the answer to the first. -/
theorem Course.exists_token (h : Course (.overHttp endpoints) tree config
    (.ofAnswers isOnline answers) result trace) :
    trace.calls.tail = [] ∨ ∃ token, TokenInFirstAnswer answers token ∧
      ∀ call ∈ trace.calls.tail, call.token? = some token := by
  cases h with
  | manifestUnread => exact .inl rfl
  | tokenRefused => exact .inl rfl
  | uploadRefused got => exact .inr ⟨_, got.tokenInFirstAnswer, by simp [Call.token?]⟩
  | identifierMissing got => exact .inr ⟨_, got.tokenInFirstAnswer, by simp [Call.token?]⟩
  | sbomAbsent got => exact .inr ⟨_, got.tokenInFirstAnswer, by simp [Call.token?]⟩
  | sbomUnread got => exact .inr ⟨_, got.tokenInFirstAnswer, by simp [Call.token?]⟩
  | sbomRefused got => exact .inr ⟨_, got.tokenInFirstAnswer, by simp [Call.token?]⟩
  | sbomRegistered got => exact .inr ⟨_, got.tokenInFirstAnswer, by simp [Call.token?]⟩

end Course

end ManifestPublish
