import Mathlib
import ManifestPublish.Publish.Exchange

/-!
# What an exchange does to a session

* `Answer.Tells` : an answer that comes whole, with its status and text
* `Request.IsFor` : a request that goes out for an address in the sender's name
* `Session.used` : the session in which requests have gone out
* `Exchanged` : the three things that an exchange can come to

Principal results: `Session.exchange_used` (what was sent before has no part in an exchange),
`Session.exchanged` (no exchange leaves the three), and from it `Session.exchange_ok` and
`Session.exchange_error`: an exchange succeeds only with its request sent, and fails without it only
in transport.
-/

set_option autoImplicit false

namespace ManifestPublish

/-- The answer comes whole, with this status and text. -/
def Answer.Tells (answer : Answer) (status : Status) (text : String) : Prop :=
  answer.receive = .ok ⟨status, .ok text⟩

/-- The URL to which a request for an address goes, if the address is one. -/
def sentUrl? (address : String) : Option Url :=
  (Url.parse address).toOption.map fun url => url.withoutUserInfo.withoutFragment

/-- A request that goes out for an address in the sender's name.  What the address itself says of
the sender goes before that. -/
structure Request.IsFor (r : Request) (method : Method) (address authorization : String)
    (body : RequestBody) : Prop where
  method : r.method = method
  url : sentUrl? address = some r.sent.url
  authorization : r.authorization.getLast? = some authorization
  body : r.body = body

theorem Request.prepare_isFor {method : Method} {address authorization : String}
    {body : RequestBody} {r : Request}
    (h : Request.prepare method address authorization body = .ok r) :
    r.IsFor method address authorization body := by
  unfold Request.prepare at h
  split at h
  · cases h
  · rename_i url hparse
    split at h
    · cases h
    split at h
    · cases h
    split at h
    · cases h
      exact ⟨rfl, by simp [sentUrl?, hparse, Except.toOption, Request.sent, Url.withoutUserInfo,
        Url.withoutFragment], rfl, rfl⟩
    · cases h
      exact ⟨rfl, by simp [sentUrl?, hparse, Except.toOption, Request.sent], rfl, rfl⟩

namespace Session

/-- The session in which requests have gone out, each with the next of the answers. -/
def used (isOnline : Bool) (answers : List Answer) (requests : List Request) : Session :=
  ⟨isOnline, answers.drop requests.length, requests⟩

@[simp] theorem used_requests (isOnline : Bool) (answers : List Answer)
    (requests : List Request) : (used isOnline answers requests).requests = requests := rfl

@[simp] theorem ofAnswers_requests (isOnline : Bool) (answers : List Answer) :
    (ofAnswers isOnline answers).requests = [] := rfl

@[simp] theorem record_requests (s : Session) (r : Request) :
    (s.record r).requests = s.requests ++ [r.sent] := rfl

theorem used_record (isOnline : Bool) (answers : List Answer) (requests : List Request)
    (r : Request) :
    (used isOnline answers requests).record r = used isOnline answers (requests ++ [r.sent]) := by
  simp [used, record]

variable {α : Type} {isOnline : Bool} {answers : List Answer} {requests : List Request}
  {name : ExchangeName} {prepared : Except TransportFault Request}
  {accept : Status → String → Except PublishError α}

theorem send_used (r : Request) :
    (used isOnline answers requests).send r =
      (((ofAnswers isOnline (answers.drop requests.length)).send r).1,
        used isOnline answers (requests ++
          ((ofAnswers isOnline (answers.drop requests.length)).send r).2.requests)) := by
  have hobstacle : (ofAnswers isOnline (answers.drop requests.length)).obstacle? r.url =
      (used isOnline answers requests).obstacle? r.url := rfl
  unfold send
  rw [hobstacle]
  split
  · rw [ofAnswers_requests, List.append_nil]
  · rw [used_record, record_requests, ofAnswers_requests, List.nil_append]
    rfl

/-- **What was sent before has no part in an exchange** but for the answers that it took. -/
theorem exchange_used :
    (used isOnline answers requests).exchange name prepared accept =
      (((ofAnswers isOnline (answers.drop requests.length)).exchange name prepared accept).1,
        used isOnline answers (requests ++
          ((ofAnswers isOnline (answers.drop requests.length)).exchange name prepared
            accept).2.requests)) := by
  unfold exchange converse
  cases prepared with
  | error fault => simp only [ofAnswers_requests, List.append_nil]
  | ok request =>
    simp only
    rw [send_used request]
    rcases (ofAnswers isOnline (answers.drop requests.length)).send request with
      ⟨fault | incoming, s'⟩ <;> rfl

end Session

/-- What an exchange can come to. -/
inductive Exchanged {α : Type} (s : Session) (name : ExchangeName)
    (prepared : Except TransportFault Request) (accept : Status → String → Except PublishError α) :
    Except PublishError α → Session → Prop where
  /-- The request does not go out. -/
  | unsent (fault : TransportFault) :
      Exchanged s name prepared accept (.error (.transport name.sending fault)) s
  /-- No answer comes, or none that can be read to its end. -/
  | unheard {request : Request} (sent : prepared = .ok request) (context : String)
      (fault : TransportFault) :
      Exchanged s name prepared accept (.error (.transport context fault)) (s.record request)
  /-- The next answer of the session is read, and its status and text decide. -/
  | heard {request : Request} {answer : Answer} {status : Status} {text : String}
      (sent : prepared = .ok request) (next : s.answers.head? = some answer)
      (tells : answer.Tells status text) :
      Exchanged s name prepared accept (accept status text) (s.record request)

namespace Session

variable {α : Type} {s s' : Session} {name : ExchangeName}
  {prepared : Except TransportFault Request} {accept : Status → String → Except PublishError α}
  {e : PublishError} {a : α}

theorem exchange_of_converse {answer : Except PublishError (Status × String)}
    (h : s.converse name prepared = (answer, s')) :
    s.exchange name prepared accept =
      (answer.bind fun (status, text) => accept status text, s') := by
  unfold exchange
  rw [h]

theorem exchanged (s : Session) (name : ExchangeName) (prepared : Except TransportFault Request)
    (accept : Status → String → Except PublishError α) :
    Exchanged s name prepared accept (s.exchange name prepared accept).1
      (s.exchange name prepared accept).2 := by
  cases prepared with
  | error fault => exact .unsent fault
  | ok request =>
    cases hobstacle : s.obstacle? request.url with
    | some fault =>
      have hconverse : s.converse name (.ok request) =
          (.error (.transport name.sending fault), s) := by
        simp [converse, send, hobstacle]
      rw [exchange_of_converse hconverse]
      exact .unsent fault
    | none =>
      -- The request goes out; what comes back for it decides.
      cases hreceive : (s.answers.head?.getD .dropped).receive with
      | error fault =>
        have hconverse : s.converse name (.ok request) =
            (.error (.transport name.sending (.notSent request.url.render fault)),
              s.record request) := by
          simp [converse, send, hobstacle, hreceive, Except.mapError]
        rw [exchange_of_converse hconverse]
        exact .unheard rfl _ _
      | ok incoming =>
        have hconverse : s.converse name (.ok request) =
            (incoming.read name, s.record request) := by
          simp [converse, send, hobstacle, hreceive, Except.mapError]
        rw [exchange_of_converse hconverse]
        obtain ⟨status, fault | text⟩ := incoming
        · exact .unheard rfl _ _
        · cases hnext : s.answers.head? with
          | none =>
            rw [hnext] at hreceive
            cases hreceive
          | some answer =>
            rw [hnext] at hreceive
            exact .heard rfl hnext hreceive

/-- **An exchange succeeds only with its request sent and the next answer accepted.** -/
theorem exchange_ok (h : s.exchange name prepared accept = (.ok a, s')) :
    ∃ request answer status text, prepared = .ok request ∧ s' = s.record request ∧
      s.answers.head? = some answer ∧ answer.Tells status text ∧ accept status text = .ok a := by
  have hexchanged := s.exchanged name prepared accept
  rw [h] at hexchanged
  generalize hr : (Except.ok a : Except PublishError α) = result at hexchanged ⊢
  cases hexchanged with
  | unsent fault => cases hr
  | unheard sent context fault => cases hr
  | heard sent next tells => exact ⟨_, _, _, _, sent, rfl, next, tells, rfl⟩

/-- **An exchange fails in transport, with its request sent or not, or because the answer to the
request is not accepted.** -/
theorem exchange_error (h : s.exchange name prepared accept = (.error e, s')) :
    (∃ context fault, e = .transport context fault ∧
      (s' = s ∨ ∃ request, prepared = .ok request ∧ s' = s.record request)) ∨
    ∃ request status text, prepared = .ok request ∧ s' = s.record request ∧
      accept status text = .error e := by
  have hexchanged := s.exchanged name prepared accept
  rw [h] at hexchanged
  generalize hr : (Except.error e : Except PublishError α) = result at hexchanged ⊢
  cases hexchanged with
  | unsent fault =>
    cases hr
    exact .inl ⟨_, _, rfl, .inl rfl⟩
  | unheard sent context fault =>
    cases hr
    exact .inl ⟨_, _, rfl, .inr ⟨_, sent, rfl⟩⟩
  | heard sent next tells => exact .inr ⟨_, _, _, sent, rfl, rfl⟩

end Session

/-! ## What is made of an answer -/

section Accept

variable {status : Status} {text : String} {e : PublishError}

theorem acceptToken_ok {token : AccessToken} (h : acceptToken status text = .ok token) :
    status.isSuccess = true ∧ decodeToken text = .ok token := by
  unfold acceptToken at h
  split at h
  · rename_i hsuccess
    refine ⟨hsuccess, ?_⟩
    cases hdecode : decodeToken text with
    | ok found =>
      rw [hdecode] at h
      cases h
      rfl
    | error fault =>
      rw [hdecode] at h
      cases h
  · cases h

theorem acceptToken_error (h : acceptToken status text = .error e) :
    e = .authentication status text ∨ ∃ fault, e = .malformedResponse fault := by
  unfold acceptToken at h
  split at h
  · cases hdecode : decodeToken text with
    | ok found =>
      rw [hdecode] at h
      cases h
    | error fault =>
      rw [hdecode] at h
      cases h
      exact .inr ⟨fault, rfl⟩
  · cases h
    exact .inl rfl

theorem acceptUpload_error (h : acceptUpload status text = .error e) :
    e = .upload .manifest status text ∨ ∃ fault, e = .malformedResponse fault := by
  unfold acceptUpload at h
  split at h
  · split at h
    · cases h
    · cases h
      exact .inr ⟨_, rfl⟩
  · cases h
    exact .inl rfl

theorem acceptSbom_error (h : acceptSbom status text = .error e) :
    e = .upload .sbom status text := by
  unfold acceptSbom at h
  split at h
  · cases h
  · cases h
    rfl

end Accept

/-! ## The three exchanges of a run -/

namespace Session

variable {s s' : Session} {endpoints : Endpoints} {credentials : Credentials}
  {token : AccessToken} {manifest sbom : LocalFile} {id : String} {e : PublishError}

/-- An access token is given out only for a request that was sent, in the answer to it. -/
theorem fetchToken_ok (h : s.fetchToken endpoints credentials = (.ok token, s')) :
    ∃ request answer status text, tokenRequest endpoints credentials = .ok request ∧
      s' = s.record request ∧ s.answers.head? = some answer ∧ answer.Tells status text ∧
      status.isSuccess = true ∧ decodeToken text = .ok token := by
  unfold fetchToken at h
  split at h
  · cases h
  · obtain ⟨request, answer, status, text, sent, rfl, next, tells, accepted⟩ := exchange_ok h
    obtain ⟨hsuccess, hdecode⟩ := acceptToken_ok accepted
    exact ⟨request, answer, status, text, sent, rfl, next, tells, hsuccess, hdecode⟩

/-- Without a request, a token is refused only because the API token is blank or in transport. -/
theorem fetchToken_error (h : s.fetchToken endpoints credentials = (.error e, s')) :
    (s' = s ∧ (e.exitCode = 2 ∧ Blank.isBlankText credentials.apiToken = true ∨
      e.exitCode = 8)) ∨
    ∃ request, tokenRequest endpoints credentials = .ok request ∧ s' = s.record request ∧
      (e.exitCode = 4 ∨ e.exitCode = 7 ∨ e.exitCode = 8) := by
  unfold fetchToken at h
  split at h
  · rename_i hblank
    cases h
    exact .inl ⟨rfl, .inl ⟨rfl, hblank⟩⟩
  · rcases exchange_error h with ⟨context, fault, rfl, rfl | ⟨request, sent, rfl⟩⟩ |
      ⟨request, status, text, sent, rfl, refused⟩
    · exact .inl ⟨rfl, .inr rfl⟩
    · exact .inr ⟨request, sent, rfl, .inr (.inr rfl)⟩
    · rcases acceptToken_error refused with rfl | ⟨fault, rfl⟩
      · exact .inr ⟨request, sent, rfl, .inl rfl⟩
      · exact .inr ⟨request, sent, rfl, .inr (.inl rfl)⟩

theorem uploadManifest_ok {result : UploadResult}
    (h : s.uploadManifest endpoints token manifest = (.ok result, s')) :
    ∃ request, manifestRequest endpoints token manifest = .ok request ∧
      s' = s.record request := by
  obtain ⟨request, answer, status, text, sent, rfl, next, tells, accepted⟩ := exchange_ok h
  exact ⟨request, sent, rfl⟩

theorem uploadManifest_error (h : s.uploadManifest endpoints token manifest = (.error e, s')) :
    (s' = s ∧ e.exitCode = 8) ∨
    ∃ request, manifestRequest endpoints token manifest = .ok request ∧ s' = s.record request ∧
      (e.exitCode = 5 ∨ e.exitCode = 7 ∨ e.exitCode = 8) := by
  rcases exchange_error h with ⟨context, fault, rfl, rfl | ⟨request, sent, rfl⟩⟩ |
    ⟨request, status, text, sent, rfl, refused⟩
  · exact .inl ⟨rfl, rfl⟩
  · exact .inr ⟨request, sent, rfl, .inr (.inr rfl)⟩
  · rcases acceptUpload_error refused with rfl | ⟨fault, rfl⟩
    · exact .inr ⟨request, sent, rfl, .inl rfl⟩
    · exact .inr ⟨request, sent, rfl, .inr (.inl rfl)⟩

theorem registerSbom_ok (h : s.registerSbom endpoints token id sbom = (.ok (), s')) :
    ∃ request, sbomRequest endpoints token id sbom = .ok request ∧ s' = s.record request := by
  obtain ⟨request, answer, status, text, sent, rfl, next, tells, accepted⟩ := exchange_ok h
  exact ⟨request, sent, rfl⟩

theorem registerSbom_error (h : s.registerSbom endpoints token id sbom = (.error e, s')) :
    (s' = s ∧ e.exitCode = 8) ∨
    ∃ request, sbomRequest endpoints token id sbom = .ok request ∧ s' = s.record request ∧
      (e.exitCode = 5 ∨ e.exitCode = 8) := by
  rcases exchange_error h with ⟨context, fault, rfl, rfl | ⟨request, sent, rfl⟩⟩ |
    ⟨request, status, text, sent, rfl, refused⟩
  · exact .inl ⟨rfl, rfl⟩
  · exact .inr ⟨request, sent, rfl, .inr rfl⟩
  · rw [acceptSbom_error refused]
    exact .inr ⟨request, sent, rfl, .inl rfl⟩

section Used

variable {isOnline : Bool} {answers : List Answer} {requests : List Request}

theorem fetchToken_used :
    (used isOnline answers requests).fetchToken endpoints credentials =
      (((ofAnswers isOnline (answers.drop requests.length)).fetchToken endpoints credentials).1,
        used isOnline answers (requests ++
          ((ofAnswers isOnline (answers.drop requests.length)).fetchToken endpoints
            credentials).2.requests)) := by
  unfold fetchToken
  split
  · rw [ofAnswers_requests, List.append_nil]
  · exact exchange_used

theorem uploadManifest_used :
    (used isOnline answers requests).uploadManifest endpoints token manifest =
      (((ofAnswers isOnline (answers.drop requests.length)).uploadManifest endpoints token
          manifest).1,
        used isOnline answers (requests ++
          ((ofAnswers isOnline (answers.drop requests.length)).uploadManifest endpoints token
            manifest).2.requests)) :=
  exchange_used

theorem registerSbom_used :
    (used isOnline answers requests).registerSbom endpoints token id sbom =
      (((ofAnswers isOnline (answers.drop requests.length)).registerSbom endpoints token id
          sbom).1,
        used isOnline answers (requests ++
          ((ofAnswers isOnline (answers.drop requests.length)).registerSbom endpoints token id
            sbom).2.requests)) :=
  exchange_used

end Used

end Session

end ManifestPublish
