import ManifestPublish.Proofs.Http.Alike

/-!
# What an answer comes to

The three exchanges of a run look at an answer in one order: whether the request went out, whether
the body was read to its end, whether the status is one of success, and only then at the text.

* `Reception` : what can be heard of a request
* `Session.Hears` : what is heard of a request in a session, one thing for each way it can go
* `Reception.outcome` : what an exchange makes of that
* `Session.Classified` : the result of an exchange is what it makes of what is heard, whatever that
  is

Principal result: `exchanges_classified`.
-/

set_option autoImplicit false

namespace ManifestPublish

/-- What can be heard of a request. -/
inductive Reception where
  /-- Sending fails. -/
  | unsent (fault : TransportFault)
  /-- A status comes, and the body after it cannot be read to its end. -/
  | unread (status : Status) (fault : TransportFault)
  /-- An answer is read to its end. -/
  | read (status : Status) (text : String)
  deriving DecidableEq, Repr

/-- What is heard of a request in a session. -/
inductive Session.Hears (s : Session) (prepared : Except TransportFault Request) :
    Reception → Prop where
  /-- The address or what is said of the sender cannot be used. -/
  | unusable {fault : TransportFault} (h : prepared = .error fault) :
      Hears s prepared (.unsent fault)
  /-- There is no way to the URL. -/
  | unreachable {r : Request} {fault : TransportFault} (h : prepared = .ok r)
      (way : s.obstacle? r.url = some fault) : Hears s prepared (.unsent fault)
  /-- The connection ends without an answer. -/
  | dropped {r : Request} (h : prepared = .ok r) (way : s.obstacle? r.url = none)
      (next : s.answers = [] ∨ s.answers.head? = some .dropped) :
      Hears s prepared (.unsent (.notSent r.url.render .closed))
  /-- Time runs out. -/
  | silence {r : Request} (h : prepared = .ok r) (way : s.obstacle? r.url = none)
      (next : s.answers.head? = some .silence) :
      Hears s prepared (.unsent (.notSent r.url.render .timedOut))
  /-- The body ends before its promised length. -/
  | cutShort {r : Request} {status : Status} (h : prepared = .ok r)
      (way : s.obstacle? r.url = none) (next : s.answers.head? = some (.cutShort status))
      (body : status.isBodiless = false) : Hears s prepared (.unread status .truncatedBody)
  /-- A body was promised for a status that has none. -/
  | bodiless {r : Request} {status : Status} (h : prepared = .ok r)
      (way : s.obstacle? r.url = none) (next : s.answers.head? = some (.cutShort status))
      (body : status.isBodiless = true) : Hears s prepared (.read status "")
  | reply {r : Request} {reply : Reply} (h : prepared = .ok r) (way : s.obstacle? r.url = none)
      (next : s.answers.head? = some (.reply reply)) :
      Hears s prepared (.read reply.status reply.text)

/-- What an exchange makes of what is heard: `refuse` of an answer with a status outside 200 to 299,
`accept` of any other. -/
def Reception.outcome {α : Type} (name : ExchangeName) (refuse : Status → String → PublishError)
    (accept : Status → String → Except PublishError α) : Reception → Except PublishError α
  | .unsent fault => .error (.transport name.sending fault)
  | .unread _ fault => .error (.transport name.reading fault)
  | .read status text =>
    if 200 ≤ status ∧ status ≤ 299 then accept status text else .error (refuse status text)

/-- The result of an exchange is what it makes of what is heard, and something is heard. -/
structure Session.Classified {α : Type} (s : Session) (prepared : Except TransportFault Request)
    (name : ExchangeName) (refuse : Status → String → PublishError)
    (accept : Status → String → Except PublishError α) (result : Except PublishError α) : Prop where
  heard : ∃ heard, s.Hears prepared heard
  outcome : ∀ heard, s.Hears prepared heard → result = heard.outcome name refuse accept

/-- An answer with a status of success is read to its end. -/
structure Session.Takes (s : Session) (prepared : Except TransportFault Request) (status : Status)
    (text : String) : Prop where
  heard : s.Hears prepared (.read status text)
  least : 200 ≤ status
  greatest : status ≤ 299

/-! ## One exchange -/

namespace Session

variable {α : Type} {s : Session} {name : ExchangeName} {prepared : Except TransportFault Request}
  {refuse : Status → String → PublishError} {accept take : Status → String → Except PublishError α}
  {heard : Reception}

theorem exists_hears (s : Session) (prepared : Except TransportFault Request) :
    ∃ heard, s.Hears prepared heard := by
  cases hprepared : prepared with
  | error fault => exact ⟨_, .unusable rfl⟩
  | ok r =>
    cases hway : s.obstacle? r.url with
    | some fault => exact ⟨_, .unreachable rfl hway⟩
    | none =>
      cases hnext : s.answers.head? with
      | none => exact ⟨_, .dropped rfl hway (.inl (List.head?_eq_none_iff.1 hnext))⟩
      | some answer =>
        cases answer with
        | reply reply => exact ⟨_, .reply rfl hway hnext⟩
        | dropped => exact ⟨_, .dropped rfl hway (.inr hnext)⟩
        | silence => exact ⟨_, .silence rfl hway hnext⟩
        | cutShort status =>
          cases hbody : Status.isBodiless status with
          | false => exact ⟨_, .cutShort rfl hway hnext hbody⟩
          | true => exact ⟨_, .bodiless rfl hway hnext hbody⟩

theorem exchange_next {r : Request} {answer : Answer} (way : s.obstacle? r.url = none)
    (next : s.answers.head? = some answer) :
    (s.exchange name (.ok r) take).1 = answer.outcome name r.url take := by
  rw [exchange_unobstructed way, next]
  rfl

/-- **An exchange makes of what is heard what it should**, if it takes answers by their status. -/
theorem Hears.exchange_eq (h : s.Hears prepared heard)
    (htake : ∀ status text, take status text =
      if 200 ≤ status ∧ status ≤ 299 then accept status text else .error (refuse status text)) :
    (s.exchange name prepared take).1 = heard.outcome name refuse accept := by
  cases h with
  | unusable hprepared =>
    rw [hprepared, exchange_unprepared]
    rfl
  | unreachable hprepared way =>
    rw [hprepared, exchange_obstructed way]
    rfl
  | dropped hprepared way next =>
    obtain hnil | hdropped := next
    · rw [hprepared, exchange_unobstructed way, hnil]
      rfl
    · rw [hprepared, exchange_next way hdropped]
      rfl
  | silence hprepared way next =>
    rw [hprepared, exchange_next way next]
    rfl
  | @cutShort r status hprepared way next body =>
    have hreceive : (Answer.cutShort status).receive = .ok ⟨status, .error .truncatedBody⟩ := by
      simp [Answer.receive, body]
    rw [hprepared, exchange_next way next, Answer.outcome, hreceive]
    rfl
  | @bodiless r status hprepared way next body =>
    have htells : (Answer.cutShort status).Tells status "" := by
      simp [Answer.Tells, Answer.receive, body]
    rw [hprepared, exchange_next way next, htells.outcome, htake]
    rfl
  | @reply r reply hprepared way next =>
    have htells : (Answer.reply reply).Tells reply.status reply.text := rfl
    rw [hprepared, exchange_next way next, htells.outcome, htake]
    rfl

/-- An exchange that takes answers by their status is classified. -/
theorem classified_of_take
    (htake : ∀ status text, take status text =
      if 200 ≤ status ∧ status ≤ 299 then accept status text else .error (refuse status text)) :
    s.Classified prepared name refuse accept (s.exchange name prepared take).1 :=
  ⟨s.exists_hears prepared, fun _ h => h.exchange_eq htake⟩

/-- What is neither refused nor a fault in transport comes from an answer that was taken. -/
theorem Classified.taken {result : Except PublishError α}
    (h : s.Classified prepared name refuse accept result)
    (htransport : ∀ context fault, result ≠ .error (.transport context fault))
    (hrefuse : ∀ status text, result ≠ .error (refuse status text)) :
    ∃ status text, s.Takes prepared status text ∧ result = accept status text := by
  obtain ⟨heard, hheard⟩ := h.heard
  have hresult := h.outcome heard hheard
  cases heard with
  | unsent fault => exact (htransport _ _ hresult).elim
  | unread status fault => exact (htransport _ _ hresult).elim
  | read status text =>
    rw [Reception.outcome] at hresult
    split at hresult
    · rename_i hsuccess
      exact ⟨status, text, ⟨hheard, hsuccess.1, hsuccess.2⟩, hresult⟩
    · exact (hrefuse _ _ hresult).elim

theorem Classified.ok {a : α} (h : s.Classified prepared name refuse accept (.ok a)) :
    ∃ status text, s.Takes prepared status text ∧ accept status text = .ok a := by
  obtain ⟨status, text, htakes, hresult⟩ :=
    h.taken (fun _ _ => by rintro ⟨⟩) (fun _ _ => by rintro ⟨⟩)
  exact ⟨status, text, htakes, hresult.symm⟩

/-- A malformed answer was taken, if malformed answers are not what is refused. -/
theorem Classified.malformed {fault : ResponseFault}
    (h : s.Classified prepared name refuse accept (.error (.malformedResponse fault)))
    (hrefuse : ∀ status text, refuse status text ≠ .malformedResponse fault) :
    ∃ status text, s.Takes prepared status text ∧
      accept status text = .error (.malformedResponse fault) := by
  obtain ⟨status, text, htakes, hresult⟩ := h.taken (fun _ _ => by rintro ⟨⟩)
    (fun status text heq => hrefuse status text (Except.error.inj heq).symm)
  exact ⟨status, text, htakes, hresult.symm⟩

end Session

/-! ## The three exchanges -/

/-- What is made of the text of an answer to a token request that was taken. -/
def tokenOfText (_ : Status) (text : String) : Except PublishError AccessToken :=
  (decodeToken text).mapError .malformedResponse

/-- What is made of the text of an answer to an upload that was taken; the status is kept. -/
def uploadOfText (status : Status) (text : String) : Except PublishError UploadResult :=
  ((decodeFactSheetId text).map (UploadResult.mk status)).mapError .malformedResponse

/-- What is made of the text of an answer to a registration that was taken: it does not matter. -/
def sbomOfText (_ : Status) (_ : String) : Except PublishError Unit := .ok ()

theorem isSuccess_iff (status : Status) :
    status.isSuccess = true ↔ 200 ≤ status ∧ status ≤ 299 := by
  rw [Status.isSuccess, Bool.and_eq_true, decide_eq_true_eq, decide_eq_true_eq]
  exact and_congr_right fun _ => Nat.lt_succ_iff

section Take

variable {status : Status} {text : String} {token : AccessToken} {result : UploadResult}
  {fault : ResponseFault}

theorem acceptToken_eq (status : Status) (text : String) :
    acceptToken status text =
      if 200 ≤ status ∧ status ≤ 299 then tokenOfText status text
      else .error (.authentication status text) := by
  simp only [acceptToken, isSuccess_iff, tokenOfText]

theorem acceptUpload_eq (status : Status) (text : String) :
    acceptUpload status text =
      if 200 ≤ status ∧ status ≤ 299 then uploadOfText status text
      else .error (.upload .manifest status text) := by
  simp only [acceptUpload, isSuccess_iff, uploadOfText]
  cases decodeFactSheetId text <;> rfl

theorem acceptSbom_eq (status : Status) (text : String) :
    acceptSbom status text =
      if 200 ≤ status ∧ status ≤ 299 then sbomOfText status text
      else .error (.upload .sbom status text) := by
  simp only [acceptSbom, isSuccess_iff, sbomOfText]

theorem tokenOfText_eq_ok_iff :
    tokenOfText status text = .ok token ↔ decodeToken text = .ok token := by
  rw [tokenOfText]
  cases decodeToken text <;> simp [Except.mapError]

theorem tokenOfText_eq_error_iff :
    tokenOfText status text = .error (.malformedResponse fault) ↔
      decodeToken text = .error fault := by
  rw [tokenOfText]
  cases decodeToken text <;> simp [Except.mapError]

theorem uploadOfText_eq_ok_iff :
    uploadOfText status text = .ok result ↔
      status = result.status ∧ decodeFactSheetId text = .ok result.factSheetId := by
  obtain ⟨status', id⟩ := result
  rw [uploadOfText]
  cases decodeFactSheetId text <;> simp [Except.mapError, Except.map]

theorem uploadOfText_eq_error_iff :
    uploadOfText status text = .error (.malformedResponse fault) ↔
      decodeFactSheetId text = .error fault := by
  rw [uploadOfText]
  cases decodeFactSheetId text <;> simp [Except.mapError, Except.map]

theorem uploadOfText_ne_missingIdentifier :
    uploadOfText status text ≠ .error .missingIdentifier := by
  rw [uploadOfText]
  cases decodeFactSheetId text <;> simp [Except.mapError, Except.map]

end Take

section Exchanges

variable {s : Session} {endpoints : Endpoints} {credentials : Credentials} {token : AccessToken}
  {manifest sbom : LocalFile} {id : String}

theorem fetchToken_classified (s : Session) (endpoints : Endpoints)
    (h : Blank.isBlankText credentials.apiToken = false) :
    s.Classified (tokenRequest endpoints credentials) tokenExchange .authentication tokenOfText
      (s.fetchToken endpoints credentials).1 := by
  rw [Session.fetchToken, h]
  exact Session.classified_of_take acceptToken_eq

theorem uploadManifest_classified (s : Session) (endpoints : Endpoints) (token : AccessToken)
    (manifest : LocalFile) :
    s.Classified (manifestRequest endpoints token manifest) manifestExchange (.upload .manifest)
      uploadOfText (s.uploadManifest endpoints token manifest).1 :=
  Session.classified_of_take acceptUpload_eq

theorem registerSbom_classified (s : Session) (endpoints : Endpoints) (token : AccessToken)
    (id : String) (sbom : LocalFile) :
    s.Classified (sbomRequest endpoints token id sbom) sbomExchange (.upload .sbom) sbomOfText
      (s.registerSbom endpoints token id sbom).1 :=
  Session.classified_of_take acceptSbom_eq

theorem isBlankText_of_fetchToken {result : Except PublishError AccessToken}
    (h : (s.fetchToken endpoints credentials).1 = result)
    (hsetting : result ≠ .error (.configuration .blankToken)) :
    Blank.isBlankText credentials.apiToken = false := by
  by_contra hblank
  rw [Session.fetchToken, if_pos (eq_true_of_ne_false hblank)] at h
  exact hsetting h.symm

theorem fetchToken_taken (h : (s.fetchToken endpoints credentials).1 = .ok token) :
    ∃ status text, s.Takes (tokenRequest endpoints credentials) status text ∧
      decodeToken text = .ok token := by
  have hclassified := fetchToken_classified s endpoints
    (isBlankText_of_fetchToken h (by rintro ⟨⟩))
  rw [h] at hclassified
  obtain ⟨status, text, htakes, hok⟩ := hclassified.ok
  exact ⟨status, text, htakes, tokenOfText_eq_ok_iff.1 hok⟩

theorem fetchToken_malformed {fault : ResponseFault}
    (h : (s.fetchToken endpoints credentials).1 = .error (.malformedResponse fault)) :
    ∃ status text, s.Takes (tokenRequest endpoints credentials) status text ∧
      decodeToken text = .error fault := by
  have hclassified := fetchToken_classified s endpoints
    (isBlankText_of_fetchToken h (by rintro ⟨⟩))
  rw [h] at hclassified
  obtain ⟨status, text, htakes, herror⟩ := hclassified.malformed (fun _ _ => by rintro ⟨⟩)
  exact ⟨status, text, htakes, tokenOfText_eq_error_iff.1 herror⟩

theorem uploadManifest_taken {result : UploadResult}
    (h : (s.uploadManifest endpoints token manifest).1 = .ok result) :
    ∃ text, s.Takes (manifestRequest endpoints token manifest) result.status text ∧
      decodeFactSheetId text = .ok result.factSheetId := by
  have hclassified := uploadManifest_classified s endpoints token manifest
  rw [h] at hclassified
  obtain ⟨status, text, htakes, hok⟩ := hclassified.ok
  obtain ⟨rfl, hdecode⟩ := uploadOfText_eq_ok_iff.1 hok
  exact ⟨text, htakes, hdecode⟩

theorem uploadManifest_malformed {fault : ResponseFault}
    (h : (s.uploadManifest endpoints token manifest).1 = .error (.malformedResponse fault)) :
    ∃ status text, s.Takes (manifestRequest endpoints token manifest) status text ∧
      decodeFactSheetId text = .error fault := by
  have hclassified := uploadManifest_classified s endpoints token manifest
  rw [h] at hclassified
  obtain ⟨status, text, htakes, herror⟩ := hclassified.malformed (fun _ _ => by rintro ⟨⟩)
  exact ⟨status, text, htakes, uploadOfText_eq_error_iff.1 herror⟩

/-- **Answers are looked at in one order by all three exchanges.**  A request that is not sent and a
body that is not read to its end are faults in transport, whatever the status; a status outside 200
to 299 is a refusal with the whole text, whatever it says; only then does the text decide, and for a
registration it does not.  So nothing is given and nothing is malformed but in an answer that was
taken, no registration is malformed, and no upload misses an identifier by itself.  Requests to
`https` URLs never go out, and redirects, proxies and stalls inside a body are not modelled (see
`Session`), so the answer to a request is the first that comes. -/
theorem exchanges_classified (s : Session) (endpoints : Endpoints) :
    (∀ credentials : Credentials, Blank.isBlankText credentials.apiToken = false →
      s.Classified (tokenRequest endpoints credentials) ⟨"token request", "token response"⟩
        .authentication tokenOfText (s.fetchToken endpoints credentials).1) ∧
    (∀ token manifest,
      s.Classified (manifestRequest endpoints token manifest)
        ⟨"manifest upload", "manifest response"⟩ (.upload .manifest) uploadOfText
        (s.uploadManifest endpoints token manifest).1) ∧
    (∀ token id sbom,
      s.Classified (sbomRequest endpoints token id sbom) ⟨"sbom upload", "sbom response"⟩
        (.upload .sbom) sbomOfText (s.registerSbom endpoints token id sbom).1) ∧
    (∀ credentials token, (s.fetchToken endpoints credentials).1 = .ok token →
      ∃ status text, s.Takes (tokenRequest endpoints credentials) status text ∧
        decodeToken text = .ok token) ∧
    (∀ credentials fault,
      (s.fetchToken endpoints credentials).1 = .error (.malformedResponse fault) →
      ∃ status text, s.Takes (tokenRequest endpoints credentials) status text ∧
        decodeToken text = .error fault) ∧
    (∀ token manifest result, (s.uploadManifest endpoints token manifest).1 = .ok result →
      ∃ text, s.Takes (manifestRequest endpoints token manifest) result.status text ∧
        decodeFactSheetId text = .ok result.factSheetId) ∧
    (∀ token manifest fault,
      (s.uploadManifest endpoints token manifest).1 = .error (.malformedResponse fault) →
      ∃ status text, s.Takes (manifestRequest endpoints token manifest) status text ∧
        decodeFactSheetId text = .error fault) ∧
    (∀ token manifest,
      (s.uploadManifest endpoints token manifest).1 ≠ .error .missingIdentifier) ∧
    (∀ token id sbom, (s.registerSbom endpoints token id sbom).1 = .ok () →
      ∃ status text, s.Takes (sbomRequest endpoints token id sbom) status text) ∧
    ∀ token id sbom fault,
      (s.registerSbom endpoints token id sbom).1 ≠ .error (.malformedResponse fault) := by
  refine ⟨fun credentials h => fetchToken_classified s endpoints h,
    uploadManifest_classified s endpoints, registerSbom_classified s endpoints,
    fun credentials token h => fetchToken_taken h,
    fun credentials fault h => fetchToken_malformed h,
    fun token manifest result h => uploadManifest_taken h,
    fun token manifest fault h => uploadManifest_malformed h, ?_, ?_, ?_⟩
  · intro token manifest h
    have hclassified := uploadManifest_classified s endpoints token manifest
    rw [h] at hclassified
    obtain ⟨status, text, -, hmissing⟩ :=
      hclassified.taken (fun _ _ => by rintro ⟨⟩) (fun _ _ => by rintro ⟨⟩)
    exact uploadOfText_ne_missingIdentifier hmissing.symm
  · intro token id sbom h
    have hclassified := registerSbom_classified s endpoints token id sbom
    rw [h] at hclassified
    obtain ⟨status, text, htakes, -⟩ := hclassified.ok
    exact ⟨status, text, htakes⟩
  · intro token id sbom fault h
    have hclassified := registerSbom_classified s endpoints token id sbom
    rw [h] at hclassified
    obtain ⟨status, text, -, ⟨⟩⟩ := hclassified.malformed (fun _ _ => by rintro ⟨⟩)

theorem Request.prepare_plain {method : Method} {address authorization : String}
    {body : RequestBody} {url : Url} (hparse : Url.parse address = .ok url)
    (hhost : url.hasHost = true) (hheader : isHeaderValue authorization = true)
    (hname : url.userInfo? = none) :
    Request.prepare method address authorization body =
      .ok ⟨method, url, [authorization], body⟩ := by
  simp [Request.prepare, hparse, hhost, hheader, hname]

/-- A token under a status of refusal is not looked at, nor is the status of an answer that is cut
short. -/
theorem exchanges_classified_refused :
    let e := Endpoints.ofBaseUrl "http://host"
    let credentials : Credentials := ⟨"secret", "leanix"⟩
    let grant := "\x7b\"access_token\":\"abc\"\x7d"
    let s (answer : Answer) := Session.ofAnswers true [answer]
    Blank.isBlankText credentials.apiToken = false ∧
    ((s (.reply ⟨401, none, Utf8.encode grant⟩)).fetchToken e credentials).1 =
      .error (.authentication 401 grant) ∧
    ((s (.cutShort 401)).fetchToken e credentials).1 =
      .error (.transport "token response" .truncatedBody) := by
  intro e credentials grant s
  have hfilled : Blank.isBlankText credentials.apiToken = false := by decide
  have hclassified (answer : Answer) :=
    (exchanges_classified (s answer) e).1 credentials hfilled
  let url : Url := ⟨"http", "", none, some (.domain "host"), none,
    .segments ["mtm", "v1", "oauth2", "token"], none, none⟩
  have hrequest : tokenRequest e credentials = .ok ⟨.post, url,
      [basicAuthorization tokenUsername "secret"], .form tokenForm⟩ :=
    Request.prepare_plain (by cbv) (by decide) (isHeaderValue_basic _ _) (by cbv)
  have hway (answer : Answer) : (s answer).obstacle? url = none := by
    have haddressable : url.isAddressable = true := by cbv
    rw [Session.obstacle?, haddressable]
    rfl
  have hgrant : Reply.text ⟨401, none, Utf8.encode grant⟩ = grant := by cbv
  refine ⟨hfilled, ?_, ?_⟩
  · rw [(hclassified _).outcome _ (.reply hrequest (hway _) rfl), hgrant]
    rfl
  · rw [(hclassified _).outcome _ (.cutShort hrequest (hway _) rfl rfl)]
    rfl

end Exchanges

end ManifestPublish
