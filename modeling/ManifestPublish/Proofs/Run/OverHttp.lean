import ManifestPublish.Proofs.Run.Requests
import ManifestPublish.Proofs.Run.Scripted

/-!
# Runs over HTTP

The requests of a run go out one after the other, each after the answer to the one before it.  A run
over HTTP is the three exchanges, each made on its own with the answers that those before it left.

* `requestsAlone` : the requests of calls of which each is made on its own
* `Replies.Alone` : the replies of exchanges of which each is made on its own
* `RunsOverHttp` : what is said of a run over HTTP

Principal results: `performAll_used` (a run over HTTP is made of exchanges on their own) and
`publish_runsOverHttp`.
-/

set_option autoImplicit false

namespace ManifestPublish

/-! ## A run is made of exchanges on their own -/

/-- The services after a call that is made on its own, with these answers to come. -/
def Call.alone (endpoints : Endpoints) (isOnline : Bool) (answers : List Answer) (call : Call) :
    Session :=
  call.perform (.overHttp endpoints) (.ofAnswers isOnline answers)

/-- The requests of calls of which each is made on its own, with the answers that the requests of
those before it left. -/
def requestsAlone (endpoints : Endpoints) (isOnline : Bool) :
    List Answer → List Call → List Request
  | _, [] => []
  | answers, call :: calls =>
    let requests := (call.alone endpoints isOnline answers).requests
    requests ++ requestsAlone endpoints isOnline (answers.drop requests.length) calls

/-- The answers that calls leave of which each is made on its own. -/
def answersAfter (endpoints : Endpoints) (isOnline : Bool) (answers : List Answer)
    (calls : List Call) : List Answer :=
  answers.drop (requestsAlone endpoints isOnline answers calls).length

/-- The replies are the outcomes of exchanges of which each is made on its own, with the answers
that those before it left. -/
structure Replies.Alone (endpoints : Endpoints) (tree : FileTree) (config : PublishConfig)
    (isOnline : Bool) (answers : List Answer) (replies : Replies) : Prop where
  token : replies.token =
    ((Session.ofAnswers isOnline answers).fetchToken endpoints config.credentials).1
  upload : ∀ {token : AccessToken} {manifest : LocalFile}, replies.token = .ok token →
    tree.read config.manifestFile = .ok manifest →
    replies.upload = ((Session.ofAnswers isOnline (answersAfter endpoints isOnline answers
      [.fetchToken config.credentials])).uploadManifest endpoints token manifest).1
  register : ∀ {token : AccessToken} {manifest sbom : LocalFile} {status : Status} {id : String},
    replies.token = .ok token → tree.read config.manifestFile = .ok manifest →
    replies.upload = .ok ⟨status, some id⟩ → tree.read config.sbomFile = .ok sbom →
    replies.register = ((Session.ofAnswers isOnline (answersAfter endpoints isOnline answers
      [.fetchToken config.credentials, .uploadManifest token manifest])).registerSbom endpoints
        token id sbom).1

/-- Such replies.  Where what went before does not let an exchange be made, the reply is that
failure. -/
def Replies.ofExchanges (endpoints : Endpoints) (tree : FileTree) (config : PublishConfig)
    (isOnline : Bool) (answers : List Answer) : Replies :=
  let token := ((Session.ofAnswers isOnline answers).fetchToken endpoints config.credentials).1
  let upload := do
    let token ← token
    let manifest ← tree.read config.manifestFile
    ((Session.ofAnswers isOnline (answersAfter endpoints isOnline answers
      [.fetchToken config.credentials])).uploadManifest endpoints token manifest).1
  let register := do
    let token ← token
    let manifest ← tree.read config.manifestFile
    match (← upload).factSheetId with
    | none => throw .missingIdentifier
    | some id =>
      let sbom ← tree.read config.sbomFile
      ((Session.ofAnswers isOnline (answersAfter endpoints isOnline answers
        [.fetchToken config.credentials, .uploadManifest token manifest])).registerSbom endpoints
          token id sbom).1
  ⟨token, upload, register⟩

section Alone

variable {endpoints : Endpoints} {tree : FileTree} {config : PublishConfig} {isOnline : Bool}
  {answers : List Answer} {requests : List Request} {replies : Replies}

theorem Call.perform_used (call : Call) :
    call.perform (.overHttp endpoints) (.used isOnline answers requests) =
      .used isOnline answers
        (requests ++ (call.alone endpoints isOnline (answers.drop requests.length)).requests) := by
  cases call with
  | fetchToken credentials =>
    simp only [Call.alone, Call.perform, Service.overHttp, Session.fetchToken_used]
  | uploadManifest token manifest =>
    simp only [Call.alone, Call.perform, Service.overHttp, Session.uploadManifest_used]
  | registerSbom token id sbom =>
    simp only [Call.alone, Call.perform, Service.overHttp, Session.registerSbom_used]

/-- **A run over HTTP is made of exchanges on their own.** -/
theorem performAll_used (calls : List Call) (requests : List Request) :
    performAll (.overHttp endpoints) calls (.used isOnline answers requests) =
      .used isOnline answers
        (requests ++ requestsAlone endpoints isOnline (answers.drop requests.length) calls) := by
  -- For any requests sent before: each call takes as many answers as it sends requests.
  induction calls generalizing requests with
  | nil => rw [performAll_nil, requestsAlone, List.append_nil]
  | cons call calls ih =>
    rw [performAll_cons, Call.perform_used, ih, requestsAlone, List.length_append,
      List.append_assoc, List.drop_drop]

theorem performAll_ofAnswers (calls : List Call) :
    performAll (.overHttp endpoints) calls (.ofAnswers isOnline answers) =
      .used isOnline answers (requestsAlone endpoints isOnline answers calls) :=
  performAll_used calls []

namespace Replies.Alone

variable {manifest sbom : LocalFile} {token : AccessToken} {id : String} {s₁ s₂ : Session}
  (h : replies.Alone endpoints tree config isOnline answers)
include h

theorem token_eq (got : GotToken (.overHttp endpoints) tree config (.ofAnswers isOnline answers)
    manifest token s₁) : replies.token = .ok token :=
  h.token.trans (congrArg Prod.fst got.fetched)

theorem upload_eq (got : GotToken (.overHttp endpoints) tree config (.ofAnswers isOnline answers)
    manifest token s₁) :
    replies.upload = (s₁.uploadManifest endpoints token manifest).1 := by
  have hs₁ := got.perform
  rw [performAll_ofAnswers] at hs₁
  rw [h.upload (h.token_eq got) got.read, ← hs₁, Session.uploadManifest_used, answersAfter]

theorem register_eq (got : GotIdentifier (.overHttp endpoints) tree config
    (.ofAnswers isOnline answers) manifest token id s₂)
    (hread : tree.read config.sbomFile = .ok sbom) :
    replies.register = (s₂.registerSbom endpoints token id sbom).1 := by
  -- The state in which the run is after two calls has the answers that they left.
  have hs₂ := got.perform
  rw [performAll_ofAnswers] at hs₂
  obtain ⟨got, uploaded⟩ := got
  have hupload := (h.upload_eq got).trans (congrArg Prod.fst uploaded)
  rw [h.register (h.token_eq got) got.read hupload hread, ← hs₂, Session.registerSbom_used,
    answersAfter]

/-- The replies of exchanges on their own are those that the run gets. -/
theorem toMatch : replies.Match (.overHttp endpoints) tree config (.ofAnswers isOnline answers) :=
  ⟨h.token, h.upload_eq, h.register_eq⟩

end Replies.Alone

/-- There are such replies, however early a run ends. -/
theorem Replies.alone_ofExchanges (endpoints : Endpoints) (tree : FileTree)
    (config : PublishConfig) (isOnline : Bool) (answers : List Answer) :
    (Replies.ofExchanges endpoints tree config isOnline answers).Alone endpoints tree config
      isOnline answers := by
  refine ⟨rfl, ?_, ?_⟩
  · intro token manifest htoken hread
    unfold ofExchanges at htoken ⊢
    simp only at htoken
    simp only [htoken, hread, bind, Except.bind]
  · intro token manifest sbom status id htoken hread hupload hsbom
    unfold ofExchanges at htoken hupload ⊢
    simp only at htoken hupload
    simp only [hupload]
    simp only [htoken, hread, hsbom, bind, Except.bind]

end Alone

/-! ## Runs over HTTP -/

/-- The addresses of the requests of a run, in order. -/
def Endpoints.itinerary (endpoints : Endpoints) (id : String) : List (Method × Option Url) :=
  [(.post, sentUrl? endpoints.oauth2Token), (.put, sentUrl? endpoints.manifests),
    (.post, sentUrl? (endpoints.sboms id))]

/-- What a report would say of the part of a form. -/
def Part.report (p : Part) : FileReport :=
  ⟨p.fileName, p.contents.length, Sha256.hexDigest p.contents⟩

/-- What was sent is what a report says: the manifest with the second request and the SBOM, unless
it was skipped, with the third, which goes to the fact sheet of the report. -/
structure SentAsReported (endpoints : Endpoints) (tree : FileTree) (config : PublishConfig)
    (report : Report) (requests : List Request) : Prop where
  manifest : ∃ file first second rest, tree.read config.manifestFile = .ok file ∧
    requests = first :: second :: rest ∧ second.body = .multipart (manifestPart file) ∧
    (manifestPart file).report = report.manifest
  skipped : ∀ path, report.sbom = .skipped path → requests.length = 2
  registered : ∀ registered, report.sbom = .registered registered →
    ∃ file first second third, tree.read config.sbomFile = .ok file ∧
      requests = [first, second, third] ∧
      sentUrl? (endpoints.sboms report.factSheetId) = some third.url ∧
      third.body = .multipart (sbomPart file) ∧ (sbomPart file).report = registered

/-- What is said of a run over HTTP with given answers to come. -/
structure RunsOverHttp (endpoints : Endpoints) (tree : FileTree) (config : PublishConfig)
    (isOnline : Bool) (answers : List Answer) (result : Except PublishError Report)
    (trace : Trace Session) : Prop where
  course : Course (.overHttp endpoints) tree config (.ofAnswers isOnline answers) result trace
  exists_alone : ∃ replies : Replies, replies.Alone endpoints tree config isOnline answers
  /-- With the replies of exchanges on their own, a run comes to the same, asks the same and tells
  the same. -/
  scripted : ∀ replies : Replies, replies.Alone endpoints tree config isOnline answers →
    (publish (.scripted replies) tree config).trace () = (result, ⟨(), trace.calls, trace.stages⟩)
  /-- Its requests are those of the exchanges on their own, for the calls that are made. -/
  requests : trace.services.requests = requestsAlone endpoints isOnline answers trace.calls
  /-- Every call sends its request, except that one may not which ends the run. -/
  sent : Sends endpoints trace.calls trace.services.requests ∨
    Sends endpoints trace.calls.dropLast trace.services.requests ∧
      ∃ e, result = .error e ∧ (e.exitCode = 2 ∧
        Blank.isBlankText config.credentials.apiToken = true ∨ e.exitCode = 8)
  /-- They go where the calls go, -/
  targets : trace.services.requests.map Request.target <+: trace.calls.map (Call.target endpoints)
  /-- and these to the token address, the manifest address and the SBOM address in order. -/
  itinerary : ∃ id, trace.calls.map (Call.target endpoints) <+: endpoints.itinerary id
  /-- All but the first show the access token in the answer to the first. -/
  bearer : ∀ r ∈ trace.services.requests.tail, ∃ token, TokenInFirstAnswer answers token ∧
    r.authorization.getLast? = some ("Bearer " ++ token.value)
  reported : ∀ report, result = .ok report →
    SentAsReported endpoints tree config report trace.services.requests

section Run

variable {endpoints : Endpoints} {tree : FileTree} {config : PublishConfig} {isOnline : Bool}
  {answers : List Answer} {result : Except PublishError Report} {trace : Trace Session}

theorem Course.itinerary (h : Course (.overHttp endpoints) tree config
    (.ofAnswers isOnline answers) result trace) :
    ∃ id, trace.calls.map (Call.target endpoints) <+: endpoints.itinerary id := by
  cases h with
  | manifestUnread => exact ⟨"", List.nil_prefix⟩
  | tokenRefused => exact ⟨"", by simp [Call.target, Endpoints.itinerary]⟩
  | uploadRefused => exact ⟨"", by simp [Call.target, Endpoints.itinerary]⟩
  | identifierMissing => exact ⟨"", by simp [Call.target, Endpoints.itinerary]⟩
  | sbomAbsent => exact ⟨"", by simp [Call.target, Endpoints.itinerary]⟩
  | sbomUnread => exact ⟨"", by simp [Call.target, Endpoints.itinerary]⟩
  | sbomRefused => exact ⟨_, List.prefix_rfl⟩
  | sbomRegistered => exact ⟨_, List.prefix_rfl⟩

theorem Course.bearer (h : Course (.overHttp endpoints) tree config (.ofAnswers isOnline answers)
    result trace) {r : Request} (hr : r ∈ trace.services.requests.tail) :
    ∃ token, TokenInFirstAnswer answers token ∧
      r.authorization.getLast? = some ("Bearer " ++ token.value) := by
  -- A request after the first is that of a call after the first, which shows the token.
  obtain ⟨calls, hpre, hsends⟩ := h.exists_sends
  obtain ⟨call, hcall, hsent⟩ := hsends.tail.exists_call hr
  have htail : call ∈ trace.calls.tail := by
    rw [← List.drop_one] at hcall ⊢
    exact (hpre.drop 1).subset hcall
  rcases h.exists_token with hnil | ⟨token, told, hshown⟩
  · rw [hnil] at htail
    cases htail
  · exact ⟨token, told, hsent.bearer (hshown call htail)⟩

theorem Course.sentAsReported {report : Report} (h : Course (.overHttp endpoints) tree config
    (.ofAnswers isOnline answers) (.ok report) trace) :
    SentAsReported endpoints tree config report trace.services.requests := by
  cases h with
  | sbomAbsent got =>
    obtain ⟨first, second, hrequests, _, hmanifest⟩ := got.sends.eq_two
    refine ⟨⟨_, first, second, [], got.read, hrequests, hmanifest.manifest_body, rfl⟩, ?_, ?_⟩
    · intro path _
      exact got.sends.length_eq
    · rintro file ⟨⟩
  | sbomRegistered got _ hread registered =>
    obtain ⟨first, second, third, hrequests, _, hmanifest, hsbom⟩ :=
      (got.sends_register registered).eq_three
    refine ⟨⟨_, first, second, [third], got.read, hrequests, hmanifest.manifest_body, rfl⟩,
      ?_, ?_⟩
    · rintro path ⟨⟩
    · rintro file ⟨⟩
      exact ⟨_, first, second, third, hread, hrequests, hsbom.sbom_url, hsbom.sbom_body, rfl⟩

/-- **A run over HTTP refines a run with known replies**: those of the three exchanges, each made on
its own with the answers that those before it left.  Requests to `https` URLs never go out, and
redirects, proxies and stalls inside a body are not modelled (see `Session`). -/
theorem publish_runsOverHttp (endpoints : Endpoints) (tree : FileTree) (config : PublishConfig)
    (isOnline : Bool) (answers : List Answer) :
    RunsOverHttp endpoints tree config isOnline answers
      ((publish (.overHttp endpoints) tree config).trace (.ofAnswers isOnline answers)).1
      ((publish (.overHttp endpoints) tree config).trace (.ofAnswers isOnline answers)).2 := by
  have h := course_publish (.overHttp endpoints) tree config (.ofAnswers isOnline answers)
  refine ⟨h, ⟨_, Replies.alone_ofExchanges endpoints tree config isOnline answers⟩, ?_, ?_,
    h.sends, ?_, h.itinerary, fun _ => h.bearer, ?_⟩
  · intro replies halone
    exact (h.scripted halone.toMatch).trace_eq
  · rw [h.services_eq, performAll_ofAnswers, Session.used_requests]
  · obtain ⟨calls, hpre, hsends⟩ := h.exists_sends
    rw [hsends.map_target]
    exact hpre.map _
  · intro report hreport
    rw [hreport] at h
    exact h.sentAsReported

end Run

end ManifestPublish
