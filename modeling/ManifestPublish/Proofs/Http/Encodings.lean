import ManifestPublish.Proofs.Http.Reception
import ManifestPublish.Proofs.Text.Charset

/-!
# Answers in one encoding or another

* `Reply.Writes` : an answer with this status that is this text, in one of its encodings
* `Session.NextWrites` : the next answer of a session is one
* `SameEnd` : two exchanges come to the same

Only the text of an answer is looked into, so its encoding has no part in what an exchange comes to.
Principal results: `Session.NextWrites.exchange` and `exchanges_encodings`.
-/

set_option autoImplicit false

namespace ManifestPublish

variable {status : Status} {text : String}

/-- An answer with this status that is this text, in one of its encodings. -/
structure Reply.Writes (r : Reply) (status : Status) (text : String) : Prop where
  status : r.status = status
  body : Charset.Writes text (r.contentType.bind MediaType.charset?) r.body

/-- The next answer of a session is one. -/
def Session.NextWrites (s : Session) (status : Status) (text : String) : Prop :=
  ∃ reply : Reply, s.answers.head? = some (.reply reply) ∧ reply.Writes status text

/-- Two exchanges come to the same, with the same requests sent. -/
structure SameEnd {α : Type} (a b : Except PublishError α × Session) : Prop where
  result : a.1 = b.1
  requests : a.2.requests = b.2.requests

namespace Session

variable {α : Type} {s t : Session} {name : ExchangeName}
  {prepared : Except TransportFault Request} {accept : Status → String → Except PublishError α}
  {r : Request}

theorem NextWrites.exists_tells (h : s.NextWrites status text) (hbody : status.isBodiless = false) :
    ∃ answer, s.answers.head? = some answer ∧ answer.Tells status text := by
  obtain ⟨reply, hnext, hwrites⟩ := h
  have htext : reply.text = text := by
    rw [Reply.text, hwrites.status, hbody]
    exact hwrites.body.decode
  refine ⟨_, hnext, ?_⟩
  rw [Answer.Tells, Answer.receive, hwrites.status, htext]

/-- A request that goes out comes to what is made of status and text. -/
theorem NextWrites.exchange_eq (h : s.NextWrites status text) (hbody : status.isBodiless = false)
    (way : s.obstacle? r.url = none) :
    (s.exchange name (.ok r) accept).1 = accept status text := by
  obtain ⟨answer, hnext, htells⟩ := h.exists_tells hbody
  rw [exchange_next way hnext, htells.outcome]

/-- **The encoding of the next answer has no part in an exchange.** -/
theorem NextWrites.sameEnd (hs : s.NextWrites status text) (ht : t.NextWrites status text)
    (hbody : status.isBodiless = false) (honline : s.isOnline = t.isOnline)
    (hrequests : s.requests = t.requests) :
    SameEnd (s.exchange name prepared accept) (t.exchange name prepared accept) := by
  have hobstacle := obstacle?_congr honline
  cases prepared with
  | error fault => exact ⟨rfl, hrequests⟩
  | ok r =>
    constructor
    · cases way : t.obstacle? r.url with
      | some fault =>
        rw [exchange_obstructed ((hobstacle _).trans way), exchange_obstructed way]
      | none =>
        rw [hs.exchange_eq hbody ((hobstacle _).trans way), ht.exchange_eq hbody way]
    · rw [requests_exchange, requests_exchange, hrequests, outgoing, outgoing, hobstacle]

end Session

/-- **Answers are read independently of their encoding.**  Whatever the next answer of a session is
written in, each of the three exchanges comes to the same, and if its request goes out that is what
is made of the text: a refusal holds the whole of it. -/
theorem exchanges_encodings {s t : Session} (hs : s.NextWrites status text)
    (ht : t.NextWrites status text) (hbody : status.isBodiless = false)
    (honline : s.isOnline = t.isOnline) (hrequests : s.requests = t.requests) (e : Endpoints) :
    (∀ credentials, SameEnd (s.fetchToken e credentials) (t.fetchToken e credentials)) ∧
    (∀ token manifest,
      SameEnd (s.uploadManifest e token manifest) (t.uploadManifest e token manifest)) ∧
    (∀ token id sbom,
      SameEnd (s.registerSbom e token id sbom) (t.registerSbom e token id sbom)) ∧
    (∀ credentials r, Blank.isBlankText credentials.apiToken = false →
      tokenRequest e credentials = .ok r → s.obstacle? r.url = none →
      (s.fetchToken e credentials).1 =
        if 200 ≤ status ∧ status ≤ 299 then (decodeToken text).mapError .malformedResponse
        else .error (.authentication status text)) ∧
    (∀ token manifest r, manifestRequest e token manifest = .ok r → s.obstacle? r.url = none →
      (s.uploadManifest e token manifest).1 =
        if 200 ≤ status ∧ status ≤ 299 then
          ((decodeFactSheetId text).map (UploadResult.mk status)).mapError .malformedResponse
        else .error (.upload .manifest status text)) ∧
    ∀ token id sbom r, sbomRequest e token id sbom = .ok r → s.obstacle? r.url = none →
      (s.registerSbom e token id sbom).1 =
        if 200 ≤ status ∧ status ≤ 299 then .ok () else .error (.upload .sbom status text) := by
  refine ⟨fun credentials => ?_, fun _ _ => hs.sameEnd ht hbody honline hrequests,
    fun _ _ _ => hs.sameEnd ht hbody honline hrequests, ?_, ?_, ?_⟩
  · unfold Session.fetchToken
    split
    · exact ⟨rfl, hrequests⟩
    · exact hs.sameEnd ht hbody honline hrequests
  · intro credentials r hfilled hrequest way
    rw [Session.fetchToken, hfilled, hrequest, if_neg Bool.false_ne_true, hs.exchange_eq hbody way,
      acceptToken_eq]
    rfl
  · intro token manifest r hrequest way
    rw [Session.uploadManifest, hrequest, hs.exchange_eq hbody way, acceptUpload_eq]
    rfl
  · intro token id sbom r hrequest way
    rw [Session.registerSbom, hrequest, hs.exchange_eq hbody way, acceptSbom_eq]
    rfl

/-- A token beyond the first plane is read from UTF-16 under another name as from UTF-8. -/
theorem exchanges_encodings_pair :
    let e := Endpoints.ofBaseUrl "http://host"
    let credentials : Credentials := ⟨"secret", "leanix"⟩
    let grant := "\x7b\"access_token\":\"😀\"\x7d"
    let plain := Session.ofAnswers true [.reply ⟨200, none, Utf8.encode grant⟩]
    let marked := Session.ofAnswers true [.reply ⟨200, some "text/plain; charset=iso-8859-1",
      [0xFF, 0xFE] ++ Utf16.encode .littleEndian grant⟩]
    (plain.fetchToken e credentials).1 = .ok ⟨"😀"⟩ ∧
      (marked.fetchToken e credentials).1 = .ok ⟨"😀"⟩ := by
  intro e credentials grant plain marked
  have hplain : plain.NextWrites 200 grant := ⟨_, rfl, rfl, .plain (by decide)⟩
  have hmarked : marked.NextWrites 200 grant := ⟨_, rfl, rfl, .littleEndian _⟩
  obtain ⟨htoken, -, -, hgrant, -⟩ := exchanges_encodings hplain hmarked (by decide) rfl rfl e
  let url : Url := ⟨"http", "", none, some (.domain "host"), none,
    .segments ["mtm", "v1", "oauth2", "token"], none, none⟩
  have hrequest : tokenRequest e credentials = .ok ⟨.post, url,
      [basicAuthorization tokenUsername "secret"], .form tokenForm⟩ :=
    Request.prepare_plain (by cbv) (by decide) (isHeaderValue_basic _ _) (by cbv)
  have way : plain.obstacle? url = none := Session.obstacle?_eq_none_iff.2 ⟨rfl, by cbv, rfl⟩
  have hdecode : decodeToken grant = .ok ⟨"😀"⟩ := by cbv
  have hok : (plain.fetchToken e credentials).1 = .ok ⟨"😀"⟩ := by
    rw [hgrant credentials _ (by decide) hrequest way, hdecode]
    rfl
  exact ⟨hok, (htoken credentials).result.symm.trans hok⟩

end ManifestPublish
