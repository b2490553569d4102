import Mathlib.Data.List.Forall2
import ManifestPublish.Proofs.Http.Exchange
import ManifestPublish.Proofs.Text.Utf8

/-!
# Exchanges in the name of two senders

A name and a password are sent as digits of base sixty-four, so whatever they are they can stand in
a header (`isHeaderValue_basic`); a token is sent as it is.

* `Request.Alike` : two requests that differ at most in what their senders say of themselves
* `Session.Beside` : two sessions that differ at most in the requests that went out
* `Session.outgoing` : the requests that go out when one is prepared

Nothing of an authorization that can stand in a header reaches the outcome of an exchange.
Principal results: `Request.prepare_alike`, `Session.requests_exchange` and
`Session.Beside.exchange`.
-/

set_option autoImplicit false

namespace ManifestPublish

/-! ## What can be said in a header -/

theorem isHeaderValue_append (s t : String) :
    isHeaderValue (s ++ t) = (isHeaderValue s && isHeaderValue t) := by
  rw [isHeaderValue, String.toList_append, List.all_append, isHeaderValue, isHeaderValue]

theorem isHeaderValue_bearer (token : String) :
    isHeaderValue (bearerAuthorization token) = isHeaderValue token := by
  have hscheme : isHeaderValue "Bearer " = true := by decide
  rw [bearerAuthorization, isHeaderValue_append, hscheme, Bool.true_and]

theorem Base64.digit_isPrint (n : Nat) :
    0x20 ≤ (Base64.digit n).toNat ∧ (Base64.digit n).toNat ≠ 0x7F := by
  have hsmall : ∀ m, m < 123 → (Char.ofNat m).toNat = m := by
    intro m hm
    exact Utf8.toNat_ofNat_of_valid (.inl (by omega))
  unfold Base64.digit
  split
  · rw [hsmall _ (by omega)]
    omega
  split
  · rw [hsmall _ (by omega)]
    omega
  split
  · rw [hsmall _ (by omega)]
    omega
  split
  · decide
  · decide

theorem Base64.encodeChars_isPrint (bytes : Bytes) :
    ∀ c ∈ Base64.encodeChars bytes, 0x20 ≤ c.toNat ∧ c.toNat ≠ 0x7F := by
  -- In groups of three bytes, the last of which may be shorter.
  have hfill : 0x20 ≤ '='.toNat ∧ '='.toNat ≠ 0x7F := by decide
  induction bytes using Base64.encodeChars.induct with
  | case1 =>
    intro c hc
    cases hc
  | case2 a =>
    intro c hc
    simp only [Base64.encodeChars, List.mem_cons, List.not_mem_nil, or_false] at hc
    rcases hc with rfl | rfl | rfl | rfl
    all_goals first | exact Base64.digit_isPrint _ | exact hfill
  | case3 a b =>
    intro c hc
    simp only [Base64.encodeChars, List.mem_cons, List.not_mem_nil, or_false] at hc
    rcases hc with rfl | rfl | rfl | rfl
    all_goals first | exact Base64.digit_isPrint _ | exact hfill
  | case4 a b d rest ih =>
    intro c hc
    simp only [Base64.encodeChars, List.mem_cons] at hc
    rcases hc with rfl | rfl | rfl | rfl | hc
    all_goals first | exact Base64.digit_isPrint _ | exact ih c hc

/-- **A name and a password can always be said.** -/
theorem isHeaderValue_basic (name password : String) :
    isHeaderValue (basicAuthorization name password) = true := by
  have hscheme : isHeaderValue "Basic " = true := by decide
  rw [basicAuthorization, isHeaderValue_append, hscheme, Bool.true_and, isHeaderValue,
    Base64.encode, String.toList_ofList, List.all_eq_true]
  intro c hc
  obtain ⟨hlow, hdelete⟩ := Base64.encodeChars_isPrint _ c hc
  simp [hlow, hdelete]

/-! ## Requests -/

/-- Two requests that differ at most in what their senders say of themselves. -/
structure Request.Alike (authorization authorization' : String) (r r' : Request) : Prop where
  method : r.method = r'.method
  url : r.url = r'.url
  body : r.body = r'.body
  /-- What the address says of the sender stands before that. -/
  authorization : ∃ before, r.authorization = before ++ [authorization] ∧
    r'.authorization = before ++ [authorization']

section Request

variable {a a' : String} {r r' : Request}

theorem Request.Alike.sent (h : r.Alike a a' r') : r.sent.Alike a a' r'.sent := by
  refine ⟨h.method, ?_, h.body, h.authorization⟩
  rw [Request.sent, Request.sent, h.url]

/-- **What a sender says matters to a request only if it cannot be said.** -/
theorem Request.prepare_alike {method : Method} {address : String} {body : RequestBody}
    (ha : isHeaderValue a = true) (ha' : isHeaderValue a' = true) :
    (∃ fault, Request.prepare method address a body = .error fault ∧
      Request.prepare method address a' body = .error fault) ∨
    ∃ r r', Request.prepare method address a body = .ok r ∧
      Request.prepare method address a' body = .ok r' ∧ r.Alike a a' r' := by
  cases hparse : Url.parse address with
  | error fault =>
    left
    refine ⟨.malformedUrl fault, ?_, ?_⟩ <;> rw [Request.prepare, hparse]
  | ok url =>
    cases hhost : url.hasHost with
    | false =>
      left
      refine ⟨.unsupportedScheme url.render, ?_, ?_⟩ <;> simp [Request.prepare, hparse, hhost]
    | true =>
      right
      cases huser : url.userInfo? with
      | none =>
        refine ⟨⟨method, url, [a], body⟩, ⟨method, url, [a'], body⟩, ?_, ?_, rfl, rfl, rfl, [], rfl,
          rfl⟩
        · simp [Request.prepare, hparse, hhost, ha, huser]
        · simp [Request.prepare, hparse, hhost, ha', huser]
      | some user =>
        obtain ⟨name, password⟩ := user
        refine ⟨⟨method, url.withoutUserInfo, [basicAuthorization name (password.getD ""), a],
            body⟩,
          ⟨method, url.withoutUserInfo, [basicAuthorization name (password.getD ""), a'], body⟩,
          ?_, ?_, rfl, rfl, rfl, [basicAuthorization name (password.getD "")], rfl, rfl⟩
        · simp [Request.prepare, hparse, hhost, ha, huser]
        · simp [Request.prepare, hparse, hhost, ha', huser]

end Request

/-! ## Sessions -/

/-- What an answer to a request comes to. -/
def Answer.outcome {α : Type} (answer : Answer) (name : ExchangeName) (url : Url)
    (accept : Status → String → Except PublishError α) : Except PublishError α :=
  match answer.receive with
  | .error fault => .error (.transport name.sending (.notSent url.render fault))
  | .ok incoming => (incoming.read name).bind fun (status, text) => accept status text

theorem Answer.Tells.outcome {α : Type} {answer : Answer} {status : Status} {text : String}
    (h : answer.Tells status text) {name : ExchangeName} {url : Url}
    {accept : Status → String → Except PublishError α} :
    answer.outcome name url accept = accept status text := by
  rw [Answer.outcome, h]
  rfl

namespace Session

/-- Two sessions that differ at most in the requests that went out, of which `sent` holds. -/
structure Beside (sent : List Request → List Request → Prop) (s t : Session) : Prop where
  isOnline : s.isOnline = t.isOnline
  answers : s.answers = t.answers
  requests : sent s.requests t.requests

section Exchange

variable {α : Type} {sent : List Request → List Request → Prop} {s t : Session}
  {name : ExchangeName} {r r' : Request} {a a' : String}
  {accept : Status → String → Except PublishError α}

/-- Hosts are reached without encryption, online, and by a request that can be addressed to them. -/
theorem obstacle?_eq_none_iff {url : Url} :
    s.obstacle? url = none ↔
      url.scheme = "http" ∧ url.isAddressable = true ∧ s.isOnline = true := by
  rw [obstacle?]
  constructor
  · intro h
    split_ifs at h with hscheme haddress hreach
    simp only [Bool.or_eq_true, not_or, decide_eq_true_eq, Bool.not_eq_true', Bool.not_eq_false]
      at haddress hreach
    refine ⟨?_, haddress, hreach.2⟩
    by_contra hhttp
    exact hscheme (by simp [hhttp, hreach.1])
  · rintro ⟨hhttp, haddress, honline⟩
    rw [hhttp, haddress, honline]
    rfl

theorem obstacle?_congr (h : s.isOnline = t.isOnline) (url : Url) :
    s.obstacle? url = t.obstacle? url := by
  rw [obstacle?, obstacle?, h]

theorem Beside.obstacle? (h : Beside sent s t) (url : Url) : s.obstacle? url = t.obstacle? url :=
  obstacle?_congr h.isOnline url

theorem exchange_unprepared (s : Session) (fault : TransportFault) :
    s.exchange name (.error fault) accept = (.error (.transport name.sending fault), s) := rfl

theorem exchange_obstructed {fault : TransportFault} (h : s.obstacle? r.url = some fault) :
    s.exchange name (.ok r) accept = (.error (.transport name.sending fault), s) := by
  have hconverse : s.converse name (.ok r) = (.error (.transport name.sending fault), s) := by
    rw [converse, send, h]
  rw [exchange_of_converse hconverse]
  rfl

/-- A request that goes out takes the next answer, whoever sends it. -/
theorem exchange_unobstructed (h : s.obstacle? r.url = none) :
    s.exchange name (.ok r) accept =
      ((s.answers.head?.getD .dropped).outcome name r.url accept, s.record r) := by
  rw [Answer.outcome]
  cases hreceive : (s.answers.head?.getD .dropped).receive with
  | error fault =>
    have hconverse : s.converse name (.ok r) =
        (.error (.transport name.sending (.notSent r.url.render fault)), s.record r) := by
      simp [converse, send, h, hreceive, Except.mapError]
    rw [exchange_of_converse hconverse]
    rfl
  | ok incoming =>
    have hconverse : s.converse name (.ok r) = (incoming.read name, s.record r) := by
      simp [converse, send, h, hreceive, Except.mapError]
    rw [exchange_of_converse hconverse]

/-- The requests that go out when one is prepared: that one, or none. -/
def outgoing (s : Session) : Except TransportFault Request → List Request
  | .error _ => []
  | .ok r => if s.obstacle? r.url = none then [r.sent] else []

/-- **An exchange sends what it prepared, if that can go out, and nothing else.** -/
theorem requests_exchange (s : Session) (prepared : Except TransportFault Request) :
    (s.exchange name prepared accept).2.requests = s.requests ++ s.outgoing prepared := by
  cases prepared with
  | error fault => rw [exchange_unprepared, outgoing, List.append_nil]
  | ok r =>
    cases hobstacle : s.obstacle? r.url with
    | some fault =>
      rw [exchange_obstructed hobstacle, outgoing, if_neg (by simp [hobstacle]), List.append_nil]
    | none => rw [exchange_unobstructed hobstacle, outgoing, if_pos hobstacle, record_requests]

theorem mem_outgoing {prepared : Except TransportFault Request} {sent : Request}
    (h : sent ∈ s.outgoing prepared) :
    ∃ r, prepared = .ok r ∧ s.obstacle? r.url = none ∧ sent = r.sent := by
  cases prepared with
  | error fault => cases h
  | ok r =>
    rw [outgoing] at h
    split at h
    · rename_i hway
      exact ⟨r, rfl, hway, List.mem_singleton.1 h⟩
    · cases h

/-- **An exchange in the name of two senders comes to the same**, with both requests sent or
neither. -/
theorem Beside.exchange (h : Beside sent s t) {prepared prepared' : Except TransportFault Request}
    (hprepared : (∃ fault, prepared = .error fault ∧ prepared' = .error fault) ∨
      ∃ r r', prepared = .ok r ∧ prepared' = .ok r' ∧ r.url = r'.url ∧
        sent (s.requests ++ [r.sent]) (t.requests ++ [r'.sent])) :
    ∃ reply s' t', s.exchange name prepared accept = (reply, s') ∧
      t.exchange name prepared' accept = (reply, t') ∧ Beside sent s' t' := by
  obtain ⟨fault, rfl, rfl⟩ | ⟨r, r', rfl, rfl, hurl, hsent⟩ := hprepared
  · exact ⟨_, s, t, exchange_unprepared s fault, exchange_unprepared t fault, h⟩
  · have hobstacles : t.obstacle? r'.url = s.obstacle? r.url := by rw [← h.obstacle?, hurl]
    cases hobstacle : s.obstacle? r.url with
    | some fault =>
      exact ⟨_, s, t, exchange_obstructed hobstacle,
        exchange_obstructed (hobstacles.trans hobstacle), h⟩
    | none =>
      refine ⟨_, s.record r, t.record r', exchange_unobstructed hobstacle, ?_, h.isOnline, ?_,
        hsent⟩
      · rw [exchange_unobstructed (hobstacles.trans hobstacle), h.answers, hurl]
      · rw [record, record, h.answers]

end Exchange

end Session

end ManifestPublish
