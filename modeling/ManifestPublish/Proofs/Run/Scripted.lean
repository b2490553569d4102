import ManifestPublish.Proofs.Run.Course

/-!
# Runs whose replies are known beforehand

Nothing of its services reaches a run but their replies.  With services that only give those same
replies, whatever they are asked, it goes the same way.

* `Call.perform` : the state in which a call leaves services
* `Replies.Match` : the replies that services give on a run

Principal results, for any services in any state: `Course.services_eq` (a run does nothing to its
services but call them) and `Course.scripted` (matching replies lead to the same course).
-/

set_option autoImplicit false

namespace ManifestPublish

variable {σ : Type}

/-- The state in which a call leaves services. -/
def Call.perform (service : Service σ) (call : Call) (s : σ) : σ :=
  match call with
  | .fetchToken credentials => (service.fetchToken credentials s).2
  | .uploadManifest token manifest => (service.uploadManifest token manifest s).2
  | .registerSbom token id sbom => (service.registerSbom token id sbom s).2

/-- Calls one after the other. -/
def performAll (service : Service σ) (calls : List Call) (s : σ) : σ :=
  calls.foldl (fun s call => call.perform service s) s

@[simp] theorem performAll_nil (service : Service σ) (s : σ) : performAll service [] s = s := rfl

@[simp] theorem performAll_cons (service : Service σ) (call : Call) (calls : List Call) (s : σ) :
    performAll service (call :: calls) s = performAll service calls (call.perform service s) := rfl

/-- These are the replies that services give on a run, as far as it comes. -/
structure Replies.Match (service : Service σ) (tree : FileTree) (config : PublishConfig) (s : σ)
    (replies : Replies) : Prop where
  token : replies.token = (service.fetchToken config.credentials s).1
  upload : ∀ {manifest : LocalFile} {token : AccessToken} {s₁ : σ},
    GotToken service tree config s manifest token s₁ →
    replies.upload = (service.uploadManifest token manifest s₁).1
  register : ∀ {manifest sbom : LocalFile} {token : AccessToken} {id : String} {s₂ : σ},
    GotIdentifier service tree config s manifest token id s₂ →
    tree.read config.sbomFile = .ok sbom →
    replies.register = (service.registerSbom token id sbom s₂).1

variable {service : Service σ} {tree : FileTree} {config : PublishConfig} {s : σ}
  {result : Except PublishError Report} {trace : Trace σ} {replies : Replies}
  {manifest sbom : LocalFile} {token : AccessToken} {id : String} {s₁ s₂ s₃ : σ}

/-! ## What services are left as -/

theorem GotToken.perform (got : GotToken service tree config s manifest token s₁) :
    performAll service [.fetchToken config.credentials] s = s₁ := by
  rw [performAll_cons, Call.perform, got.fetched, performAll_nil]

theorem GotToken.perform_upload (got : GotToken service tree config s manifest token s₁)
    {upload : Except PublishError UploadResult}
    (h : service.uploadManifest token manifest s₁ = (upload, s₂)) :
    performAll service [.fetchToken config.credentials, .uploadManifest token manifest] s = s₂ := by
  rw [performAll_cons, Call.perform, got.fetched, performAll_cons, Call.perform, h,
    performAll_nil]

theorem GotIdentifier.perform (got : GotIdentifier service tree config s manifest token id s₂) :
    performAll service [.fetchToken config.credentials, .uploadManifest token manifest] s = s₂ := by
  obtain ⟨got, uploaded⟩ := got
  exact got.perform_upload uploaded

theorem GotIdentifier.perform_register
    (got : GotIdentifier service tree config s manifest token id s₂)
    {register : Except PublishError Unit}
    (h : service.registerSbom token id sbom s₂ = (register, s₃)) :
    performAll service [.fetchToken config.credentials, .uploadManifest token manifest,
      .registerSbom token id sbom] s = s₃ := by
  obtain ⟨got, uploaded⟩ := got
  rw [performAll_cons, Call.perform, got.fetched, performAll_cons, Call.perform, uploaded,
    performAll_cons, Call.perform, h, performAll_nil]

/-- **A run does nothing to its services but call them.** -/
theorem Course.services_eq (h : Course service tree config s result trace) :
    trace.services = performAll service trace.calls s := by
  cases h with
  | manifestUnread => rfl
  | tokenRefused _ refused => rw [performAll_cons, Call.perform, refused, performAll_nil]
  | uploadRefused got refused => exact (got.perform_upload refused).symm
  | identifierMissing got nameless => exact (got.perform_upload nameless).symm
  | sbomAbsent got => exact got.perform.symm
  | sbomUnread got => exact got.perform.symm
  | sbomRefused got _ _ refused => exact (got.perform_register refused).symm
  | sbomRegistered got _ _ registered => exact (got.perform_register registered).symm

/-! ## The same course with replies that match -/

section Match

variable (hmatch : replies.Match service tree config s)
include hmatch

theorem Replies.Match.fetchToken {reply : Except PublishError AccessToken}
    (h : service.fetchToken config.credentials s = (reply, s₁)) :
    (Service.scripted replies).fetchToken config.credentials () = (reply, ()) := by
  show (replies.token, ()) = (reply, ())
  rw [hmatch.token, h]

theorem GotToken.scripted (got : GotToken service tree config s manifest token s₁) :
    GotToken (.scripted replies) tree config () manifest token () :=
  ⟨got.read, hmatch.fetchToken got.fetched⟩

theorem Replies.Match.uploadManifest (got : GotToken service tree config s manifest token s₁)
    {reply : Except PublishError UploadResult}
    (h : service.uploadManifest token manifest s₁ = (reply, s₂)) :
    (Service.scripted replies).uploadManifest token manifest () = (reply, ()) := by
  show (replies.upload, ()) = (reply, ())
  rw [hmatch.upload got, h]

theorem GotIdentifier.scripted (got : GotIdentifier service tree config s manifest token id s₂) :
    GotIdentifier (.scripted replies) tree config () manifest token id () := by
  obtain ⟨got, uploaded⟩ := got
  exact .intro (got.scripted hmatch) (hmatch.uploadManifest got uploaded)

theorem Replies.Match.registerSbom
    (got : GotIdentifier service tree config s manifest token id s₂)
    (hread : tree.read config.sbomFile = .ok sbom) {reply : Except PublishError Unit}
    (h : service.registerSbom token id sbom s₂ = (reply, s₃)) :
    (Service.scripted replies).registerSbom token id sbom () = (reply, ()) := by
  show (replies.register, ()) = (reply, ())
  rw [hmatch.register got hread, h]

/-- **With replies that match, a run takes the same course.** -/
theorem Course.scripted (h : Course service tree config s result trace) :
    Course (.scripted replies) tree config () result ⟨(), trace.calls, trace.stages⟩ := by
  cases h with
  | manifestUnread unread => exact .manifestUnread unread
  | tokenRefused read refused => exact .tokenRefused read (hmatch.fetchToken refused)
  | uploadRefused got refused =>
    exact .uploadRefused (got.scripted hmatch) (hmatch.uploadManifest got refused)
  | identifierMissing got nameless =>
    exact .identifierMissing (got.scripted hmatch) (hmatch.uploadManifest got nameless)
  | sbomAbsent got absent => exact .sbomAbsent (got.scripted hmatch) absent
  | sbomUnread got present unread => exact .sbomUnread (got.scripted hmatch) present unread
  | sbomRefused got present read refused =>
    exact .sbomRefused (got.scripted hmatch) present read (hmatch.registerSbom got read refused)
  | sbomRegistered got present read registered =>
    exact .sbomRegistered (got.scripted hmatch) present read
      (hmatch.registerSbom got read registered)

end Match

end ManifestPublish
