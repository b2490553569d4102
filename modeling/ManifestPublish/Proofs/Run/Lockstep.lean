import ManifestPublish.Proofs.Run.Course

/-!
# Two runs in step

Two runs may show different credentials to their services and get different access tokens from
them.  As long as each question of one and the same question of the other get the same answer, the
token apart, they take the same course.

* `Lockstep` : services that answer two runs alike, from states in which they stand alike

Principal result, for any two services: `Course.lockstep`.
-/

set_option autoImplicit false

namespace ManifestPublish

variable {σ τ : Type}

/-- Services that answer two runs alike.  `Start` holds of the states from which the runs start,
`Going` of those after a token is given out, with the two tokens, and `End` of those in which the
runs may end. -/
structure Lockstep (service : Service σ) (service' : Service τ)
    (credentials credentials' : Credentials) (Start End : σ → τ → Prop)
    (Going : AccessToken → AccessToken → σ → τ → Prop) : Prop where
  start_end : ∀ {s : σ} {t : τ}, Start s t → End s t
  going_end : ∀ {token token' : AccessToken} {s : σ} {t : τ}, Going token token' s t → End s t
  /-- A token is refused to both, for the same reason, or given out to both. -/
  fetchToken : ∀ {s : σ} {t : τ}, Start s t →
    (∃ e s' t', service.fetchToken credentials s = (.error e, s') ∧
      service'.fetchToken credentials' t = (.error e, t') ∧ End s' t') ∨
    ∃ token token' s' t', service.fetchToken credentials s = (.ok token, s') ∧
      service'.fetchToken credentials' t = (.ok token', t') ∧ Going token token' s' t'
  uploadManifest : ∀ {token token' : AccessToken} {s : σ} {t : τ}, Going token token' s t →
    ∀ manifest, ∃ reply s' t', service.uploadManifest token manifest s = (reply, s') ∧
      service'.uploadManifest token' manifest t = (reply, t') ∧ Going token token' s' t'
  registerSbom : ∀ {token token' : AccessToken} {s : σ} {t : τ}, Going token token' s t →
    ∀ id sbom, ∃ reply s' t', service.registerSbom token id sbom s = (reply, s') ∧
      service'.registerSbom token' id sbom t = (reply, t') ∧ Going token token' s' t'

section Lockstep

variable {service : Service σ} {service' : Service τ} {tree : FileTree}
  {config config' : PublishConfig} {Start End : σ → τ → Prop}
  {Going : AccessToken → AccessToken → σ → τ → Prop}
  (h : Lockstep service service' config.credentials config'.credentials Start End Going)
  (hmanifest : config'.manifestFile = config.manifestFile)
  {s s₁ s₂ : σ} {t : τ} {manifest : LocalFile} {token : AccessToken} {id : String}

include h

theorem Lockstep.refused (hstart : Start s t) {e : PublishError}
    (hrefused : service.fetchToken config.credentials s = (.error e, s₁)) :
    ∃ t₁, service'.fetchToken config'.credentials t = (.error e, t₁) ∧ End s₁ t₁ := by
  obtain ⟨e', s', t', hfetch, hfetch', hend⟩ | ⟨_, _, _, _, hfetch, -⟩ := h.fetchToken hstart
  · rw [hrefused] at hfetch
    cases hfetch
    exact ⟨t', hfetch', hend⟩
  · rw [hrefused] at hfetch
    cases hfetch

theorem Lockstep.uploaded {token' : AccessToken} {t₁ : τ} (hgoing : Going token token' s₁ t₁)
    {reply : Except PublishError UploadResult}
    (hupload : service.uploadManifest token manifest s₁ = (reply, s₂)) :
    ∃ t₂, service'.uploadManifest token' manifest t₁ = (reply, t₂) ∧ Going token token' s₂ t₂ := by
  obtain ⟨reply', s', t', hreply, hreply', hgoing'⟩ := h.uploadManifest hgoing manifest
  rw [hupload] at hreply
  cases hreply
  exact ⟨t', hreply', hgoing'⟩

theorem Lockstep.registered {token' : AccessToken} {t₁ : τ} (hgoing : Going token token' s₁ t₁)
    {sbom : LocalFile} {reply : Except PublishError Unit}
    (hregister : service.registerSbom token id sbom s₁ = (reply, s₂)) :
    ∃ t₂, service'.registerSbom token' id sbom t₁ = (reply, t₂) ∧ Going token token' s₂ t₂ := by
  obtain ⟨reply', s', t', hreply, hreply', hgoing'⟩ := h.registerSbom hgoing id sbom
  rw [hregister] at hreply
  cases hreply
  exact ⟨t', hreply', hgoing'⟩

include hmanifest

theorem GotToken.lockstep (hstart : Start s t)
    (got : GotToken service tree config s manifest token s₁) :
    ∃ token' t₁, GotToken service' tree config' t manifest token' t₁ ∧
      Going token token' s₁ t₁ := by
  obtain ⟨e', s', t', hfetch, -⟩ | ⟨_, token', _, t', hfetch, hfetch', hgoing⟩ :=
    h.fetchToken hstart
  · rw [got.fetched] at hfetch
    cases hfetch
  · rw [got.fetched] at hfetch
    cases hfetch
    refine ⟨token', t', ⟨?_, hfetch'⟩, hgoing⟩
    rw [hmanifest]
    exact got.read

theorem GotIdentifier.lockstep (hstart : Start s t)
    (got : GotIdentifier service tree config s manifest token id s₂) :
    ∃ token' t₂, GotIdentifier service' tree config' t manifest token' id t₂ ∧
      Going token token' s₂ t₂ := by
  obtain ⟨got, uploaded⟩ := got
  obtain ⟨token', t₁, got', hgoing⟩ := got.lockstep h hmanifest hstart
  obtain ⟨t₂, uploaded', hgoing'⟩ := h.uploaded hgoing uploaded
  exact ⟨token', t₂, .intro got' uploaded', hgoing'⟩

/-- **Runs in step take the same course**: they come to the same, tell the same, and leave their
services alike. -/
theorem Course.lockstep (hsbom : config'.sbomFile = config.sbomFile) (hstart : Start s t)
    {result : Except PublishError Report} {trace : Trace σ}
    (course : Course service tree config s result trace) :
    ∃ trace', Course service' tree config' t result trace' ∧ trace'.stages = trace.stages ∧
      End trace.services trace'.services := by
  cases course with
  | manifestUnread unread =>
    exact ⟨_, .manifestUnread (hmanifest ▸ unread), rfl, h.start_end hstart⟩
  | tokenRefused read refused =>
    obtain ⟨t₁, refused', hend⟩ := h.refused hstart refused
    exact ⟨_, .tokenRefused (hmanifest ▸ read) refused', rfl, hend⟩
  | uploadRefused got refused =>
    obtain ⟨token', t₁, got', hgoing⟩ := got.lockstep h hmanifest hstart
    obtain ⟨t₂, refused', hgoing'⟩ := h.uploaded hgoing refused
    exact ⟨_, .uploadRefused got' refused', rfl, h.going_end hgoing'⟩
  | identifierMissing got nameless =>
    obtain ⟨token', t₁, got', hgoing⟩ := got.lockstep h hmanifest hstart
    obtain ⟨t₂, nameless', hgoing'⟩ := h.uploaded hgoing nameless
    exact ⟨_, .identifierMissing got' nameless', rfl, h.going_end hgoing'⟩
  | sbomAbsent got absent =>
    obtain ⟨token', t₂, got', hgoing⟩ := got.lockstep h hmanifest hstart
    rw [← hsbom] at absent ⊢
    exact ⟨_, .sbomAbsent got' absent, rfl, h.going_end hgoing⟩
  | sbomUnread got present unread =>
    obtain ⟨token', t₂, got', hgoing⟩ := got.lockstep h hmanifest hstart
    rw [← hsbom] at present unread ⊢
    exact ⟨_, .sbomUnread got' present unread, rfl, h.going_end hgoing⟩
  | sbomRefused got present read refused =>
    obtain ⟨token', t₂, got', hgoing⟩ := got.lockstep h hmanifest hstart
    obtain ⟨t₃, refused', hgoing'⟩ := h.registered hgoing refused
    rw [← hsbom] at present read
    exact ⟨_, .sbomRefused got' present read refused', rfl, h.going_end hgoing'⟩
  | sbomRegistered got present read registered =>
    obtain ⟨token', t₂, got', hgoing⟩ := got.lockstep h hmanifest hstart
    obtain ⟨t₃, registered', hgoing'⟩ := h.registered hgoing registered
    rw [← hsbom] at present read
    exact ⟨_, .sbomRegistered got' present read registered', rfl, h.going_end hgoing'⟩

end Lockstep

end ManifestPublish
