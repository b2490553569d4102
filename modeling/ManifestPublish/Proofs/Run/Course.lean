import ManifestPublish.Publish.Run

/-!
# The courses of a run

A run reads the manifest, asks its services at most three questions, and looks at the SBOM only
when it has the id of a fact sheet.  The first thing that goes wrong ends it.

* `GotToken`, `GotIdentifier` : a run has come as far as an access token, as far as an id
* `Course` : the eight courses that a run can take: what it comes to, whom it asked, with what and
  in which order, what it told, and how it leaves its services

Principal results, for any services in any state: `Course.trace_eq` (a course that can be taken is
taken) and `course_publish` (no run leaves the eight courses); together `publish_trace_eq_iff`.
-/

set_option autoImplicit false

namespace ManifestPublish

variable {σ : Type}

/-! ## The courses -/

/-- The manifest is read and there is a token to upload it with. -/
structure GotToken (service : Service σ) (tree : FileTree) (config : PublishConfig) (s : σ)
    (manifest : LocalFile) (token : AccessToken) (s₁ : σ) : Prop where
  read : tree.read config.manifestFile = .ok manifest
  fetched : service.fetchToken config.credentials s = (.ok token, s₁)

/-- The manifest is uploaded and its fact sheet has an id. -/
inductive GotIdentifier (service : Service σ) (tree : FileTree) (config : PublishConfig) (s : σ)
    (manifest : LocalFile) (token : AccessToken) (id : String) (s₂ : σ) : Prop where
  | intro {s₁ : σ} {status : Status} (got : GotToken service tree config s manifest token s₁)
      (uploaded : service.uploadManifest token manifest s₁ = (.ok ⟨status, some id⟩, s₂))

theorem GotIdentifier.read {service : Service σ} {tree : FileTree} {config : PublishConfig}
    {s s₂ : σ} {manifest : LocalFile} {token : AccessToken} {id : String}
    (got : GotIdentifier service tree config s manifest token id s₂) :
    tree.read config.manifestFile = .ok manifest := by
  obtain ⟨got, _⟩ := got
  exact got.read

/-- The courses that a run can take from where services stand at first. -/
inductive Course (service : Service σ) (tree : FileTree) (config : PublishConfig) (s : σ) :
    Except PublishError Report → Trace σ → Prop where
  /-- The manifest cannot be read, and nobody is asked for anything. -/
  | manifestUnread {e : PublishError} (unread : tree.read config.manifestFile = .error e) :
      Course service tree config s (.error e) ⟨s, [], [.start, .failed]⟩
  | tokenRefused {manifest : LocalFile} {e : PublishError} {s₁ : σ}
      (read : tree.read config.manifestFile = .ok manifest)
      (refused : service.fetchToken config.credentials s = (.error e, s₁)) :
      Course service tree config s (.error e)
        ⟨s₁, [.fetchToken config.credentials], [.start, .manifestValidated, .failed]⟩
  | uploadRefused {manifest : LocalFile} {token : AccessToken} {e : PublishError} {s₁ s₂ : σ}
      (got : GotToken service tree config s manifest token s₁)
      (refused : service.uploadManifest token manifest s₁ = (.error e, s₂)) :
      Course service tree config s (.error e)
        ⟨s₂, [.fetchToken config.credentials, .uploadManifest token manifest],
          [.start, .manifestValidated, .tokenObtained, .failed]⟩
  /-- The upload is taken, but no fact sheet is named. -/
  | identifierMissing {manifest : LocalFile} {token : AccessToken} {status : Status} {s₁ s₂ : σ}
      (got : GotToken service tree config s manifest token s₁)
      (nameless : service.uploadManifest token manifest s₁ = (.ok ⟨status, none⟩, s₂)) :
      Course service tree config s (.error .missingIdentifier)
        ⟨s₂, [.fetchToken config.credentials, .uploadManifest token manifest],
          [.start, .manifestValidated, .tokenObtained, .failed]⟩
  /-- No regular file is at the path of the SBOM, which is no failure. -/
  | sbomAbsent {manifest : LocalFile} {token : AccessToken} {id : String} {s₂ : σ}
      (got : GotIdentifier service tree config s manifest token id s₂)
      (absent : tree.isFile config.sbomFile = false) :
      Course service tree config s (.ok ⟨id, manifest.report, .skipped config.sbomFile⟩)
        ⟨s₂, [.fetchToken config.credentials, .uploadManifest token manifest],
          [.start, .manifestValidated, .tokenObtained, .manifestUploaded, .sbomChecked,
            .sbomSkipped, .done]⟩
  | sbomUnread {manifest : LocalFile} {token : AccessToken} {id : String} {fault : ReadFault}
      {s₂ : σ} (got : GotIdentifier service tree config s manifest token id s₂)
      (present : tree.isFile config.sbomFile = true)
      (unread : tree.read config.sbomFile = .error (.fileRead config.sbomFile fault)) :
      Course service tree config s (.error (.fileRead config.sbomFile fault))
        ⟨s₂, [.fetchToken config.credentials, .uploadManifest token manifest],
          [.start, .manifestValidated, .tokenObtained, .manifestUploaded, .sbomChecked, .failed]⟩
  | sbomRefused {manifest sbom : LocalFile} {token : AccessToken} {id : String}
      {e : PublishError} {s₂ s₃ : σ}
      (got : GotIdentifier service tree config s manifest token id s₂)
      (present : tree.isFile config.sbomFile = true)
      (read : tree.read config.sbomFile = .ok sbom)
      (refused : service.registerSbom token id sbom s₂ = (.error e, s₃)) :
      Course service tree config s (.error e)
        ⟨s₃, [.fetchToken config.credentials, .uploadManifest token manifest,
            .registerSbom token id sbom],
          [.start, .manifestValidated, .tokenObtained, .manifestUploaded, .sbomChecked, .failed]⟩
  | sbomRegistered {manifest sbom : LocalFile} {token : AccessToken} {id : String} {s₂ s₃ : σ}
      (got : GotIdentifier service tree config s manifest token id s₂)
      (present : tree.isFile config.sbomFile = true)
      (read : tree.read config.sbomFile = .ok sbom)
      (registered : service.registerSbom token id sbom s₂ = (.ok (), s₃)) :
      Course service tree config s (.ok ⟨id, manifest.report, .registered sbom.report⟩)
        ⟨s₃, [.fetchToken config.credentials, .uploadManifest token manifest,
            .registerSbom token id sbom],
          [.start, .manifestValidated, .tokenObtained, .manifestUploaded, .sbomChecked,
            .sbomUploaded, .done]⟩

/-! ## The last two steps -/

section Steps

variable {service : Service σ} {tree : FileTree} {token : AccessToken} {manifest sbom : LocalFile}
  {id : String} {path : Bytes} {status : Status} {e : PublishError} {s s' : σ}
  {calls : List Call} {stages : List Stage}

theorem uploadManifestFile_refused
    (h : service.uploadManifest token manifest s = (.error e, s')) :
    uploadManifestFile service token manifest ⟨s, calls, stages⟩ =
      (.error e, ⟨s', calls ++ [.uploadManifest token manifest], stages⟩) := by
  unfold uploadManifestFile
  exact Act.bind_error (ask_apply h)

theorem uploadManifestFile_nameless
    (h : service.uploadManifest token manifest s = (.ok ⟨status, none⟩, s')) :
    uploadManifestFile service token manifest ⟨s, calls, stages⟩ =
      (.error .missingIdentifier, ⟨s', calls ++ [.uploadManifest token manifest], stages⟩) := by
  unfold uploadManifestFile
  rw [Act.bind_ok (ask_apply h)]
  rfl

theorem uploadManifestFile_named
    (h : service.uploadManifest token manifest s = (.ok ⟨status, some id⟩, s')) :
    uploadManifestFile service token manifest ⟨s, calls, stages⟩ =
      (.ok id, ⟨s', calls ++ [.uploadManifest token manifest],
        stages ++ [.manifestUploaded]⟩) := by
  unfold uploadManifestFile
  rw [Act.bind_ok (ask_apply h)]
  rfl

theorem registerSboms_absent (h : tree.isFile path = false) :
    registerSboms service tree token id path ⟨s, calls, stages⟩ =
      (.ok (.skipped path), ⟨s, calls, stages ++ [.sbomChecked] ++ [.sbomSkipped]⟩) := by
  have hensure : tree.ensureFile path = .error (.fileNotFound path) := by
    simp [FileTree.ensureFile, h]
  unfold registerSboms
  rw [Act.bind_ok (reach_apply _), hensure]
  rfl

theorem registerSboms_present (h : tree.isFile path = true) :
    registerSboms service tree token id path ⟨s, calls, stages⟩ =
      (do
        let sbom ← MonadExcept.ofExcept (tree.read path)
        ask (.registerSbom token id sbom) (service.registerSbom token id sbom)
        reach .sbomUploaded
        return .registered sbom.report : Act σ SbomOutcome)
      ⟨s, calls, stages ++ [.sbomChecked]⟩ := by
  have hensure : tree.ensureFile path = .ok () := by simp [FileTree.ensureFile, h]
  unfold registerSboms
  rw [Act.bind_ok (reach_apply _), hensure]

theorem registerSboms_unread (h : tree.isFile path = true) (hread : tree.read path = .error e) :
    registerSboms service tree token id path ⟨s, calls, stages⟩ =
      (.error e, ⟨s, calls, stages ++ [.sbomChecked]⟩) := by
  rw [registerSboms_present h, hread]
  exact Act.bind_error (ofExcept_apply _ _)

theorem registerSboms_refused (h : tree.isFile path = true) (hread : tree.read path = .ok sbom)
    (hrefused : service.registerSbom token id sbom s = (.error e, s')) :
    registerSboms service tree token id path ⟨s, calls, stages⟩ =
      (.error e, ⟨s', calls ++ [.registerSbom token id sbom], stages ++ [.sbomChecked]⟩) := by
  rw [registerSboms_present h, hread, Act.bind_ok (ofExcept_apply _ _)]
  exact Act.bind_error (ask_apply hrefused)

theorem registerSboms_registered (h : tree.isFile path = true) (hread : tree.read path = .ok sbom)
    (hregistered : service.registerSbom token id sbom s = (.ok (), s')) :
    registerSboms service tree token id path ⟨s, calls, stages⟩ =
      (.ok (.registered sbom.report), ⟨s', calls ++ [.registerSbom token id sbom],
        stages ++ [.sbomChecked] ++ [.sbomUploaded]⟩) := by
  rw [registerSboms_present h, hread, Act.bind_ok (ofExcept_apply _ _),
    Act.bind_ok (ask_apply hregistered), Act.bind_ok (reach_apply _)]
  rfl

end Steps

/-! ## The steps of a run -/

section Run

variable {service : Service σ} {tree : FileTree} {config : PublishConfig} {s s₁ s₂ s' : σ}
  {manifest : LocalFile} {token : AccessToken} {id : String} {report : Report} {e : PublishError}
  {calls : List Call} {stages : List Stage}

theorem runStages_unread (h : tree.read config.manifestFile = .error e) :
    runStages service tree config ⟨s, calls, stages⟩ = (.error e, ⟨s, calls, stages⟩) := by
  unfold runStages
  rw [h]
  exact Act.bind_error (ofExcept_apply _ _)

theorem runStages_refused (hread : tree.read config.manifestFile = .ok manifest)
    (h : service.fetchToken config.credentials s = (.error e, s₁)) :
    runStages service tree config ⟨s, calls, stages⟩ =
      (.error e, ⟨s₁, calls ++ [.fetchToken config.credentials],
        stages ++ [.manifestValidated]⟩) := by
  unfold runStages
  rw [hread, Act.bind_ok (ofExcept_apply _ _), Act.bind_ok (reach_apply _)]
  exact Act.bind_error (ask_apply h)

/-- With a token, what is left of a run are its last two steps. -/
theorem runStages_gotToken (got : GotToken service tree config s manifest token s₁) :
    runStages service tree config ⟨s, calls, stages⟩ =
      (do
        let id ← uploadManifestFile service token manifest
        let sbom ← registerSboms service tree token id config.sbomFile
        return ⟨id, manifest.report, sbom⟩ : Act σ Report)
      ⟨s₁, calls ++ [.fetchToken config.credentials],
        stages ++ [.manifestValidated] ++ [.tokenObtained]⟩ := by
  unfold runStages
  rw [got.read, Act.bind_ok (ofExcept_apply _ _), Act.bind_ok (reach_apply _),
    Act.bind_ok (ask_apply got.fetched), Act.bind_ok (reach_apply _)]

/-- With an id, what is left of a run is its last step. -/
theorem runStages_gotIdentifier
    (got : GotIdentifier service tree config s manifest token id s₂) :
    runStages service tree config ⟨s, calls, stages⟩ =
      (do
        let sbom ← registerSboms service tree token id config.sbomFile
        return ⟨id, manifest.report, sbom⟩ : Act σ Report)
      ⟨s₂, calls ++ [.fetchToken config.credentials] ++ [.uploadManifest token manifest],
        stages ++ [.manifestValidated] ++ [.tokenObtained] ++ [.manifestUploaded]⟩ := by
  obtain ⟨got, uploaded⟩ := got
  rw [runStages_gotToken got, Act.bind_ok (uploadManifestFile_named uploaded)]

theorem publish_of_ok
    (h : runStages service tree config ⟨s, [], [.start]⟩ = (.ok report, ⟨s', calls, stages⟩)) :
    (publish service tree config).trace s = (.ok report, ⟨s', calls, stages ++ [.done]⟩) := by
  unfold publish Act.trace
  rw [Act.bind_ok (reach_apply _)]
  apply Act.tryCatch_ok
  rw [List.nil_append, Act.bind_ok h, Act.bind_ok (reach_apply _)]
  rfl

theorem publish_of_error
    (h : runStages service tree config ⟨s, [], [.start]⟩ = (.error e, ⟨s', calls, stages⟩)) :
    (publish service tree config).trace s = (.error e, ⟨s', calls, stages ++ [.failed]⟩) := by
  unfold publish Act.trace
  rw [Act.bind_ok (reach_apply _), List.nil_append, Act.tryCatch_error (Act.bind_error h),
    Act.bind_ok (reach_apply _)]
  rfl

end Run

/-! ## Runs and courses -/

variable {service : Service σ} {tree : FileTree} {config : PublishConfig} {s : σ}
  {result : Except PublishError Report} {trace : Trace σ}

/-- **A course that can be taken is taken.** -/
theorem Course.trace_eq (h : Course service tree config s result trace) :
    (publish service tree config).trace s = (result, trace) := by
  cases h with
  | manifestUnread unread => exact publish_of_error (runStages_unread unread)
  | tokenRefused read refused => exact publish_of_error (runStages_refused read refused)
  | uploadRefused got refused =>
    exact publish_of_error
      ((runStages_gotToken got).trans (Act.bind_error (uploadManifestFile_refused refused)))
  | identifierMissing got nameless =>
    exact publish_of_error
      ((runStages_gotToken got).trans (Act.bind_error (uploadManifestFile_nameless nameless)))
  | sbomAbsent got absent =>
    exact publish_of_ok
      ((runStages_gotIdentifier got).trans (Act.bind_ok (registerSboms_absent absent)))
  | sbomUnread got present unread =>
    exact publish_of_error
      ((runStages_gotIdentifier got).trans (Act.bind_error (registerSboms_unread present unread)))
  | sbomRefused got present read refused =>
    exact publish_of_error ((runStages_gotIdentifier got).trans
      (Act.bind_error (registerSboms_refused present read refused)))
  | sbomRegistered got present read registered =>
    exact publish_of_ok ((runStages_gotIdentifier got).trans
      (Act.bind_ok (registerSboms_registered present read registered)))

/-- With an id, the state of the SBOM and the answer to its registration decide the course. -/
theorem GotIdentifier.exists_course {manifest : LocalFile} {token : AccessToken} {id : String}
    {s₂ : σ} (got : GotIdentifier service tree config s manifest token id s₂) :
    ∃ result trace, Course service tree config s result trace := by
  cases hfile : tree.isFile config.sbomFile with
  | false => exact ⟨_, _, .sbomAbsent got hfile⟩
  | true =>
    rcases FileTree.read_of_isFile hfile with ⟨sbom, hread⟩ | ⟨fault, hread⟩
    · rcases hregister : service.registerSbom token id sbom s₂ with ⟨e | ⟨⟩, s₃⟩
      · exact ⟨_, _, .sbomRefused got hfile hread hregister⟩
      · exact ⟨_, _, .sbomRegistered got hfile hread hregister⟩
    · exact ⟨_, _, .sbomUnread got hfile hread⟩

theorem exists_course (service : Service σ) (tree : FileTree) (config : PublishConfig) (s : σ) :
    ∃ result trace, Course service tree config s result trace := by
  -- The first thing that goes wrong decides the course.
  rcases hread : tree.read config.manifestFile with e | manifest
  · exact ⟨_, _, .manifestUnread hread⟩
  rcases htoken : service.fetchToken config.credentials s with ⟨e | token, s₁⟩
  · exact ⟨_, _, .tokenRefused hread htoken⟩
  have got : GotToken service tree config s manifest token s₁ := ⟨hread, htoken⟩
  rcases hupload : service.uploadManifest token manifest s₁ with ⟨e | ⟨status, _ | id⟩, s₂⟩
  · exact ⟨_, _, .uploadRefused got hupload⟩
  · exact ⟨_, _, .identifierMissing got hupload⟩
  · exact (GotIdentifier.intro got hupload).exists_course

/-- **No run leaves the eight courses.** -/
theorem course_publish (service : Service σ) (tree : FileTree) (config : PublishConfig) (s : σ) :
    Course service tree config s ((publish service tree config).trace s).1
      ((publish service tree config).trace s).2 := by
  obtain ⟨result, trace, h⟩ := exists_course service tree config s
  rw [h.trace_eq]
  exact h

/-- **The call protocol of a run.**  For any services in any state, a run comes to a result with a
trace exactly if that is one of the eight courses: the manifest unread, each of the three questions
answered with a failure, no id, the SBOM absent or unread, and success. -/
theorem publish_trace_eq_iff (service : Service σ) (tree : FileTree) (config : PublishConfig)
    (s : σ) (result : Except PublishError Report) (trace : Trace σ) :
    (publish service tree config).trace s = (result, trace) ↔
      Course service tree config s result trace := by
  constructor
  · intro h
    have hcourse := course_publish service tree config s
    rw [h] at hcourse
    exact hcourse
  · exact Course.trace_eq

end ManifestPublish
