import ManifestPublish.CommandLine.Program
import ManifestPublish.Proofs.Run.Requests

/-!
# What exit codes tell

The code with which the program ends says how far its run has come, and with it how many requests
have gone out.

* `requestCounts` : how many requests may have gone out when a run ends with a code
* `RequestsMatchExitCode` : what the result of a run tells of the run
* `OutcomeMatchesRun` : what the end of the program tells of its run

Principal results: `Course.count_of_error`, `Course.file_of_error` and `Course.count_of_ok` for runs
over HTTP, `run_requestsMatchExitCode` and `runProgram_outcomeMatchesRun` for the program, together
`exitCode_matches_requests_and_output`.
-/

set_option autoImplicit false

namespace ManifestPublish

/-- How many requests may have gone out when a run ends with a code; none if no run does. -/
def requestCounts : Nat → List Nat
  | 2 => [0]
  | 3 => [0, 2]
  | 4 => [1]
  | 5 => [2, 3]
  | 6 => [2]
  | 7 => [1, 2]
  | 8 => [0, 1, 2, 3]
  | _ => []

/-- How many requests have gone out when a run comes to a report. -/
def SbomOutcome.requestCount : SbomOutcome → Nat
  | .skipped _ => 2
  | .registered _ => 3

/-- What the result of a run tells of the run. -/
structure RequestsMatchExitCode (o : Overrides) (world : World) (result : Except Failure Report)
    (trace : Trace Session) : Prop where
  /-- Settings with a fault in them are the failure; else the run takes one of its courses. -/
  unsettled : ∀ e, loadConfig o world.environment = .error e → result = .error (.publish e)
  settled : ∀ config, loadConfig o world.environment = .ok config →
    ∃ published, Course (.overHttp config.endpoints) world.tree config world.session published
      trace ∧ result = published.mapError .publish
  /-- Only failures of a run end it, and none has the code of success or of other failures. -/
  failure : ∀ failure, result = .error failure →
    (∃ e, failure = .publish e) ∧ failure.exitCode ≠ 0 ∧ failure.exitCode ≠ 1
  count : ∀ failure, result = .error failure →
    trace.services.requests.length ∈ requestCounts failure.exitCode
  /-- Code 2 is that of settings only: a token that they hold is never blank. -/
  settings : ∀ failure, result = .error failure → failure.exitCode = 2 →
    (∃ e, loadConfig o world.environment = .error e ∧ failure = .publish e) ∧
      trace.stages = [] ∧ trace.services.requests = []
  notBlank : ∀ config, loadConfig o world.environment = .ok config →
    Blank.isBlankText config.credentials.apiToken = false
  /-- Code 3 is that of the manifest before any request, or of the SBOM after two. -/
  file : ∀ failure, result = .error failure → failure.exitCode = 3 →
    ∃ config e, loadConfig o world.environment = .ok config ∧ failure = .publish e ∧
      (world.tree.read config.manifestFile = .error e ∧ trace.services.requests.length = 0 ∨
        world.tree.read config.sbomFile = .error e ∧ trace.services.requests.length = 2)
  report : ∀ report, result = .ok report →
    trace.services.requests.length = report.sbom.requestCount

/-- What the end of the program tells of its run, if its arguments, as they are read, lead to
one. -/
structure OutcomeMatchesRun (parsed : Except Stop Overrides) (world : World) (outcome : Outcome)
    (session : Session) : Prop where
  sent : ∀ o, parsed = .ok o → session.requests = (run o world).2.services.requests
  unsent : ∀ stop, parsed = .error stop → session = world.session
  exitCode_zero : outcome.exitCode = 0 ↔
    (∃ stop, parsed = .error stop ∧ (stop = .helpAsked ∨ stop = .versionAsked)) ∨
      ∃ o report, parsed = .ok o ∧ (run o world).1 = .ok report
  exitCode_stop : ∀ stop, parsed = .error stop → stop ≠ .helpAsked → stop ≠ .versionAsked →
    outcome.exitCode = 2
  exitCode_failure : ∀ o failure, parsed = .ok o → (run o world).1 = .error failure →
    outcome.exitCode = failure.exitCode
  stdout : outcome.stdout ≠ "" ↔ outcome.exitCode = 0
  stderr : outcome.stderr ≠ "" ↔ outcome.exitCode ≠ 0

/-! ## Runs over HTTP -/

theorem FileTree.exitCode_of_read {tree : FileTree} {path : Bytes} {e : PublishError}
    (h : tree.read path = .error e) : e.exitCode = 3 := by
  unfold read at h
  split at h
  · cases h
  · cases h
    rfl
  · cases h
    rfl

section Course

variable {endpoints : Endpoints} {tree : FileTree} {config : PublishConfig} {isOnline : Bool}
  {answers : List Answer} {e : PublishError} {report : Report} {trace : Trace Session}

/-- **The code of a failed run bounds what was sent**, and it is not that of settings. -/
theorem Course.count_of_error (h : Course (.overHttp endpoints) tree config
    (.ofAnswers isOnline answers) (.error e) trace)
    (hblank : Blank.isBlankText config.credentials.apiToken = false) :
    trace.services.requests.length ∈ requestCounts e.exitCode ∧ e.exitCode ≠ 2 := by
  cases h with
  | manifestUnread unread => simp [FileTree.exitCode_of_read unread, requestCounts]
  | tokenRefused _ refused =>
    rcases Session.fetchToken_error refused with ⟨rfl, ⟨_, hblank'⟩ | hcode⟩ |
      ⟨_, _, rfl, hcode | hcode | hcode⟩
    -- Code 2 would need a blank token.
    · rw [hblank] at hblank'
      cases hblank'
    all_goals simp [hcode, requestCounts]
  | uploadRefused got refused =>
    have hlength := got.sends.length_eq
    rcases Session.uploadManifest_error refused with ⟨rfl, hcode⟩ |
      ⟨_, _, rfl, hcode | hcode | hcode⟩ <;> simp [hcode, hlength, requestCounts]
  | identifierMissing got nameless =>
    have hlength := got.sends.length_eq
    obtain ⟨_, _, rfl⟩ := Session.uploadManifest_ok nameless
    simp [hlength, requestCounts, PublishError.exitCode]
  | sbomUnread got =>
    have hlength := got.sends.length_eq
    simp [hlength, requestCounts, PublishError.exitCode]
  | sbomRefused got _ _ refused =>
    have hlength := got.sends.length_eq
    rcases Session.registerSbom_error refused with ⟨rfl, hcode⟩ | ⟨_, _, rfl, hcode | hcode⟩ <;>
      simp [hcode, hlength, requestCounts]

/-- A run that fails with the code of files failed in reading the manifest, before any request, or
in reading the SBOM, after two. -/
theorem Course.file_of_error (h : Course (.overHttp endpoints) tree config
    (.ofAnswers isOnline answers) (.error e) trace) (hthree : e.exitCode = 3) :
    tree.read config.manifestFile = .error e ∧ trace.services.requests.length = 0 ∨
      tree.read config.sbomFile = .error e ∧ trace.services.requests.length = 2 := by
  cases h with
  | manifestUnread unread => exact .inl ⟨unread, rfl⟩
  | tokenRefused _ refused =>
    rcases Session.fetchToken_error refused with ⟨_, ⟨hcode, _⟩ | hcode⟩ |
      ⟨_, _, _, hcode | hcode | hcode⟩ <;> omega
  | uploadRefused _ refused =>
    rcases Session.uploadManifest_error refused with ⟨_, hcode⟩ |
      ⟨_, _, _, hcode | hcode | hcode⟩ <;> omega
  | identifierMissing => cases hthree
  | sbomUnread got _ unread => exact .inr ⟨unread, got.sends.length_eq⟩
  | sbomRefused _ _ _ refused =>
    rcases Session.registerSbom_error refused with ⟨_, hcode⟩ | ⟨_, _, _, hcode | hcode⟩ <;> omega

theorem Course.count_of_ok (h : Course (.overHttp endpoints) tree config
    (.ofAnswers isOnline answers) (.ok report) trace) :
    trace.services.requests.length = report.sbom.requestCount := by
  cases h with
  | sbomAbsent got => exact got.sends.length_eq
  | sbomRegistered got _ _ registered => exact (got.sends_register registered).length_eq

end Course

/-! ## Runs -/

/-- No failure of a run has the code of success or that of other failures. -/
theorem Failure.exitCode_publish (e : PublishError) :
    (Failure.publish e).exitCode ≠ 0 ∧ (Failure.publish e).exitCode ≠ 1 := by
  cases e <;> simp [exitCode, PublishError.exitCode]

section Run

variable {o : Overrides} {env : Environment} {tree : FileTree} {session : Session}
  {config : PublishConfig} {e : PublishError}

theorem run_of_unsettled (h : loadConfig o env = .error e) :
    run o ⟨env, tree, session⟩ = (.error (.publish e), ⟨session, [], []⟩) := by
  unfold run runWith
  simp only [h]
  rfl

theorem run_of_settled (h : loadConfig o env = .ok config)
    {result : Except PublishError Report} {trace : Trace Session}
    (hrun : (publish (.overHttp config.endpoints) tree config).trace session = (result, trace)) :
    run o ⟨env, tree, session⟩ = (result.mapError .publish, trace) := by
  unfold run runWith
  simp only [h, hrun]

theorem exists_publish_of_run {world : World} {failure : Failure}
    (h : (run o world).1 = .error failure) : ∃ e, failure = .publish e := by
  change (runWith o world).1.mapError Failure.publish = .error failure at h
  cases hresult : (runWith o world).1 with
  | error e =>
    rw [hresult] at h
    cases h
    exact ⟨e, rfl⟩
  | ok report =>
    rw [hresult] at h
    cases h

/-- Settings with a fault in them tell that nothing was done. -/
theorem requestsMatchExitCode_of_unsettled (h : loadConfig o env = .error e)
    (hsession : session.requests = []) :
    RequestsMatchExitCode o ⟨env, tree, session⟩ (.error (.publish e)) ⟨session, [], []⟩ := by
  obtain ⟨fault, rfl⟩ := loadConfig_error h
  refine ⟨?_, ?_, ?_, ?_, ?_, fun _ hload => isBlankText_apiToken hload, ?_, ?_⟩
  · intro e hload
    rw [h] at hload
    cases hload
    rfl
  · intro config hload
    rw [h] at hload
    cases hload
  · rintro failure ⟨⟩
    exact ⟨⟨_, rfl⟩, Failure.exitCode_publish _⟩
  · rintro failure ⟨⟩
    simp [Failure.exitCode, PublishError.exitCode, requestCounts, hsession]
  · rintro failure ⟨⟩ _
    exact ⟨⟨_, h, rfl⟩, rfl, hsession⟩
  · rintro failure ⟨⟩ hthree
    cases hthree
  · rintro report ⟨⟩

/-- With settings, the course of the run decides what its result tells. -/
theorem Course.requestsMatchExitCode {isOnline : Bool} {answers : List Answer}
    {result : Except PublishError Report} {trace : Trace Session}
    (hload : loadConfig o env = .ok config)
    (h : Course (.overHttp config.endpoints) tree config (.ofAnswers isOnline answers) result
      trace) :
    RequestsMatchExitCode o ⟨env, tree, .ofAnswers isOnline answers⟩ (result.mapError .publish)
      trace := by
  have hblank := isBlankText_apiToken hload
  have hunsettled : ∀ e, loadConfig o env = .error e →
      result.mapError Failure.publish = .error (.publish e) := by
    intro e hload'
    rw [hload] at hload'
    cases hload'
  have hsettled : ∀ config', loadConfig o env = .ok config' →
      ∃ published, Course (.overHttp config'.endpoints) tree config'
        (.ofAnswers isOnline answers) published trace ∧
        result.mapError Failure.publish = published.mapError Failure.publish := by
    intro config' hload'
    rw [hload] at hload'
    cases hload'
    exact ⟨result, h, rfl⟩
  cases result with
  | error e =>
    obtain ⟨hcount, hsettings⟩ := h.count_of_error hblank
    refine ⟨hunsettled, hsettled, ?_, ?_, ?_, fun _ hload => isBlankText_apiToken hload, ?_, ?_⟩
    · rintro failure ⟨⟩
      exact ⟨⟨e, rfl⟩, Failure.exitCode_publish e⟩
    · rintro failure ⟨⟩
      exact hcount
    · rintro failure ⟨⟩ htwo
      exact absurd htwo hsettings
    · rintro failure ⟨⟩ hthree
      exact ⟨config, e, hload, rfl, h.file_of_error hthree⟩
    · rintro report ⟨⟩
  | ok report =>
    refine ⟨hunsettled, hsettled, ?_, ?_, ?_, fun _ hload => isBlankText_apiToken hload, ?_, ?_⟩
    · rintro failure ⟨⟩
    · rintro failure ⟨⟩
    · rintro failure ⟨⟩
    · rintro failure ⟨⟩
    · rintro report ⟨⟩
      exact h.count_of_ok

/-- **The result of a run tells how far it has come.** -/
theorem run_requestsMatchExitCode (o : Overrides) (env : Environment) (tree : FileTree)
    (isOnline : Bool) (answers : List Answer) :
    RequestsMatchExitCode o ⟨env, tree, .ofAnswers isOnline answers⟩
      (run o ⟨env, tree, .ofAnswers isOnline answers⟩).1
      (run o ⟨env, tree, .ofAnswers isOnline answers⟩).2 := by
  cases hload : loadConfig o env with
  | error e =>
    rw [run_of_unsettled hload]
    exact requestsMatchExitCode_of_unsettled hload rfl
  | ok config =>
    have h := course_publish (.overHttp config.endpoints) tree config (.ofAnswers isOnline answers)
    rw [run_of_settled hload rfl]
    exact h.requestsMatchExitCode hload

end Run

/-! ## The program -/

theorem Stop.message_ne_empty (stop : Stop) : stop.message ≠ "" := by
  cases stop <;>
    simp [message, Usage.help, Usage.summary, Usage.version, String.append_eq_empty_iff]

theorem Report.summary_ne_empty (report : Report) : report.summary ≠ "" := by
  unfold summary
  simp only [ne_eq, String.append_eq_empty_iff]
  simp

theorem Failure.complaint_ne_empty (failure : Failure) : failure.complaint ≠ "" := by
  unfold complaint
  simp only [ne_eq, String.append_eq_empty_iff]
  simp

theorem World.withEnvFile_of_none {world : World} (h : EnvFile.contents? world.tree = none) :
    world.withEnvFile = world := by
  simp only [withEnvFile, Environment.withFile, h]

section Program

variable {world : World}

theorem outcomeMatchesRun_of_stop (stop : Stop) :
    OutcomeMatchesRun (.error stop) world stop.outcome world.session := by
  have hmessage := stop.message_ne_empty
  refine ⟨?_, fun _ _ => rfl, ?_, ?_, ?_, ?_, ?_⟩
  · rintro o ⟨⟩
  · cases stop <;> simp [Stop.outcome, Stop.isError, Stop.exitCode]
  · rintro stop ⟨⟩ hhelp hversion
    cases stop with
    | helpAsked => exact absurd rfl hhelp
    | versionAsked => exact absurd rfl hversion
    | _ => rfl
  · rintro o failure ⟨⟩
  · cases stop <;> simp [Stop.outcome, Stop.isError, Stop.exitCode, hmessage]
  · cases stop <;> simp [Stop.outcome, Stop.isError, Stop.exitCode, hmessage]

theorem outcomeMatchesRun_of_report {o : Overrides} {report : Report}
    (h : (run o world).1 = .ok report) :
    OutcomeMatchesRun (.ok o) world (.ofResult (.ok report)) (run o world).2.services := by
  have hsummary := report.summary_ne_empty
  refine ⟨?_, ?_, ⟨fun _ => .inr ⟨o, report, rfl, h⟩, fun _ => rfl⟩, ?_, ?_, ?_, ?_⟩
  · rintro o ⟨⟩
    rfl
  · rintro stop ⟨⟩
  · rintro stop ⟨⟩
  · rintro o failure ⟨⟩ hfailure
    rw [h] at hfailure
    cases hfailure
  · simp [Outcome.ofResult, hsummary]
  · simp [Outcome.ofResult]

theorem outcomeMatchesRun_of_failure {o : Overrides} {failure : Failure}
    (h : (run o world).1 = .error failure) (hcode : failure.exitCode ≠ 0) :
    OutcomeMatchesRun (.ok o) world (.ofResult (.error failure)) (run o world).2.services := by
  have hcomplaint := failure.complaint_ne_empty
  refine ⟨?_, ?_, ⟨fun hzero => absurd hzero hcode, ?_⟩, ?_, ?_, ?_, ?_⟩
  · rintro o ⟨⟩
    rfl
  · rintro stop ⟨⟩
  · rintro (⟨stop, ⟨⟩, _⟩ | ⟨o, report, ⟨⟩, hreport⟩)
    rw [h] at hreport
    cases hreport
  · rintro stop ⟨⟩
  · rintro o failure' ⟨⟩ hfailure
    rw [h] at hfailure
    cases hfailure
    rfl
  · simp [Outcome.ofResult, hcode]
  · simp [Outcome.ofResult, hcode, hcomplaint]

/-- **The end of the program tells of its run what the result of the run does.** -/
theorem runProgram_outcomeMatchesRun (args : List Bytes) (h : EnvFile.contents? world.tree = none) :
    OutcomeMatchesRun (parseArguments args) world (runProgram args world).1
      (runProgram args world).2 := by
  unfold runProgram
  rw [World.withEnvFile_of_none h]
  cases parseArguments args with
  | error stop => exact outcomeMatchesRun_of_stop stop
  | ok o =>
    simp only
    cases hrun : (run o world).1 with
    | ok report => exact outcomeMatchesRun_of_report hrun
    | error failure =>
      obtain ⟨e, rfl⟩ := exists_publish_of_run hrun
      exact outcomeMatchesRun_of_failure hrun (Failure.exitCode_publish e).1

end Program

/-- **Exit codes tell how far a run has come.**  This holds for all settings given with options, in
any environment, for any files and any answers to come; and of the program for any arguments, if no
file `.env` adds to the environment.  Requests to `https` URLs never go out, and redirects, proxies
and stalls inside a body are not modelled (see `Session`); log lines are no part of what is printed
(see `Outcome`). -/
theorem exitCode_matches_requests_and_output (args : List Bytes) (env : Environment)
    (tree : FileTree) (isOnline : Bool) (answers : List Answer) :
    (∀ o, RequestsMatchExitCode o ⟨env, tree, .ofAnswers isOnline answers⟩
      (run o ⟨env, tree, .ofAnswers isOnline answers⟩).1
      (run o ⟨env, tree, .ofAnswers isOnline answers⟩).2) ∧
    (EnvFile.contents? tree = none →
      OutcomeMatchesRun (parseArguments args) ⟨env, tree, .ofAnswers isOnline answers⟩
        (runProgram args ⟨env, tree, .ofAnswers isOnline answers⟩).1
        (runProgram args ⟨env, tree, .ofAnswers isOnline answers⟩).2) := by
  constructor
  · intro o
    exact run_requestsMatchExitCode o env tree isOnline answers
  · intro h
    exact runProgram_outcomeMatchesRun args h

end ManifestPublish
