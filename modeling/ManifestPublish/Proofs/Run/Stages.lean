import Mathlib.Data.List.Chain
import ManifestPublish.Proofs.Run.Course

/-!
# What the stages of a run tell

The stages that a run tells are a path through a small machine, and whoever reads them knows how
the run ended and whom it asked.

* `Stage.next` : the stages that may follow a stage
* `Stage.way` : the stages between START and the end of a run
* `CallsMatchStages` : the calls of a run agree with the last two stages that it told
* `StagesMatchResult` : the stages are such a path, and its end agrees with the result

Principal result: `publish_stages_match_result_and_calls`, for any services in any state.
-/

set_option autoImplicit false

namespace ManifestPublish

/-- The stages that may follow a stage.  No step of a run can fail between the upload of the
manifest and the look at the SBOM, and none after what became of the SBOM is told. -/
def Stage.next : Stage → List Stage
  | .start => [.manifestValidated, .failed]
  | .manifestValidated => [.tokenObtained, .failed]
  | .tokenObtained => [.manifestUploaded, .failed]
  | .manifestUploaded => [.sbomChecked]
  | .sbomChecked => [.sbomUploaded, .sbomSkipped, .failed]
  | .sbomUploaded => [.done]
  | .sbomSkipped => [.done]
  | .done => []
  | .failed => []

/-- The stages between START and the end of a run, up to what became of the SBOM. -/
def Stage.way (outcome : Stage) : List Stage :=
  [.manifestValidated, .tokenObtained, .manifestUploaded, .sbomChecked, outcome]

/-- How far a stage is from START at most. -/
def Stage.rank : Stage → Nat
  | .start => 0
  | .manifestValidated => 1
  | .tokenObtained => 2
  | .manifestUploaded => 3
  | .sbomChecked => 4
  | .sbomUploaded => 5
  | .sbomSkipped => 5
  | .done => 6
  | .failed => 6

theorem Stage.rank_lt_of_mem_next {stage later : Stage} (h : later ∈ stage.next) :
    stage.rank < later.rank := by
  cases stage <;> cases later <;> simp [Stage.next, Stage.rank] at h ⊢

/-- No path through the machine comes to a stage twice: every step leads on. -/
theorem Stage.nodup_of_isChain {stages : List Stage}
    (h : stages.IsChain (fun stage later => later ∈ stage.next)) : stages.Nodup := by
  -- Ranks grow along the path, so no two stages of it can be equal.
  have hrank : (stages.map Stage.rank).IsChain (· < ·) := by
    rw [List.isChain_map]
    exact h.imp fun _ _ => Stage.rank_lt_of_mem_next
  have hpairs := List.pairwise_map.1 hrank.pairwise
  exact hpairs.imp fun hlt heq => by simp [heq] at hlt

variable {σ : Type}

/-- The calls of a run agree with the last two stages that it told. -/
structure CallsMatchStages (tree : FileTree) (config : PublishConfig) (trace : Trace σ) : Prop where
  started : trace.stages = [.start, .failed] → trace.calls = []
  validated : [.manifestValidated, .failed] <:+ trace.stages →
    trace.calls = [.fetchToken config.credentials]
  obtained : [.tokenObtained, .failed] <:+ trace.stages →
    ∃ token manifest,
      trace.calls = [.fetchToken config.credentials, .uploadManifest token manifest]
  /-- The SBOM was registered if it could be read. -/
  checked : [.sbomChecked, .failed] <:+ trace.stages →
    ∃ token manifest,
      (trace.calls = [.fetchToken config.credentials, .uploadManifest token manifest] ∧
        ∃ e, tree.read config.sbomFile = .error e) ∨
      ∃ id sbom, tree.read config.sbomFile = .ok sbom ∧
        trace.calls = [.fetchToken config.credentials, .uploadManifest token manifest,
          .registerSbom token id sbom]
  skipped : [.sbomSkipped, .done] <:+ trace.stages →
    ∃ token manifest,
      trace.calls = [.fetchToken config.credentials, .uploadManifest token manifest]
  uploaded : [.sbomUploaded, .done] <:+ trace.stages →
    ∃ token manifest id sbom, tree.read config.sbomFile = .ok sbom ∧
      trace.calls = [.fetchToken config.credentials, .uploadManifest token manifest,
        .registerSbom token id sbom]

/-- The stages of a run are a path through the machine, and its end agrees with the result. -/
structure StagesMatchResult (tree : FileTree) (config : PublishConfig)
    (result : Except PublishError Report) (trace : Trace σ) : Prop where
  chain : trace.stages.IsChain (fun stage later => later ∈ stage.next)
  /-- START, a part of the way, and one end after which nothing is told. -/
  shape : ∃ outcome way ending, (outcome = .sbomUploaded ∨ outcome = .sbomSkipped) ∧
    (ending = .done ∨ ending = .failed) ∧ way <+: Stage.way outcome ∧
    trace.stages = .start :: (way ++ [ending])
  nodup : trace.stages.Nodup
  done_iff : trace.stages.getLast? = some .done ↔ ∃ report, result = .ok report
  failed_iff : trace.stages.getLast? = some .failed ↔ ∃ e, result = .error e
  before_done : ∀ stage, [stage, .done] <:+: trace.stages →
    (stage = .sbomUploaded ∧ ∃ report file, result = .ok report ∧ report.sbom = .registered file) ∨
      (stage = .sbomSkipped ∧ ∃ report path, result = .ok report ∧ report.sbom = .skipped path)
  before_failed : .failed ∈ trace.stages → .sbomUploaded ∉ trace.stages ∧
    .sbomSkipped ∉ trace.stages ∧ ¬ [.manifestUploaded, .failed] <:+: trace.stages
  levels : ∀ stage ∈ trace.stages, (stage.level = .warn ↔ stage = .sbomSkipped) ∧
    (stage.level = .error ↔ stage = .failed) ∧
    (stage.level = .info ↔ stage ≠ .sbomSkipped ∧ stage ≠ .failed)
  calls : CallsMatchStages tree config trace

/-! ## Every course is told well -/

namespace Course

variable {service : Service σ} {tree : FileTree} {config : PublishConfig} {s : σ}
  {result : Except PublishError Report} {trace : Trace σ}

theorem chain (h : Course service tree config s result trace) :
    trace.stages.IsChain (fun stage later => later ∈ stage.next) := by
  cases h <;> simp [Stage.next]

theorem shape (h : Course service tree config s result trace) :
    ∃ outcome way ending, (outcome = .sbomUploaded ∨ outcome = .sbomSkipped) ∧
      (ending = .done ∨ ending = .failed) ∧ way <+: Stage.way outcome ∧
      trace.stages = .start :: (way ++ [ending]) := by
  cases h with
  | manifestUnread =>
    exact ⟨.sbomUploaded, [], .failed, .inl rfl, .inr rfl, by simp, rfl⟩
  | tokenRefused =>
    exact ⟨.sbomUploaded, [.manifestValidated], .failed, .inl rfl, .inr rfl, by simp [Stage.way],
      rfl⟩
  | uploadRefused =>
    exact ⟨.sbomUploaded, [.manifestValidated, .tokenObtained], .failed, .inl rfl, .inr rfl,
      by simp [Stage.way], rfl⟩
  | identifierMissing =>
    exact ⟨.sbomUploaded, [.manifestValidated, .tokenObtained], .failed, .inl rfl, .inr rfl,
      by simp [Stage.way], rfl⟩
  | sbomAbsent =>
    exact ⟨.sbomSkipped, Stage.way .sbomSkipped, .done, .inr rfl, .inl rfl, by simp, rfl⟩
  | sbomUnread =>
    exact ⟨.sbomUploaded, [.manifestValidated, .tokenObtained, .manifestUploaded, .sbomChecked],
      .failed, .inl rfl, .inr rfl, by simp [Stage.way], rfl⟩
  | sbomRefused =>
    exact ⟨.sbomUploaded, [.manifestValidated, .tokenObtained, .manifestUploaded, .sbomChecked],
      .failed, .inl rfl, .inr rfl, by simp [Stage.way], rfl⟩
  | sbomRegistered =>
    exact ⟨.sbomUploaded, Stage.way .sbomUploaded, .done, .inl rfl, .inl rfl, by simp, rfl⟩

theorem nodup (h : Course service tree config s result trace) : trace.stages.Nodup :=
  Stage.nodup_of_isChain h.chain

theorem done_iff (h : Course service tree config s result trace) :
    trace.stages.getLast? = some .done ↔ ∃ report, result = .ok report := by
  cases h <;> simp

theorem failed_iff (h : Course service tree config s result trace) :
    trace.stages.getLast? = some .failed ↔ ∃ e, result = .error e := by
  cases h <;> simp

theorem before_done (h : Course service tree config s result trace) {stage : Stage}
    (hbefore : [stage, .done] <:+: trace.stages) :
    (stage = .sbomUploaded ∧
        ∃ report file, result = .ok report ∧ report.sbom = .registered file) ∨
      (stage = .sbomSkipped ∧
        ∃ report path, result = .ok report ∧ report.sbom = .skipped path) := by
  cases h <;> simp_all [List.infix_cons_iff]

theorem before_failed (h : Course service tree config s result trace)
    (hfailed : .failed ∈ trace.stages) :
    .sbomUploaded ∉ trace.stages ∧ .sbomSkipped ∉ trace.stages ∧
      ¬ [.manifestUploaded, .failed] <:+: trace.stages := by
  cases h <;> simp_all [List.infix_cons_iff]

theorem callsMatchStages (h : Course service tree config s result trace) :
    CallsMatchStages tree config trace := by
  cases h with
  | manifestUnread =>
    refine ⟨fun _ => rfl, ?_, ?_, ?_, ?_, ?_⟩ <;> simp [List.suffix_cons_iff]
  | tokenRefused =>
    refine ⟨?_, fun _ => rfl, ?_, ?_, ?_, ?_⟩ <;> simp [List.suffix_cons_iff]
  | uploadRefused =>
    refine ⟨?_, ?_, fun _ => ⟨_, _, rfl⟩, ?_, ?_, ?_⟩ <;> simp [List.suffix_cons_iff]
  | identifierMissing =>
    refine ⟨?_, ?_, fun _ => ⟨_, _, rfl⟩, ?_, ?_, ?_⟩ <;> simp [List.suffix_cons_iff]
  | sbomAbsent =>
    refine ⟨?_, ?_, ?_, ?_, fun _ => ⟨_, _, rfl⟩, ?_⟩ <;> simp [List.suffix_cons_iff]
  | sbomUnread _ _ unread =>
    refine ⟨?_, ?_, ?_, fun _ => ⟨_, _, .inl ⟨rfl, _, unread⟩⟩, ?_, ?_⟩ <;>
      simp [List.suffix_cons_iff]
  | sbomRefused _ _ read =>
    refine ⟨?_, ?_, ?_, fun _ => ⟨_, _, .inr ⟨_, _, read, rfl⟩⟩, ?_, ?_⟩ <;>
      simp [List.suffix_cons_iff]
  | sbomRegistered _ _ read =>
    refine ⟨?_, ?_, ?_, ?_, ?_, fun _ => ⟨_, _, _, _, read, rfl⟩⟩ <;> simp [List.suffix_cons_iff]

end Course

/-- **The stages of a run are a path from START to its end, which agrees with the result and the
calls.** -/
theorem publish_stages_match_result_and_calls (service : Service σ) (tree : FileTree)
    (config : PublishConfig) (s : σ) :
    StagesMatchResult tree config ((publish service tree config).trace s).1
      ((publish service tree config).trace s).2 := by
  have h := course_publish service tree config s
  refine ⟨h.chain, h.shape, h.nodup, h.done_iff, h.failed_iff, fun _ => h.before_done,
    h.before_failed, ?_, h.callsMatchStages⟩
  intro stage _
  cases stage <;> simp [Stage.level]

end ManifestPublish
