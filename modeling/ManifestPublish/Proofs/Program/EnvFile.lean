import ManifestPublish.Proofs.File.Beside
import ManifestPublish.Proofs.Program.ExitCodes
import ManifestPublish.Proofs.Settings.EnvFile.Defaults

/-!
# The program with a file `.env`

* `World.putEnvFile` : the world with a file `.env` in the working directory
* `World.LacksEnvFile` : a world that has no such file, and room for one
* `World.withDefaults` : the world with weaker variables
* `World.LooksAt` : a run looks at a path
* `FileTree.SameAt` : a path stands for the same in two trees

A run depends on the tree by what it looks at (`run_inTree`), so the file counts by what it assigns
alone (`runProgram_of_assign`).

Principal result: `runProgram_envFile`.
-/

set_option autoImplicit false

namespace ManifestPublish

namespace World

/-- The place of the file `.env` in the working directory. -/
def envFilePlace (world : World) : Place := EnvFile.name :: world.tree.workingDirectory

def putEnvFile (world : World) (contents : Bytes) : World :=
  { world with tree := world.tree.put world.envFilePlace (.file contents) }

/-- No file `.env` is found, and one can be put into the working directory. -/
structure LacksEnvFile (world : World) : Prop where
  directory : world.tree.isDirectory world.tree.workingDirectory = true
  vacant : world.tree.Vacant world.envFilePlace
  absent : EnvFile.contents? world.tree = none

/-- The world with assignments for the variables that its environment lacks. -/
def withDefaults (world : World) (assignments : List EnvFile.Assignment) : World :=
  { world with environment := world.environment.withDefaults assignments }

/-- A run looks at a path: at that of the manifest, and, once it has come so far, at that of the
SBOM. -/
def LooksAt (o : Overrides) (world : World) (path : Bytes) : Prop :=
  ∃ config, loadConfig o world.environment = .ok config ∧
    (path = config.manifestFile ∨
      path = config.sbomFile ∧ .sbomChecked ∈ (run o world).2.stages)

end World

/-! ## Courses in another tree -/

section Courses

variable {σ : Type} {service : Service σ} {tree tree' : FileTree} {config : PublishConfig} {s : σ}
  {result : Except PublishError Report} {trace : Trace σ}

/-- A path stands for the same in two trees. -/
structure FileTree.SameAt (tree tree' : FileTree) (path : Bytes) : Prop where
  isFile : tree'.isFile path = tree.isFile path
  read : tree'.read path = tree.read path

theorem GotToken.inTree {manifest : LocalFile} {token : AccessToken} {s₁ : σ}
    (hmanifest : tree.SameAt tree' config.manifestFile)
    (got : GotToken service tree config s manifest token s₁) :
    GotToken service tree' config s manifest token s₁ :=
  ⟨hmanifest.read.trans got.read, got.fetched⟩

theorem GotIdentifier.inTree {manifest : LocalFile} {token : AccessToken} {id : String} {s₂ : σ}
    (hmanifest : tree.SameAt tree' config.manifestFile)
    (got : GotIdentifier service tree config s manifest token id s₂) :
    GotIdentifier service tree' config s manifest token id s₂ := by
  obtain ⟨got, uploaded⟩ := got
  exact .intro (got.inTree hmanifest) uploaded

/-- **A course can be taken in another tree if what the run looks at is the same there.** -/
theorem Course.inTree (hmanifest : tree.SameAt tree' config.manifestFile)
    (hsbom : .sbomChecked ∈ trace.stages → tree.SameAt tree' config.sbomFile)
    (h : Course service tree config s result trace) :
    Course service tree' config s result trace := by
  cases h with
  | manifestUnread unread => exact .manifestUnread (hmanifest.read.trans unread)
  | tokenRefused read refused => exact .tokenRefused (hmanifest.read.trans read) refused
  | uploadRefused got refused => exact .uploadRefused (got.inTree hmanifest) refused
  | identifierMissing got nameless => exact .identifierMissing (got.inTree hmanifest) nameless
  | sbomAbsent got absent =>
    have hsame := hsbom (by simp)
    exact .sbomAbsent (got.inTree hmanifest) (hsame.isFile.trans absent)
  | sbomUnread got present unread =>
    have hsame := hsbom (by simp)
    exact .sbomUnread (got.inTree hmanifest) (hsame.isFile.trans present)
      (hsame.read.trans unread)
  | sbomRefused got present read refused =>
    have hsame := hsbom (by simp)
    exact .sbomRefused (got.inTree hmanifest) (hsame.isFile.trans present)
      (hsame.read.trans read) refused
  | sbomRegistered got present read registered =>
    have hsame := hsbom (by simp)
    exact .sbomRegistered (got.inTree hmanifest) (hsame.isFile.trans present)
      (hsame.read.trans read) registered

end Courses

/-! ## Runs -/

section Runs

variable {o : Overrides} {world : World} {tree : FileTree}

/-- **A run depends on a tree by what it looks at.** -/
theorem run_inTree (h : ∀ path, world.LooksAt o path → world.tree.SameAt tree path) :
    run o { world with tree := tree } = run o world := by
  cases hload : loadConfig o world.environment with
  | error e => rw [run_of_unsettled hload, run_of_unsettled hload]
  | ok config =>
    obtain ⟨result, trace, hcourse⟩ :=
      exists_course (.overHttp config.endpoints) world.tree config world.session
    have hrun : run o world = (result.mapError .publish, trace) :=
      run_of_settled hload hcourse.trace_eq
    have hmanifest := h config.manifestFile ⟨config, hload, .inl rfl⟩
    have hsbom : .sbomChecked ∈ trace.stages → world.tree.SameAt tree config.sbomFile := by
      intro hchecked
      refine h config.sbomFile ⟨config, hload, .inr ⟨rfl, ?_⟩⟩
      rw [hrun]
      exact hchecked
    rw [hrun]
    exact run_of_settled hload (hcourse.inTree hmanifest hsbom).trace_eq

end Runs

/-! ## The program -/

section Program

variable {world : World} {file : Bytes} {args : List Bytes}

theorem World.LacksEnvFile.contents?_put (lacks : world.LacksEnvFile) (file : Bytes) :
    EnvFile.contents? (world.putEnvFile file).tree = some file := by
  have hwalk := FileTree.walk_put_self file lacks.directory lacks.vacant (by decide)
    (by decide) (by decide) FileTree.maxLinks
  have hentry : (world.tree.put world.envFilePlace (.file file)).entryAt? world.envFilePlace =
      some (.file file) := FileTree.entryAt?_put_self lacks.vacant.ne_nil
  exact EnvFile.contents?_of_found (EnvFile.sightIn_of_file hwalk hentry)

/-- What a file assigns is found as the values of weaker variables. -/
theorem runProgram_of_assign {assignments : List EnvFile.Assignment} (lacks : world.LacksEnvFile)
    (readable : world.environment.Readable)
    (apart : ∀ o path, parseArguments args = .ok o →
      (world.putEnvFile file).withEnvFile.LooksAt o path →
      (world.putEnvFile file).tree.resolve? path ≠ some world.envFilePlace)
    (h : world.environment.assign [] (EnvFile.logicalLines file) =
      world.environment.setDefaults assignments) :
    runProgram args (world.putEnvFile file) = runProgram args (world.withDefaults assignments) := by
  have hbeside : (world.withDefaults assignments).withEnvFile = world.withDefaults assignments :=
    World.withEnvFile_of_none lacks.absent
  have hfile : (world.putEnvFile file).withEnvFile =
      { world.putEnvFile file with environment := world.environment.setDefaults assignments } := by
    rw [World.withEnvFile, Environment.withFile, lacks.contents?_put file]
    simp only
    rw [← h]
    rfl
  rw [hfile] at apart
  rw [runProgram, runProgram, hbeside, hfile]
  simp only
  cases hargs : parseArguments args with
  | error stop => rfl
  | ok o =>
    -- First the tree without the file, then the environment with weaker variables.
    have hrun : run o { world.putEnvFile file with
          environment := world.environment.setDefaults assignments } =
        run o (world.withDefaults assignments) := by
      have hsame := fun path hlooks => FileTree.SameAt.mk
        (FileTree.isFile_put lacks.vacant (apart o path hargs hlooks)).symm
        (FileTree.read_put lacks.vacant (apart o path hargs hlooks)).symm
      rw [← run_inTree hsame]
      exact run_congr (loadConfig_of_get? fun name => Environment.get?_setDefaults readable name)
    simp only [hrun]

end Program

/-- **A file `.env` is the same as weaker variables.**  The program ends as it does without the
file, and sends the same, if the environment has what the file assigns for the variables that it
lacks itself; a blank value is not lacking.  A line that does not parse is no failure, wherever it
stands and whatever follows it: what the lines before it assign counts, and nothing else.  A bare
word is such a line.  The run must not look at the file itself. -/
theorem runProgram_envFile (args : List Bytes) (world : World) (file : Bytes)
    (lacks : world.LacksEnvFile) (readable : world.environment.Readable)
    (apart : ∀ o path, parseArguments args = .ok o →
      (world.putEnvFile file).withEnvFile.LooksAt o path →
      (world.putEnvFile file).tree.resolve? path ≠ some world.envFilePlace) :
    (∀ assignments,
      file = EnvFile.write assignments ∨ file ++ [0x0A] = EnvFile.write assignments →
      runProgram args (world.putEnvFile file) =
        runProgram args (world.withDefaults assignments)) ∧
    (∀ before rest, file = EnvFile.write before ++ rest → EnvFile.FailsAt before.length file →
      runProgram args (world.putEnvFile file) = runProgram args (world.withDefaults before)) ∧
    (∀ before bad rest, file = EnvFile.write before ++ (bad ++ 0x0A :: rest) → 0x0A ∉ bad →
      (before = [] → ¬ EnvFile.byteOrderMark <+: bad) → EnvFile.DoesNotParse (bad ++ [0x0A]) →
      runProgram args (world.putEnvFile file) = runProgram args (world.withDefaults before)) ∧
    ∀ before word rest, file = EnvFile.write before ++ (Utf8.encode word ++ 0x0A :: rest) →
      EnvFile.IsBareWord word →
      runProgram args (world.putEnvFile file) = runProgram args (world.withDefaults before) := by
  have hassign := fun assignments =>
    @runProgram_of_assign world file args assignments lacks readable
    apart
  have hfails : ∀ before rest, file = EnvFile.write before ++ rest →
      EnvFile.FailsAt before.length file →
      runProgram args (world.putEnvFile file) = runProgram args (world.withDefaults before) := by
    intro before rest hfile h
    exact hassign before (world.environment.assign_failsAt hfile h)
  refine ⟨?_, hfails, ?_, ?_⟩
  · intro assignments h
    exact hassign assignments (world.environment.assign_write h)
  · intro before bad rest hfile hline unmarked h
    refine hfails before _ hfile ?_
    rw [hfile]
    exact EnvFile.failsAt_of_doesNotParse before rest hline unmarked h
  · intro before word rest hfile h
    refine hfails before _ hfile ?_
    rw [hfile]
    exact EnvFile.failsAt_of_doesNotParse before rest h.newline_not_mem (fun _ => h.not_marked)
      (EnvFile.doesNotParse_word h)

/-- A blank time limit of the process is not replaced, and what follows a bare word is not read. -/
theorem runProgram_envFile_cut :
    let world : World := ⟨⟨[(Variable.timeoutSecs, [0x20])]⟩,
      ⟨[([Utf8.encode "leanix.yaml"], .file [])], []⟩, .ofAnswers false []⟩
    let token : EnvFile.Assignment := ⟨Variable.apiToken, "a #\"b", by decide, by decide⟩
    let limit : EnvFile.Assignment := ⟨Variable.timeoutSecs, "0", by decide, by decide⟩
    let manifest : EnvFile.Assignment := ⟨Variable.manifestFile, "x.yaml", by decide, by decide⟩
    let file := EnvFile.write [token, limit] ++
      (Utf8.encode "word" ++ 0x0A :: EnvFile.write [manifest])
    runProgram [] (world.putEnvFile file) = runProgram [] (world.withDefaults [token, limit]) ∧
      (runProgram [] (world.withDefaults [token, limit])).1.exitCode = 8 := by
  intro world token limit manifest file
  have lacks : world.LacksEnvFile := ⟨by decide, by unfold FileTree.Vacant; decide, by decide⟩
  have readable : world.environment.Readable := by
    unfold Environment.Readable
    decide
  have hload : loadConfig {} (world.putEnvFile file).withEnvFile.environment = .ok
      ⟨⟨"a #\"b", "leanix"⟩, .ofSubdomain "leanix", Utf8.encode "leanix.yaml",
        Utf8.encode "sbom.json", 20⟩ := by
    decide
  refine ⟨?_, by decide⟩
  refine (runProgram_envFile [] world file lacks readable ?_).2.2.2 [token, limit] "word" _ rfl
    ⟨by decide, by decide⟩
  rintro o path ho ⟨config, hload', hpath⟩
  cases ho
  cases hload.symm.trans hload'
  rcases hpath with rfl | ⟨rfl, -⟩
  · decide
  · decide

end ManifestPublish
