import Mathlib
import ManifestPublish.CommandLine.Program
import ManifestPublish.Proofs.CommandLine.Given
import ManifestPublish.Proofs.Settings.Resolution

/-!
# Options and variables

A setting can be given with an option in front of all other arguments, or by its variable.

* `Setting.variableName` : the variable of a setting
* `runArguments` : a run with the settings that arguments give
* `Refused` : a run that its arguments or its settings keep from starting

A text and a path come to the same settings either way (`exists_give_withSetting`).  Two readers
look at the time limit, one for arguments and one for variables; they take the same texts for the
same numbers (`give_loadTimeout_eq_ok_iff`, `parseTimeout_eq_ok_iff`), and what one of them does not
take keeps the other from a run.

Principal result: `runArguments_flag_variable`.
-/

set_option autoImplicit false

namespace ManifestPublish

def Setting.variableName : Setting → String
  | .manifest => Variable.manifestFile
  | .sbom => Variable.sbomFile
  | .subdomain => Variable.subdomain
  | .baseUrl => Variable.baseUrl
  | .timeoutSecs => Variable.timeoutSecs

/-- Whether blanks around a value are a part of it. -/
def Setting.isPath : Setting → Bool
  | .manifest => true
  | .sbom => true
  | _ => false

/-- The environment with a setting in its variable. -/
def Environment.withSetting (env : Environment) (setting : Setting) (text : String) : Environment :=
  env.set setting.variableName (Utf8.encode text)

/-- The world with a setting in its variable. -/
def World.withSetting (world : World) (setting : Setting) (text : String) : World :=
  { world with environment := world.environment.withSetting setting text }

/-- A run with the settings that arguments give, or why there is none. -/
def runArguments (args : List Bytes) (world : World) :
    Except Stop (Except Failure Report × Trace Session) :=
  (parseArguments args).map fun o => run o world

/-- A run that is kept from starting, with code 2: nothing is told and nothing is sent. -/
inductive Refused (session : Session) :
    Except Stop (Except Failure Report × Trace Session) → Prop where
  | arguments {stop : Stop} (code : stop.exitCode = 2) : Refused session (.error stop)
  | settings {fault : SettingFault} (code : (PublishError.configuration fault).exitCode = 2) :
      Refused session (.ok (.error (.publish (.configuration fault)), ⟨session, [], []⟩))

/-! ## Variables -/

section Variables

variable {o : Overrides} {env : Environment} {s : Setting} {text : String}

theorem Environment.filled?_set_self {name : String}
    (filled : ∃ c ∈ text.toList, Blank.isBlank c = false) :
    (env.set name (Utf8.encode text)).filled? name = some text :=
  filled?_eq_some_iff.2 ⟨get?_set_self env name _, filled⟩

theorem Environment.filled?_set_of_ne {name other : String} {value : Bytes} (h : other ≠ name) :
    (env.set name value).filled? other = env.filled? other := by
  rw [filled?, filled?, text?, text?, get?_set_of_ne h]

theorem Environment.setting?_set_of_ne {name other : String} {value : Bytes} (h : other ≠ name) :
    (env.set name value).setting? other = env.setting? other := by
  rw [setting?, setting?, filled?_set_of_ne h]

/-- A text without blanks at its ends is taken from a variable as it stands. -/
theorem Environment.setting?_set_self {name : String}
    (filled : ∃ c ∈ text.toList, Blank.isBlank c = false) (bare : Blank.TrimsTo text text) :
    (env.set name (Utf8.encode text)).setting? name = some text := by
  rw [setting?, filled?_set_self filled, Option.map_some, ← Blank.trimsTo_iff.1 bare]

theorem loadConfig_congr {o' : Overrides} {env' : Environment}
    (token : loadToken env = loadToken env')
    (subdomain : loadSubdomain o env = loadSubdomain o' env')
    (endpoints : loadEndpoints o env = loadEndpoints o' env')
    (timeout : loadTimeout o env = loadTimeout o' env')
    (manifestFile : loadPath o.manifestFile env Variable.manifestFile Default.manifestFile =
      loadPath o'.manifestFile env' Variable.manifestFile Default.manifestFile)
    (sbomFile : loadPath o.sbomFile env Variable.sbomFile Default.sbomFile =
      loadPath o'.sbomFile env' Variable.sbomFile Default.sbomFile) :
    loadConfig o env = loadConfig o' env' := by
  rw [loadConfig, loadConfig, loadSettings, loadSettings, token, subdomain, endpoints, timeout,
    manifestFile, sbomFile]

theorem loadToken_withSetting : loadToken (env.withSetting s text) = loadToken env := by
  have hother : Variable.apiToken ≠ s.variableName := by cases s <;> decide
  rw [loadToken, loadToken, Environment.withSetting, Environment.setting?_set_of_ne hother]

theorem loadSubdomain_withSetting_of_ne (h : s ≠ .subdomain) :
    loadSubdomain o (env.withSetting s text) = loadSubdomain o env := by
  have hother : Variable.subdomain ≠ s.variableName := by
    cases s <;> first | exact absurd rfl h | decide
  rw [loadSubdomain, loadSubdomain, Environment.withSetting, Environment.setting?_set_of_ne hother]

theorem loadEndpoints_withSetting_of_ne (h : s ≠ .baseUrl) :
    loadEndpoints o (env.withSetting s text) = loadEndpoints o env := by
  have hother : Variable.baseUrl ≠ s.variableName := by
    cases s <;> first | exact absurd rfl h | decide
  funext subdomain
  rw [loadEndpoints, loadEndpoints, Environment.withSetting, Environment.setting?_set_of_ne hother]

theorem loadTimeout_withSetting_of_ne (h : s ≠ .timeoutSecs) :
    loadTimeout o (env.withSetting s text) = loadTimeout o env := by
  have hother : Variable.timeoutSecs ≠ s.variableName := by
    cases s <;> first | exact absurd rfl h | decide
  rw [loadTimeout, loadTimeout, Environment.withSetting, Environment.setting?_set_of_ne hother]

theorem loadPath_withSetting_of_ne {given : Option Bytes} {name fallback : String}
    (h : name ≠ s.variableName) :
    loadPath given (env.withSetting s text) name fallback = loadPath given env name fallback := by
  rw [loadPath, loadPath, Environment.withSetting, Environment.filled?_set_of_ne h]

theorem loadPath_set {given : Option Bytes} {name fallback : String} (silent : given = none)
    (filled : ∃ c ∈ text.toList, Blank.isBlank c = false) :
    loadPath (some (Utf8.encode text)) env name fallback =
      loadPath given (env.set name (Utf8.encode text)) name fallback := by
  rw [loadPath, loadPath, silent, Environment.filled?_set_self filled]
  rfl

theorem encode_ne_nil (filled : ∃ c ∈ text.toList, Blank.isBlank c = false) :
    Utf8.encode text ≠ [] := by
  intro hnil
  obtain rfl : text = "" := Utf8.encode_inj.1 hnil
  obtain ⟨c, hc, -⟩ := filled
  exact List.not_mem_nil hc

/-- A text or a path that an option gives is the one that its variable gives. -/
theorem exists_give_withSetting (silent : o.gives s = false) (h : s ≠ .timeoutSecs)
    (filled : ∃ c ∈ text.toList, Blank.isBlank c = false)
    (bare : s.isPath = false → Blank.TrimsTo text text) :
    ∃ o', o.give s (Utf8.encode text) = .ok o' ∧
      loadConfig o' env = loadConfig o (env.withSetting s text) := by
  cases s with
  | manifest =>
    have hsilent : o.manifestFile = none :=
      Option.isNone_iff_eq_none.1 (Option.isSome_eq_false_iff.1 silent)
    exact ⟨_, give_eq_ok_iff.2 (.manifest (encode_ne_nil filled)),
      loadConfig_congr loadToken_withSetting.symm
        (loadSubdomain_withSetting_of_ne (by decide)).symm
        (loadEndpoints_withSetting_of_ne (by decide)).symm
        (loadTimeout_withSetting_of_ne (by decide)).symm (loadPath_set hsilent filled)
        (loadPath_withSetting_of_ne (by decide)).symm⟩
  | sbom =>
    have hsilent : o.sbomFile = none :=
      Option.isNone_iff_eq_none.1 (Option.isSome_eq_false_iff.1 silent)
    exact ⟨_, give_eq_ok_iff.2 (.sbom (encode_ne_nil filled)),
      loadConfig_congr loadToken_withSetting.symm
        (loadSubdomain_withSetting_of_ne (by decide)).symm
        (loadEndpoints_withSetting_of_ne (by decide)).symm
        (loadTimeout_withSetting_of_ne (by decide)).symm
        (loadPath_withSetting_of_ne (by decide)).symm (loadPath_set hsilent filled)⟩
  | subdomain =>
    have hsilent : o.subdomain = none :=
      Option.isNone_iff_eq_none.1 (Option.isSome_eq_false_iff.1 silent)
    have hsubdomain : loadSubdomain { o with subdomain := some text } env =
        loadSubdomain o (env.withSetting .subdomain text) := by
      rw [loadSubdomain, loadSubdomain, hsilent, Environment.withSetting, Setting.variableName,
        Environment.setting?_set_self filled (bare rfl)]
      rfl
    exact ⟨_, give_eq_ok_iff.2 .subdomain,
      loadConfig_congr loadToken_withSetting.symm hsubdomain
        (loadEndpoints_withSetting_of_ne (by decide)).symm
        (loadTimeout_withSetting_of_ne (by decide)).symm
        (loadPath_withSetting_of_ne (by decide)).symm
        (loadPath_withSetting_of_ne (by decide)).symm⟩
  | baseUrl =>
    have hsilent : o.baseUrl = none :=
      Option.isNone_iff_eq_none.1 (Option.isSome_eq_false_iff.1 silent)
    have hendpoints : loadEndpoints { o with baseUrl := some text } env =
        loadEndpoints o (env.withSetting .baseUrl text) := by
      funext subdomain
      rw [loadEndpoints, loadEndpoints, hsilent, Environment.withSetting, Setting.variableName,
        Environment.setting?_set_self filled (bare rfl)]
      rfl
    exact ⟨_, give_eq_ok_iff.2 .baseUrl,
      loadConfig_congr loadToken_withSetting.symm
        (loadSubdomain_withSetting_of_ne (by decide)).symm hendpoints
        (loadTimeout_withSetting_of_ne (by decide)).symm
        (loadPath_withSetting_of_ne (by decide)).symm
        (loadPath_withSetting_of_ne (by decide)).symm⟩
  | timeoutSecs => exact absurd rfl h

/-! ## The time limit -/

theorem loadTimeout_withSetting (silent : o.gives .timeoutSecs = false)
    (filled : ∃ c ∈ text.toList, Blank.isBlank c = false) (bare : Blank.TrimsTo text text) :
    loadTimeout o (env.withSetting .timeoutSecs text) = parseTimeout text := by
  have hsilent : o.timeoutSecs = none :=
    Option.isNone_iff_eq_none.1 (Option.isSome_eq_false_iff.1 silent)
  rw [loadTimeout, hsilent, Environment.withSetting, Setting.variableName,
    Environment.setting?_set_self filled bare]

theorem loadTimeout_option (n : UInt64) :
    loadTimeout { o with timeoutSecs := some n } env =
      if n = 0 then .error (.zeroTimeout .option) else .ok n := rfl

/-- A time limit above zero that an option gives is the one that its variable gives. -/
theorem exists_give_withTimeout {n : UInt64} (silent : o.gives .timeoutSecs = false)
    (filled : ∃ c ∈ text.toList, Blank.isBlank c = false) (bare : Blank.TrimsTo text text)
    (denotes : Decimal.Denotes text n.toNat) (positive : 0 < n.toNat) :
    ∃ o', o.give .timeoutSecs (Utf8.encode text) = .ok o' ∧
      loadConfig o' env = loadConfig o (env.withSetting .timeoutSecs text) := by
  have hoption : loadTimeout { o with timeoutSecs := some n } env = .ok n := by
    rw [loadTimeout_option, ← numberTimeout_iff]
    exact .positive positive
  have hvariable : loadTimeout o (env.withSetting .timeoutSecs text) = .ok n := by
    rw [loadTimeout_withSetting silent filled bare, parseTimeout_eq_ok_iff]
    exact ⟨denotes, positive⟩
  exact ⟨_, give_eq_ok_iff.2 (.timeoutSecs denotes),
    loadConfig_congr loadToken_withSetting.symm
      (loadSubdomain_withSetting_of_ne (by decide)).symm
      (loadEndpoints_withSetting_of_ne (by decide)).symm (hoption.trans hvariable.symm)
      (loadPath_withSetting_of_ne (by decide)).symm
      (loadPath_withSetting_of_ne (by decide)).symm⟩

/-- An option gives the same time limits. -/
theorem give_loadTimeout_eq_ok_iff {n : UInt64} :
    (∃ o', o.give .timeoutSecs (Utf8.encode text) = .ok o' ∧ loadTimeout o' env = .ok n) ↔
      Decimal.Denotes text n.toNat ∧ 0 < n.toNat := by
  constructor
  · rintro ⟨o', hgive, hload⟩
    obtain ⟨secs, hread, rfl⟩ := map_eq_ok_iff.1 hgive
    obtain ⟨text', hsame, hdenotes⟩ := readNumber_eq_ok_iff.1 hread
    obtain rfl := Utf8.encode_inj.1 hsame
    rw [loadTimeout_option, ← numberTimeout_iff] at hload
    cases hload with
    | positive hpositive => exact ⟨hdenotes, hpositive⟩
  · rintro ⟨hdenotes, hpositive⟩
    refine ⟨_, give_eq_ok_iff.2 (.timeoutSecs hdenotes), ?_⟩
    rw [loadTimeout_option, ← numberTimeout_iff]
    exact .positive hpositive

end Variables

/-! ## Runs -/

section Runs

variable {o o' : Overrides} {world : World} {s : Setting} {text : String} {args : List Bytes}

/-- A run depends on options and variables by its settings only. -/
theorem run_congr {env : Environment}
    (h : loadConfig o' world.environment = loadConfig o env) :
    run o' world = run o { world with environment := env } := by
  rw [run, run, runWith, runWith, h]

/-- A time limit that is not taken keeps a run from starting. -/
theorem refused_of_loadTimeout {fault : SettingFault}
    (h : loadTimeout o world.environment = .error fault) :
    Refused world.session (.ok (run o world)) := by
  cases hload : loadSettings o world.environment with
  | ok config =>
    have htimeout := (loadSettings_eq_ok_iff.1 hload).2.2.2.1
    rw [h] at htimeout
    cases htimeout
  | error first =>
    have hconfig := loadConfig_eq_error_iff.2 ⟨first, hload, rfl⟩
    rw [run, runWith, hconfig]
    exact .settings rfl

theorem runArguments_flag (accepted : parseArguments args = .ok o) (silent : o.gives s = false)
    (v : Bytes) :
    runArguments (s.flag v :: args) world = (o.give s v).map fun o' => run o' world := by
  rw [runArguments, parseArguments_flag accepted silent]

theorem runArguments_of_ok (accepted : parseArguments args = .ok o) :
    runArguments args world = .ok (run o world) := by
  rw [runArguments, accepted]
  rfl

theorem refused_of_read {fault : Decimal.Fault} {session : Session}
    (hread : Decimal.read text = .error fault) :
    Refused session ((o.give .timeoutSecs (Utf8.encode text)).map fun o' => run o' world) := by
  cases hgive : o.give .timeoutSecs (Utf8.encode text) with
  | error stop => exact .arguments (give_eq_error hgive o).2
  | ok o' =>
    obtain ⟨secs, hnumber, -⟩ := map_eq_ok_iff.1 hgive
    obtain ⟨text', hsame, hdenotes⟩ := readNumber_eq_ok_iff.1 hnumber
    rw [Utf8.encode_inj.1 hsame, Decimal.read_eq_ok_iff.2 hdenotes] at hread
    cases hread

/-- **Option and variable lead to the same run**, or neither leads to one. -/
theorem runArguments_or_refused (accepted : parseArguments args = .ok o)
    (silent : o.gives s = false) (filled : ∃ c ∈ text.toList, Blank.isBlank c = false)
    (bare : s.isPath = false → Blank.TrimsTo text text) :
    runArguments (s.flag (Utf8.encode text) :: args) world =
        runArguments args (world.withSetting s text) ∨
      Refused world.session (runArguments (s.flag (Utf8.encode text) :: args) world) ∧
        Refused world.session (runArguments args (world.withSetting s text)) := by
  rw [runArguments_flag accepted silent, runArguments_of_ok accepted]
  by_cases hs : s = .timeoutSecs
  · subst hs
    have hvariable : loadTimeout o (world.withSetting .timeoutSecs text).environment =
        parseTimeout text := loadTimeout_withSetting silent filled (bare rfl)
    cases hread : Decimal.read text with
    | error fault =>
      -- Neither reader takes the text.
      rw [parseTimeout, hread] at hvariable
      exact .inr ⟨refused_of_read hread, refused_of_loadTimeout hvariable⟩
    | ok secs =>
      have hdenotes := Decimal.read_eq_ok_iff.1 hread
      by_cases hzero : secs = 0
      · -- Both take the number, and no run starts with it.
        subst hzero
        rw [parseTimeout, hread] at hvariable
        rw [give_eq_ok_iff.2 (.timeoutSecs hdenotes)]
        exact .inr ⟨refused_of_loadTimeout rfl, refused_of_loadTimeout hvariable⟩
      · have hpositive : 0 < secs.toNat :=
          Nat.pos_of_ne_zero fun h => hzero (uint64_eq_zero_iff.2 h)
        obtain ⟨o', hgive, hload⟩ :=
          exists_give_withTimeout silent filled (bare rfl) hdenotes hpositive
        rw [hgive]
        exact .inl (congrArg Except.ok (run_congr hload))
  · obtain ⟨o', hgive, hload⟩ := exists_give_withSetting silent hs filled bare
    rw [hgive]
    exact .inl (congrArg Except.ok (run_congr hload))

end Runs

/-- **An option and its variable mean the same.**  In front of arguments that do not give it, an
option leads to the same run as its variable, or both keep a run from starting.  Both readers of
the time limit take the texts of the numbers above zero and below 2 ^ 64, for these numbers. -/
theorem runArguments_flag_variable {args : List Bytes} {o : Overrides} {setting : Setting}
    {text : String} (world : World) (accepted : parseArguments args = .ok o)
    (silent : o.gives setting = false) (filled : ∃ c ∈ text.toList, Blank.isBlank c = false)
    (bare : setting.isPath = false → Blank.TrimsTo text text) :
    (runArguments (setting.flag (Utf8.encode text) :: args) world =
        runArguments args (world.withSetting setting text) ∨
      Refused world.session (runArguments (setting.flag (Utf8.encode text) :: args) world) ∧
        Refused world.session (runArguments args (world.withSetting setting text))) ∧
    (setting = .timeoutSecs → ∀ secs : UInt64,
      ((∃ o', parseArguments (setting.flag (Utf8.encode text) :: args) = .ok o' ∧
          loadTimeout o' world.environment = .ok secs) ↔
        Decimal.Denotes text secs.toNat ∧ 0 < secs.toNat) ∧
      (loadTimeout o (world.withSetting setting text).environment = .ok secs ↔
        Decimal.Denotes text secs.toNat ∧ 0 < secs.toNat)) := by
  refine ⟨runArguments_or_refused accepted silent filled bare, ?_⟩
  rintro rfl secs
  have hvariable : loadTimeout o (world.withSetting .timeoutSecs text).environment =
      parseTimeout text := loadTimeout_withSetting silent filled (bare rfl)
  rw [parseArguments_flag accepted silent, hvariable]
  exact ⟨give_loadTimeout_eq_ok_iff, parseTimeout_eq_ok_iff⟩

/-- A sign and zeros in front of a time limit, after which another setting is given. -/
theorem runArguments_timeout_padded :
    let world : World :=
      ⟨Environment.empty.set Variable.apiToken (Utf8.encode "token"), ⟨[], []⟩, .ofAnswers true []⟩
    let args := [Utf8.encode "--sbom", Utf8.encode "a=b.json"]
    let o : Overrides := { sbomFile := some (Utf8.encode "a=b.json") }
    let flag := Setting.flag .timeoutSecs (Utf8.encode "+007")
    parseArguments args = .ok o ∧
    (runArguments (flag :: args) world =
        runArguments args (world.withSetting .timeoutSecs "+007") ∨
      Refused world.session (runArguments (flag :: args) world) ∧
        Refused world.session (runArguments args (world.withSetting .timeoutSecs "+007"))) ∧
    (∃ o', parseArguments (flag :: args) = .ok o' ∧ loadTimeout o' world.environment = .ok 7) ∧
    loadTimeout o (world.withSetting .timeoutSecs "+007").environment = .ok 7 := by
  intro world args o flag
  have haccepted : parseArguments args = .ok o := by cbv
  have hbare : Blank.TrimsTo "+007" "+007" := Blank.trimsTo_iff.2 (by decide)
  have hseven : Decimal.Denotes "+007" (7 : UInt64).toNat ∧ 0 < (7 : UInt64).toNat :=
    ⟨Decimal.read_eq_ok_iff.1 rfl, by decide⟩
  have hsilent : o.gives .timeoutSecs = false := rfl
  have hfilled : ∃ c ∈ "+007".toList, Blank.isBlank c = false := ⟨'+', by decide, by decide⟩
  obtain ⟨hrun, hsecs⟩ :=
    runArguments_flag_variable world haccepted hsilent hfilled fun _ => hbare
  exact ⟨haccepted, hrun, (hsecs rfl 7).1.2 hseven, (hsecs rfl 7).2.2 hseven⟩

end ManifestPublish
