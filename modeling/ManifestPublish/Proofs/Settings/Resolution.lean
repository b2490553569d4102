import ManifestPublish.Proofs.Settings.Subdomain
import ManifestPublish.Proofs.Text.Blank
import ManifestPublish.Proofs.Text.Decimal
import ManifestPublish.Proofs.Text.Utf8

/-!
# What the settings of a run are

The settings of a run, said without the order in which they are looked up.

* `Environment.Holds` : a variable is set to a text that is not blank
* `Resolves` : what a setting is, by its option, its variable or its default
* `Overrides.Subdomain`, `Overrides.BaseUrl`, `Overrides.Timeout`, `Overrides.Path` : what the
  settings are
* `Accepted` : nothing is wrong with the settings
* `Resolution` : these are the settings of a run
* `FirstFault` : this is wrong with the settings, and what is looked at before it is not

Principal result: `loadConfig_resolution`.
-/

set_option autoImplicit false

namespace ManifestPublish

/-! ## Settings one by one -/

/-- A variable is set to a text that is not blank. -/
structure Environment.Holds (env : Environment) (name text : String) : Prop where
  value : env.get? name = some (Utf8.encode text)
  filled : ∃ c ∈ text.toList, Blank.isBlank c = false

/-- What a setting is: what its option says, else what its variable says, else the default. -/
inductive Resolves {α β : Type} (option : Option α) (env : Environment) (name : String)
    (fromOption : α → β → Prop) (fromText : String → β → Prop) (fallback : β) : β → Prop where
  | ofOption {a : α} {b : β} (given : option = some a) (said : fromOption a b) :
      Resolves option env name fromOption fromText fallback b
  | ofVariable {text : String} {b : β} (silent : option = none) (held : env.Holds name text)
      (said : fromText text b) : Resolves option env name fromOption fromText fallback b
  | ofDefault (silent : option = none) (unheld : ∀ text, ¬ env.Holds name text) :
      Resolves option env name fromOption fromText fallback fallback

/-- What the number of an option says of the time limit. -/
inductive NumberTimeout : UInt64 → Except SettingFault UInt64 → Prop where
  | positive {n : UInt64} (h : 0 < n.toNat) : NumberTimeout n (.ok n)
  | zero : NumberTimeout 0 (.error (.zeroTimeout .option))

/-- What a text without blanks at its ends says of the time limit. -/
inductive TextTimeout (s : String) : Except SettingFault UInt64 → Prop where
  | positive {n : UInt64} (denotes : Decimal.Denotes s n.toNat) (h : 0 < n.toNat) :
      TextTimeout s (.ok n)
  | zero (denotes : Decimal.Denotes s 0) : TextTimeout s (.error (.zeroTimeout .variable))
  | malformed {fault : Decimal.Fault} (h : Decimal.Faulty s fault) :
      TextTimeout s (.error (.malformedTimeout fault))

namespace Overrides

variable (o : Overrides) (env : Environment)

/-- What the workspace is. -/
def Subdomain : String → Prop :=
  Resolves o.subdomain env Variable.subdomain Eq Blank.TrimsTo Default.subdomain

/-- What the base URL is, if there is one. -/
def BaseUrl : Option String → Prop :=
  Resolves o.baseUrl env Variable.baseUrl (fun url found => found = some url)
    (fun text found => ∃ url, Blank.TrimsTo text url ∧ found = some url) none

/-- What the time limit is, or what is wrong with it. -/
def Timeout : Except SettingFault UInt64 → Prop :=
  Resolves o.timeoutSecs env Variable.timeoutSecs NumberTimeout
    (fun text found => ∃ s, Blank.TrimsTo text s ∧ TextTimeout s found) (.ok Default.timeoutSecs)

/-- What a path is.  The blanks around it are a part of it. -/
def Path (given : Option Bytes) (name fallback : String) : Bytes → Prop :=
  Resolves given env name Eq (fun text path => path = Utf8.encode text) (Utf8.encode fallback)

end Overrides

/-! ## All settings -/

/-- A text starts like the URL of a web service. -/
def IsWebUrl (url : String) : Prop := ∃ rest, url = "https://" ++ rest ∨ url = "http://" ++ rest

/-- The endpoints under a base URL if there is one, else those of a workspace. -/
def endpointsFor (subdomain : String) : Option String → Endpoints
  | some url => .ofBaseUrl url
  | none => .ofSubdomain subdomain

/-- Nothing is wrong with the settings.  The workspace counts even if a base URL takes its place. -/
structure Accepted (o : Overrides) (env : Environment) : Prop where
  token : ∃ text, env.Holds Variable.apiToken text
  subdomain : ∃ subdomain, o.Subdomain env subdomain ∧ subdomain.toList ∈ Subdomain.names
  baseUrl : ∀ url, o.BaseUrl env (some url) → IsWebUrl url
  timeout : ∃ secs, o.Timeout env (.ok secs)

/-- These are the settings of a run. -/
structure Resolution (o : Overrides) (env : Environment) (config : PublishConfig) : Prop where
  accepted : Accepted o env
  token : ∃ text, env.Holds Variable.apiToken text ∧
    Blank.TrimsTo text config.credentials.apiToken
  subdomain : o.Subdomain env config.credentials.subdomain
  endpoints : ∃ baseUrl, o.BaseUrl env baseUrl ∧
    config.endpoints = endpointsFor config.credentials.subdomain baseUrl
  timeout : o.Timeout env (.ok config.timeoutSecs)
  manifestFile : Overrides.Path env o.manifestFile Variable.manifestFile Default.manifestFile
    config.manifestFile
  sbomFile : Overrides.Path env o.sbomFile Variable.sbomFile Default.sbomFile config.sbomFile

/-- This is wrong with the settings, and what is looked at before it is not. -/
inductive FirstFault (o : Overrides) (env : Environment) : SettingFault → Prop where
  | token (unheld : ∀ text, ¬ env.Holds Variable.apiToken text) : FirstFault o env .missingToken
  | subdomain {text subdomain : String} (token : env.Holds Variable.apiToken text)
      (found : o.Subdomain env subdomain) (wrong : subdomain.toList ∉ Subdomain.names) :
      FirstFault o env (.invalidSubdomain subdomain)
  | baseUrl {text subdomain url : String} (token : env.Holds Variable.apiToken text)
      (named : o.Subdomain env subdomain) (right : subdomain.toList ∈ Subdomain.names)
      (found : o.BaseUrl env (some url)) (wrong : ¬ IsWebUrl url) :
      FirstFault o env (.invalidBaseUrl url)
  | timeout {text subdomain : String} {fault : SettingFault}
      (token : env.Holds Variable.apiToken text) (named : o.Subdomain env subdomain)
      (right : subdomain.toList ∈ Subdomain.names)
      (web : ∀ url, o.BaseUrl env (some url) → IsWebUrl url)
      (wrong : o.Timeout env (.error fault)) : FirstFault o env fault

/-! ## What is looked up -/

section Lookup

variable {o : Overrides} {env : Environment}

theorem Environment.filled?_eq_some_iff {name text : String} :
    env.filled? name = some text ↔ env.Holds name text := by
  rw [filled?, Option.filter_eq_some_iff, text?, Option.bind_eq_some_iff]
  constructor
  · rintro ⟨⟨bytes, hbytes, hdecode⟩, hfilled⟩
    rw [Utf8.decode?_eq_some_iff] at hdecode
    subst hdecode
    exact ⟨hbytes, by simpa [Blank.isBlankText] using hfilled⟩
  · rintro ⟨hvalue, hfilled⟩
    exact ⟨⟨_, hvalue, Utf8.decode?_encode text⟩, by simpa [Blank.isBlankText] using hfilled⟩

theorem Environment.filled?_eq_none_iff {name : String} :
    env.filled? name = none ↔ ∀ text, ¬ env.Holds name text := by
  simp only [← filled?_eq_some_iff, Option.eq_none_iff_forall_ne_some, ne_eq]

theorem resolves_iff {α β : Type} {option : Option α} {name : String}
    {fromOption : α → β → Prop} {fromText : String → β → Prop} {fallback b : β} :
    Resolves option env name fromOption fromText fallback b ↔
      match option, env.filled? name with
      | some a, _ => fromOption a b
      | none, some text => fromText text b
      | none, none => b = fallback := by
  constructor
  · intro h
    cases h with
    | ofOption given said =>
      rw [given]
      exact said
    | ofVariable silent held said =>
      rw [silent, Environment.filled?_eq_some_iff.2 held]
      exact said
    | ofDefault silent unheld =>
      rw [silent, Environment.filled?_eq_none_iff.2 unheld]
  · cases option with
    | some a => exact fun said => .ofOption rfl said
    | none =>
      cases hfilled : env.filled? name with
      | some text =>
        exact fun said => .ofVariable rfl (Environment.filled?_eq_some_iff.1 hfilled) said
      | none =>
        rintro rfl
        exact .ofDefault rfl (Environment.filled?_eq_none_iff.1 hfilled)

theorem setting?_eq_some_iff {name value : String} :
    env.setting? name = some value ↔ ∃ text, env.Holds name text ∧ Blank.TrimsTo text value := by
  rw [Environment.setting?, Option.map_eq_some_iff]
  simp only [Environment.filled?_eq_some_iff, Blank.trimsTo_iff, eq_comm (a := value)]

theorem loadToken_eq_ok_iff {token : String} :
    loadToken env = .ok token ↔
      ∃ text, env.Holds Variable.apiToken text ∧ Blank.TrimsTo text token := by
  rw [← setting?_eq_some_iff, loadToken]
  cases env.setting? Variable.apiToken <;> simp

theorem loadToken_eq_error_iff {fault : SettingFault} :
    loadToken env = .error fault ↔
      (∀ text, ¬ env.Holds Variable.apiToken text) ∧ fault = .missingToken := by
  rw [← Environment.filled?_eq_none_iff, loadToken, Environment.setting?]
  cases env.filled? Variable.apiToken <;> simp [eq_comm]

theorem subdomain_iff {subdomain : String} :
    o.Subdomain env subdomain ↔
      (o.subdomain <|> env.setting? Variable.subdomain).getD Default.subdomain = subdomain := by
  rw [Overrides.Subdomain, resolves_iff, Environment.setting?]
  cases o.subdomain <;> cases env.filled? Variable.subdomain <;> simp [Blank.trimsTo_iff, eq_comm]

theorem baseUrl_iff {found : Option String} :
    o.BaseUrl env found ↔ (o.baseUrl <|> env.setting? Variable.baseUrl) = found := by
  rw [Overrides.BaseUrl, resolves_iff, Environment.setting?]
  cases o.baseUrl <;> cases env.filled? Variable.baseUrl <;> simp [Blank.trimsTo_iff, eq_comm]

theorem path_iff {given : Option Bytes} {name fallback : String} {path : Bytes} :
    Overrides.Path env given name fallback path ↔ loadPath given env name fallback = path := by
  rw [Overrides.Path, resolves_iff, loadPath]
  cases given <;> cases env.filled? name <;> simp [eq_comm]

theorem uint64_eq_zero_iff {n : UInt64} : n = 0 ↔ n.toNat = 0 :=
  UInt64.toNat_inj.symm

theorem numberTimeout_iff {n : UInt64} {found : Except SettingFault UInt64} :
    NumberTimeout n found ↔
      (if n = 0 then .error (.zeroTimeout .option) else .ok n) = found := by
  constructor
  · intro h
    cases h with
    | positive hpositive =>
      have hn : n ≠ 0 := fun hzero => Nat.ne_of_gt hpositive (uint64_eq_zero_iff.1 hzero)
      rw [if_neg hn]
    | zero => rfl
  · rintro rfl
    split
    · rename_i hn
      subst hn
      exact .zero
    · rename_i hn
      exact .positive (Nat.pos_of_ne_zero fun hzero => hn (uint64_eq_zero_iff.2 hzero))

theorem textTimeout_iff {s : String} {found : Except SettingFault UInt64} :
    TextTimeout s found ↔ parseTimeout s = found := by
  unfold parseTimeout
  constructor
  · intro h
    cases h with
    | @positive n denotes hpositive =>
      have hn : n ≠ 0 := fun hzero => Nat.ne_of_gt hpositive (uint64_eq_zero_iff.1 hzero)
      rw [Decimal.read_eq_ok_iff.2 denotes]
      exact if_neg hn
    | zero denotes =>
      have hread : Decimal.read s = .ok 0 := Decimal.read_eq_ok_iff.2 denotes
      rw [hread]
      rfl
    | malformed hfaulty => rw [Decimal.read_eq_error_iff.2 hfaulty]
  · rintro rfl
    cases hread : Decimal.read s with
    | error fault => exact .malformed (Decimal.read_eq_error_iff.1 hread)
    | ok n =>
      have hdenotes := Decimal.read_eq_ok_iff.1 hread
      by_cases hn : n = 0
      · subst hn
        exact .zero hdenotes
      · simp only [hn, if_false]
        exact .positive hdenotes (Nat.pos_of_ne_zero fun hzero => hn (uint64_eq_zero_iff.2 hzero))

theorem parseTimeout_eq_ok_iff {s : String} {n : UInt64} :
    parseTimeout s = .ok n ↔ Decimal.Denotes s n.toNat ∧ 0 < n.toNat := by
  rw [← textTimeout_iff]
  constructor
  · rintro ⟨hdenotes, hpositive⟩
    exact ⟨hdenotes, hpositive⟩
  · rintro ⟨hdenotes, hpositive⟩
    exact .positive hdenotes hpositive

theorem timeout_iff {found : Except SettingFault UInt64} :
    o.Timeout env found ↔ loadTimeout o env = found := by
  rw [Overrides.Timeout, resolves_iff, loadTimeout, Environment.setting?]
  cases o.timeoutSecs with
  | some n => exact numberTimeout_iff
  | none =>
    cases env.filled? Variable.timeoutSecs with
    | none => exact eq_comm
    | some text => simp [Blank.trimsTo_iff, textTimeout_iff]

theorem hasWebScheme_iff {url : String} : hasWebScheme url ↔ IsWebUrl url := by
  have hpre : ∀ scheme : String,
      scheme.toList.isPrefixOf url.toList ↔ ∃ rest, url = scheme ++ rest := by
    intro scheme
    rw [List.isPrefixOf_iff_prefix]
    constructor
    · rintro ⟨rest, hrest⟩
      refine ⟨String.ofList rest, String.toList_inj.1 ?_⟩
      rw [String.toList_append, String.toList_ofList, hrest]
    · rintro ⟨rest, rfl⟩
      rw [String.toList_append]
      exact List.prefix_append _ _
  rw [hasWebScheme, Bool.or_eq_true, hpre, hpre, ← exists_or, IsWebUrl]

end Lookup

/-! ## The order of the checks -/

section Load

variable {o : Overrides} {env : Environment}

theorem loadSubdomain_eq_ok_iff {subdomain : String} :
    loadSubdomain o env = .ok subdomain ↔
      o.Subdomain env subdomain ∧ subdomain.toList ∈ Subdomain.names := by
  rw [subdomain_iff, ← Subdomain.isSubdomain_iff, loadSubdomain]
  split
  · rename_i hname
    constructor
    · rintro ⟨⟩
      exact ⟨rfl, hname⟩
    · rintro ⟨rfl, -⟩
      rfl
  · rename_i hname
    constructor
    · rintro ⟨⟩
    · rintro ⟨rfl, hname'⟩
      exact absurd hname' hname

theorem loadSubdomain_eq_error_iff {fault : SettingFault} :
    loadSubdomain o env = .error fault ↔
      ∃ subdomain, o.Subdomain env subdomain ∧ subdomain.toList ∉ Subdomain.names ∧
        fault = .invalidSubdomain subdomain := by
  simp only [subdomain_iff, ← Subdomain.isSubdomain_iff, loadSubdomain]
  split
  · rename_i hname
    constructor
    · rintro ⟨⟩
    · rintro ⟨_, rfl, hname', -⟩
      exact absurd hname hname'
  · rename_i hname
    constructor
    · rintro ⟨⟩
      exact ⟨_, rfl, hname, rfl⟩
    · rintro ⟨_, rfl, -, rfl⟩
      rfl

theorem loadEndpoints_eq_ok_iff {subdomain : String} {endpoints : Endpoints} :
    loadEndpoints o env subdomain = .ok endpoints ↔
      (∀ url, o.BaseUrl env (some url) → IsWebUrl url) ∧
        ∃ baseUrl, o.BaseUrl env baseUrl ∧ endpoints = endpointsFor subdomain baseUrl := by
  simp only [baseUrl_iff, ← hasWebScheme_iff, loadEndpoints]
  cases (o.baseUrl <|> env.setting? Variable.baseUrl) with
  | none =>
    constructor
    · rintro ⟨⟩
      exact ⟨by rintro _ ⟨⟩, _, rfl, rfl⟩
    · rintro ⟨-, _, rfl, rfl⟩
      rfl
  | some url =>
    by_cases hweb : hasWebScheme url
    · simp only [hweb, if_true]
      constructor
      · rintro ⟨⟩
        refine ⟨?_, _, rfl, rfl⟩
        rintro _ ⟨⟩
        exact hweb
      · rintro ⟨-, _, rfl, rfl⟩
        rfl
    · simp only [hweb]
      constructor
      · rintro ⟨⟩
      · rintro ⟨hall, -⟩
        exact absurd (hall url rfl) hweb

theorem loadEndpoints_eq_error_iff {subdomain : String} {fault : SettingFault} :
    loadEndpoints o env subdomain = .error fault ↔
      ∃ url, o.BaseUrl env (some url) ∧ ¬ IsWebUrl url ∧ fault = .invalidBaseUrl url := by
  simp only [baseUrl_iff, ← hasWebScheme_iff, loadEndpoints]
  cases (o.baseUrl <|> env.setting? Variable.baseUrl) with
  | none =>
    constructor
    · rintro ⟨⟩
    · rintro ⟨_, ⟨⟩, -⟩
  | some url =>
    by_cases hweb : hasWebScheme url
    · simp only [hweb, if_true]
      constructor
      · rintro ⟨⟩
      · rintro ⟨_, ⟨⟩, hnot, -⟩
        exact absurd hweb hnot
    · simp only [hweb]
      constructor
      · rintro ⟨⟩
        exact ⟨url, rfl, hweb, rfl⟩
      · rintro ⟨_, ⟨⟩, -, rfl⟩
        rfl

theorem loadSettings_eq_ok_iff {config : PublishConfig} :
    loadSettings o env = .ok config ↔
      loadToken env = .ok config.credentials.apiToken ∧
      loadSubdomain o env = .ok config.credentials.subdomain ∧
      loadEndpoints o env config.credentials.subdomain = .ok config.endpoints ∧
      loadTimeout o env = .ok config.timeoutSecs ∧
      loadPath o.manifestFile env Variable.manifestFile Default.manifestFile =
        config.manifestFile ∧
      loadPath o.sbomFile env Variable.sbomFile Default.sbomFile = config.sbomFile := by
  obtain ⟨⟨token, subdomain⟩, endpoints, manifestFile, sbomFile, timeoutSecs⟩ := config
  unfold loadSettings
  cases htoken : loadToken env with
  | error fault => simp [bind, Except.bind]
  | ok token' =>
    cases hsubdomain : loadSubdomain o env with
    | error fault => simp [bind, Except.bind]
    | ok subdomain' =>
      cases hendpoints : loadEndpoints o env subdomain' with
      | error fault =>
        simp only [bind, Except.bind, hendpoints]
        constructor
        · rintro ⟨⟩
        · rintro ⟨-, ⟨⟩, hok, -⟩
          rw [hendpoints] at hok
          cases hok
      | ok endpoints' =>
        cases htimeout : loadTimeout o env with
        | error fault => simp [bind, Except.bind, hendpoints]
        | ok secs =>
          simp only [bind, Except.bind, hendpoints, pure, Except.pure]
          constructor
          · rintro ⟨⟩
            exact ⟨rfl, rfl, hendpoints, rfl, rfl, rfl⟩
          · rintro ⟨⟨⟩, ⟨⟩, hok, ⟨⟩, rfl, rfl⟩
            rw [hendpoints] at hok
            cases hok
            rfl

theorem loadSettings_eq_error_iff {fault : SettingFault} :
    loadSettings o env = .error fault ↔
      loadToken env = .error fault ∨
      ∃ token, loadToken env = .ok token ∧ (loadSubdomain o env = .error fault ∨
      ∃ subdomain, loadSubdomain o env = .ok subdomain ∧
        (loadEndpoints o env subdomain = .error fault ∨
      ∃ endpoints, loadEndpoints o env subdomain = .ok endpoints ∧
        loadTimeout o env = .error fault)) := by
  unfold loadSettings
  cases htoken : loadToken env with
  | error fault => simp [bind, Except.bind]
  | ok token =>
    cases hsubdomain : loadSubdomain o env with
    | error fault => simp [bind, Except.bind]
    | ok subdomain =>
      cases hendpoints : loadEndpoints o env subdomain with
      | error fault => simp [bind, Except.bind, hendpoints]
      | ok endpoints =>
        cases htimeout : loadTimeout o env with
        | error fault => simp [bind, Except.bind, hendpoints]
        | ok secs => simp [bind, Except.bind, hendpoints, pure, Except.pure]

theorem loadConfig_eq_ok_iff {config : PublishConfig} :
    loadConfig o env = .ok config ↔ loadSettings o env = .ok config := by
  constructor
  · exact loadConfig_ok
  · intro h
    rw [loadConfig, h]
    rfl

theorem loadConfig_eq_error_iff {e : PublishError} :
    loadConfig o env = .error e ↔
      ∃ fault, loadSettings o env = .error fault ∧ e = .configuration fault := by
  rw [loadConfig]
  cases loadSettings o env with
  | error fault => simp [Except.mapError, eq_comm]
  | ok config => simp [Except.mapError]

/-- What is looked up for a run are its settings. -/
theorem loadSettings_eq_ok_iff_resolution {config : PublishConfig} :
    loadSettings o env = .ok config ↔ Resolution o env config := by
  rw [loadSettings_eq_ok_iff, loadToken_eq_ok_iff, loadSubdomain_eq_ok_iff,
    loadEndpoints_eq_ok_iff, ← timeout_iff, ← path_iff, ← path_iff]
  constructor
  · rintro ⟨⟨text, hheld, htoken⟩, ⟨hsubdomain, hname⟩, ⟨hweb, hbase⟩, htimeout, hmanifest, hsbom⟩
    exact ⟨⟨⟨text, hheld⟩, ⟨_, hsubdomain, hname⟩, hweb, ⟨_, htimeout⟩⟩, ⟨text, hheld, htoken⟩,
      hsubdomain, hbase, htimeout, hmanifest, hsbom⟩
  · rintro ⟨⟨_, ⟨subdomain, hsubdomain, hname⟩, hweb, _⟩, htoken, hnamed, hbase, htimeout,
      hmanifest, hsbom⟩
    -- There is only one workspace that the settings can name.
    have hsame : subdomain = config.credentials.subdomain :=
      (subdomain_iff.1 hsubdomain).symm.trans (subdomain_iff.1 hnamed)
    rw [hsame] at hname
    exact ⟨htoken, ⟨hnamed, hname⟩, ⟨hweb, hbase⟩, htimeout, hmanifest, hsbom⟩

/-- What is told of settings is the first fault in them. -/
theorem loadSettings_eq_error_iff_firstFault {fault : SettingFault} :
    loadSettings o env = .error fault ↔ FirstFault o env fault := by
  simp only [loadSettings_eq_error_iff, loadToken_eq_ok_iff, loadToken_eq_error_iff,
    loadSubdomain_eq_ok_iff, loadSubdomain_eq_error_iff, loadEndpoints_eq_ok_iff,
    loadEndpoints_eq_error_iff, ← timeout_iff]
  constructor
  · rintro (⟨hunheld, rfl⟩ | ⟨token, ⟨text, hheld, -⟩, ⟨subdomain, hfound, hwrong, rfl⟩ |
      ⟨subdomain, ⟨hnamed, hname⟩, ⟨url, hurl, hwrong, rfl⟩ |
        ⟨endpoints, ⟨hweb, -⟩, htimeout⟩⟩⟩)
    · exact .token hunheld
    · exact .subdomain hheld hfound hwrong
    · exact .baseUrl hheld hnamed hname hurl hwrong
    · exact .timeout hheld hnamed hname hweb htimeout
  · intro h
    cases h with
    | token hunheld => exact .inl ⟨hunheld, rfl⟩
    | subdomain hheld hfound hwrong =>
      exact .inr ⟨_, ⟨_, hheld, Blank.trimsTo_trim _⟩, .inl ⟨_, hfound, hwrong, rfl⟩⟩
    | baseUrl hheld hnamed hname hurl hwrong =>
      exact .inr ⟨_, ⟨_, hheld, Blank.trimsTo_trim _⟩,
        .inr ⟨_, ⟨hnamed, hname⟩, .inl ⟨_, hurl, hwrong, rfl⟩⟩⟩
    | timeout hheld hnamed hname hweb hwrong =>
      exact .inr ⟨_, ⟨_, hheld, Blank.trimsTo_trim _⟩, .inr ⟨_, ⟨hnamed, hname⟩,
        .inr ⟨_, ⟨hweb, _, baseUrl_iff.2 rfl, rfl⟩, hwrong⟩⟩⟩

theorem exists_resolution_iff : (∃ config, Resolution o env config) ↔ Accepted o env := by
  constructor
  · rintro ⟨config, h⟩
    exact h.accepted
  · intro h
    obtain ⟨⟨text, hheld⟩, ⟨subdomain, hnamed, hname⟩, hweb, ⟨secs, htimeout⟩⟩ := h
    exact ⟨⟨⟨Blank.trim text, subdomain⟩, endpointsFor subdomain _, _, _, secs⟩,
      ⟨⟨text, hheld⟩, ⟨subdomain, hnamed, hname⟩, hweb, ⟨secs, htimeout⟩⟩,
      ⟨text, hheld, Blank.trimsTo_trim text⟩, hnamed, ⟨_, baseUrl_iff.2 rfl, rfl⟩, htimeout,
      path_iff.2 rfl, path_iff.2 rfl⟩

end Load

/-- **The settings of a run.**  Each comes from its option, else from its variable, else from its
default.  A run has settings exactly if nothing is wrong with them, and these are they; else the
first fault is told, of token, workspace, base URL and time limit in this order. -/
theorem loadConfig_resolution (o : Overrides) (env : Environment) :
    (∀ config, loadConfig o env = .ok config ↔ Resolution o env config) ∧
    (∀ e, loadConfig o env = .error e ↔
      ∃ fault, FirstFault o env fault ∧ e = .configuration fault) ∧
    ((∃ config, loadConfig o env = .ok config) ↔ Accepted o env) := by
  refine ⟨fun config => ?_, fun e => ?_, ?_⟩
  · rw [loadConfig_eq_ok_iff, loadSettings_eq_ok_iff_resolution]
  · simp only [loadConfig_eq_error_iff, loadSettings_eq_error_iff_firstFault]
  · simp only [loadConfig_eq_ok_iff, loadSettings_eq_ok_iff_resolution, exists_resolution_iff]

end ManifestPublish
