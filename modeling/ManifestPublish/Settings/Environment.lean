import ManifestPublish.Text.Blank
import ManifestPublish.Text.Utf8

/-!
# Environment variables

* `Environment` : names with their values, which are byte strings
* `Environment.get?`, `Environment.set`, `Environment.unset`
* `Environment.text?` : a value that is UTF-8
* `Environment.filled?` : a value that is UTF-8 and not blank
* `Environment.setting?` : such a value without the blanks around it
-/

set_option autoImplicit false

namespace ManifestPublish

/-- Names with their values; of two values for one name the first counts. -/
structure Environment where
  bindings : List (String × Bytes)
  deriving DecidableEq, Repr

namespace Environment

def empty : Environment := ⟨[]⟩

def get? (env : Environment) (name : String) : Option Bytes :=
  (env.bindings.find? (·.1 = name)).map (·.2)

def unset (env : Environment) (name : String) : Environment :=
  ⟨env.bindings.filter (·.1 ≠ name)⟩

def set (env : Environment) (name : String) (value : Bytes) : Environment :=
  ⟨(name, value) :: (env.unset name).bindings⟩

/-- The value of a variable that is UTF-8. -/
def text? (env : Environment) (name : String) : Option String :=
  (env.get? name).bind Utf8.decode?

/-- `env_raw`, and `env_path` for paths: a value that is UTF-8 and not blank, as it stands. -/
def filled? (env : Environment) (name : String) : Option String :=
  (env.text? name).filter (!Blank.isBlankText ·)

/-- `env_var`: such a value without the blanks around it. -/
def setting? (env : Environment) (name : String) : Option String :=
  (env.filled? name).map Blank.trim

@[simp] theorem get?_set_self (env : Environment) (name : String) (value : Bytes) :
    (env.set name value).get? name = some value := by
  simp [get?, set]

theorem get?_set_of_ne {env : Environment} {name other : String} {value : Bytes}
    (h : other ≠ name) : (env.set name value).get? other = env.get? other := by
  rw [get?, get?, set, unset, List.find?_cons_of_neg (by simpa using Ne.symm h), List.find?_filter]
  congr 2
  funext b
  by_cases hb : b.1 = other
  · simp [hb, h]
  · simp [hb]

/-- No setting is blank. -/
theorem isBlankText_of_setting? {env : Environment} {name value : String}
    (h : env.setting? name = some value) : Blank.isBlankText value = false := by
  unfold setting? filled? at h
  obtain ⟨text, htext, rfl⟩ := Option.map_eq_some_iff.1 h
  obtain ⟨_, hfilled⟩ := Option.filter_eq_some_iff.1 htext
  rw [Blank.isBlankText_trim]
  simpa using hfilled

end Environment

end ManifestPublish
