import ManifestPublish.CommandLine.Program
import ManifestPublish.Proofs.Settings.Resolution
import ManifestPublish.Proofs.Text.Quoted

/-!
# What is told of wrong settings

Settings that are refused are told between quotes, so that they neither control the terminal nor can
be mistaken for others.

* `SettingFault.given?` : the value of a setting that is refused
* `SettingFault.plain` : the faults that are told without a value
* `IsLine` : a text on one line, without controls
* `IsOwn` : words of the program's own, without controls and quotes

Principal results: `SettingFault.isLine_message`, `SettingFault.quotation?_message`,
`SettingFault.eq_of_message_eq` and from them `loadConfig_complaint`.
-/

set_option autoImplicit false

namespace ManifestPublish

/-- The value of a workspace or a base URL that is refused. -/
def SettingFault.given? : SettingFault → Option String
  | .invalidSubdomain given => some given
  | .invalidBaseUrl given => some given
  | _ => none

/-- A text on one line: there are no controls in it. -/
def IsLine (text : String) : Prop := ∀ c ∈ text.toList, ¬ IsControl c

theorem isLine_append {a b : String} : IsLine (a ++ b) ↔ IsLine a ∧ IsLine b := by
  simp only [IsLine, String.toList_append, List.mem_append, or_imp, forall_and]

/-- Words of the program's own: there are neither controls nor quotes in them. -/
def IsOwn (text : String) : Prop := text.toList.all (fun c => ¬ IsControl c ∧ c ≠ '"') = true

instance (text : String) : Decidable (IsOwn text) :=
  inferInstanceAs (Decidable (text.toList.all (fun c => ¬ IsControl c ∧ c ≠ '"') = true))

theorem IsOwn.append {a b : String} (ha : IsOwn a) (hb : IsOwn b) : IsOwn (a ++ b) := by
  rw [IsOwn, String.toList_append, List.all_append, Bool.and_eq_true]
  exact ⟨ha, hb⟩

theorem IsOwn.isLine {text : String} (h : IsOwn text) : IsLine text :=
  fun c hc => (of_decide_eq_true (List.all_eq_true.1 h c hc)).1

theorem IsOwn.not_mem {text : String} (h : IsOwn text) : '"' ∉ text.toList :=
  fun hc => (of_decide_eq_true (List.all_eq_true.1 h '"' hc)).2 rfl

namespace SettingFault

variable {fault : SettingFault} {given : String}

theorem message_invalidSubdomain (given : String) :
    (PublishError.configuration (.invalidSubdomain given)).message =
      "configuration error: " ++ ("invalid subdomain " ++ Quoted.encode given ++
        ": expected lowercase letters, digits and hyphens") := rfl

theorem message_invalidBaseUrl (given : String) :
    (PublishError.configuration (.invalidBaseUrl given)).message =
      "configuration error: " ++ ("invalid base URL " ++ Quoted.encode given ++
        ": must start with http:// or https://") := rfl

/-- A value that is refused stands between quotes and own words. -/
theorem exists_message_eq (h : fault.given? = some given) :
    ∃ before after, (PublishError.configuration fault).message =
      before ++ Quoted.encode given ++ after ∧ IsOwn before ∧ IsOwn after := by
  cases fault with
  | invalidSubdomain given =>
    cases h
    refine ⟨"configuration error: " ++ "invalid subdomain ",
      ": expected lowercase letters, digits and hyphens", ?_, by decide, by decide⟩
    rw [message_invalidSubdomain]
    simp only [String.append_assoc]
  | invalidBaseUrl given =>
    cases h
    refine ⟨"configuration error: " ++ "invalid base URL ",
      ": must start with http:// or https://", ?_, by decide, by decide⟩
    rw [message_invalidBaseUrl]
    simp only [String.append_assoc]
  | _ => cases h

/-- The faults that are told without a value. -/
def plain : List SettingFault :=
  [.missingToken, .blankToken, .zeroTimeout .option, .zeroTimeout .variable,
    .malformedTimeout .empty, .malformedTimeout .invalidDigit, .malformedTimeout .tooLarge]

theorem mem_plain (h : fault.given? = none) (hstated : ∀ text, fault ≠ .stated text) :
    fault ∈ plain := by
  cases fault with
  | missingToken => decide
  | blankToken => decide
  | invalidSubdomain => cases h
  | invalidBaseUrl => cases h
  | zeroTimeout setting => cases setting <;> decide
  | malformedTimeout fault => cases fault <;> decide
  | stated text => exact absurd rfl (hstated text)

theorem isOwn_message (h : fault.given? = none) (hstated : ∀ text, fault ≠ .stated text) :
    IsOwn (PublishError.configuration fault).message := by
  refine .append (by decide) ?_
  cases fault with
  | missingToken => decide
  | blankToken => decide
  | invalidSubdomain => cases h
  | invalidBaseUrl => cases h
  | zeroTimeout setting =>
    have hsetting : IsOwn setting.name := by cases setting <;> decide
    exact hsetting.append (by decide)
  | malformedTimeout fault =>
    have hfault : IsOwn fault.message := by cases fault <;> decide
    exact .append (by decide) hfault
  | stated text => exact absurd rfl (hstated text)

/-- **No control gets into what is told of a setting**, whatever its value is. -/
theorem isLine_message (h : ∀ text, fault ≠ .stated text) :
    IsLine (PublishError.configuration fault).message := by
  cases hgiven : fault.given? with
  | none => exact (isOwn_message hgiven h).isLine
  | some given =>
    obtain ⟨before, after, hmessage, hbefore, hafter⟩ := exists_message_eq hgiven
    rw [hmessage, isLine_append, isLine_append]
    exact ⟨⟨hbefore.isLine, Quoted.not_isControl_encode given⟩, hafter.isLine⟩

/-- **The value that is refused can be read from what is told**, and nothing else is quoted. -/
theorem quotation?_message (h : ∀ text, fault ≠ .stated text) :
    Quoted.quotation? (PublishError.configuration fault).message = fault.given? := by
  cases hgiven : fault.given? with
  | none => exact Quoted.quotation?_eq_none (isOwn_message hgiven h).not_mem
  | some given =>
    obtain ⟨before, after, hmessage, hbefore, hafter⟩ := exists_message_eq hgiven
    rw [hmessage, Quoted.quotation?_append hbefore.not_mem hafter.not_mem]

/-- The words tell a workspace from a base URL. -/
theorem message_invalidSubdomain_ne_invalidBaseUrl (given url : String) :
    (PublishError.configuration (.invalidSubdomain given)).message ≠
      (PublishError.configuration (.invalidBaseUrl url)).message := by
  intro h
  rw [message_invalidSubdomain, message_invalidBaseUrl, ← String.toList_inj] at h
  simp only [String.toList_append, List.append_assoc] at h
  have hword := List.append_cancel_left h
  -- The second words differ in their first letter.
  have hworkspace : ∀ rest : List Char, ("invalid subdomain ".toList ++ rest)[8]? = some 's' :=
    fun _ => (List.getElem?_append_left (by decide)).trans (by decide)
  have hbase : ∀ rest : List Char, ("invalid base URL ".toList ++ rest)[8]? = some 'b' :=
    fun _ => (List.getElem?_append_left (by decide)).trans (by decide)
  have hletter := congrArg (·[8]?) hword
  simp only [hworkspace, hbase] at hletter
  exact absurd hletter (by decide)

/-- **Different faults are told differently.** -/
theorem eq_of_message_eq {other : SettingFault} (h : ∀ text, fault ≠ .stated text)
    (hother : ∀ text, other ≠ .stated text)
    (heq : (PublishError.configuration fault).message =
      (PublishError.configuration other).message) :
    fault = other := by
  have hsame : fault.given? = other.given? := by
    rw [← quotation?_message h, ← quotation?_message hother, heq]
  cases hgiven : fault.given? with
  | none =>
    have hall : plain.all (fun fault => plain.all (fun other =>
        (PublishError.configuration fault).message = (PublishError.configuration other).message →
          fault = other)) = true := by
      decide
    have hrow := List.all_eq_true.1 hall fault (mem_plain hgiven h)
    have hcell := List.all_eq_true.1 hrow other (mem_plain (hsame.symm.trans hgiven) hother)
    exact of_decide_eq_true hcell heq
  | some given =>
    have hgiven' := hsame.symm.trans hgiven
    cases fault with
    | invalidSubdomain =>
      cases other with
      | invalidSubdomain => exact congrArg _ (Option.some.inj hsame)
      | invalidBaseUrl => exact absurd heq (message_invalidSubdomain_ne_invalidBaseUrl _ _)
      | _ => cases hgiven'
    | invalidBaseUrl =>
      cases other with
      | invalidSubdomain => exact absurd heq.symm (message_invalidSubdomain_ne_invalidBaseUrl _ _)
      | invalidBaseUrl => exact congrArg _ (Option.some.inj hsame)
      | _ => cases hgiven'
    | _ => cases hgiven

end SettingFault

/-! ## Loading -/

section Load

variable {o : Overrides} {env : Environment} {e : PublishError}

theorem FirstFault.ne_stated {fault : SettingFault} (h : FirstFault o env fault) (text : String) :
    fault ≠ .stated text := by
  rintro rfl
  cases h with
  | timeout _ _ _ _ wrong =>
    cases wrong with
    | ofOption _ said => cases said
    | ofVariable _ _ said =>
      obtain ⟨_, -, hsaid⟩ := said
      cases hsaid

theorem exists_firstFault (h : loadConfig o env = .error e) :
    ∃ fault, FirstFault o env fault ∧ e = .configuration fault := by
  obtain ⟨fault, hload, rfl⟩ := loadConfig_eq_error_iff.1 h
  exact ⟨fault, loadSettings_eq_error_iff_firstFault.1 hload, rfl⟩

theorem FirstFault.unique {fault other : SettingFault} (h : FirstFault o env fault)
    (hother : FirstFault o env other) : fault = other := by
  have heq := (loadSettings_eq_error_iff_firstFault.2 h).symm.trans
    (loadSettings_eq_error_iff_firstFault.2 hother)
  exact Except.error.inj heq

end Load

/-- **What is told of wrong settings** is one line without controls, whatever the settings hold.  A
workspace or a base URL that is refused can be read from it as it was given, nothing else is quoted
in it, and two runs are told the same only of the same fault. -/
theorem loadConfig_complaint :
    (∀ o env e, loadConfig o env = .error e →
      IsLine e.message ∧
      (∃ line, IsLine line ∧ (Failure.publish e).complaint = line ++ "\n") ∧
      ∀ value, Quoted.quotation? e.message = some value ↔
        FirstFault o env (.invalidSubdomain value) ∨ FirstFault o env (.invalidBaseUrl value)) ∧
    ∀ o env e o' env' e', loadConfig o env = .error e → loadConfig o' env' = .error e' →
      ∀ fault fault', FirstFault o env fault → FirstFault o' env' fault' →
        (e.message = e'.message ↔ fault = fault') := by
  refine ⟨?_, ?_⟩
  · intro o env e hload
    obtain ⟨fault, hfirst, rfl⟩ := exists_firstFault hload
    have hline := SettingFault.isLine_message hfirst.ne_stated
    refine ⟨hline, ⟨"[ERROR] Publish failed: " ++ (PublishError.configuration fault).message,
      isLine_append.2 ⟨IsOwn.isLine (by decide), hline⟩, rfl⟩, ?_⟩
    intro value
    rw [SettingFault.quotation?_message hfirst.ne_stated]
    constructor
    · intro hgiven
      cases fault with
      | invalidSubdomain =>
        cases hgiven
        exact .inl hfirst
      | invalidBaseUrl =>
        cases hgiven
        exact .inr hfirst
      | _ => cases hgiven
    · rintro (hvalue | hvalue)
      · rw [hfirst.unique hvalue, SettingFault.given?]
      · rw [hfirst.unique hvalue, SettingFault.given?]
  · intro o env e o' env' e' hload hload' fault fault' hfault hfault'
    obtain ⟨first, hfirst, rfl⟩ := exists_firstFault hload
    obtain ⟨first', hfirst', rfl⟩ := exists_firstFault hload'
    obtain rfl := hfirst.unique hfault
    obtain rfl := hfirst'.unique hfault'
    refine ⟨SettingFault.eq_of_message_eq hfirst.ne_stated hfirst'.ne_stated, ?_⟩
    rintro rfl
    rfl

/-- A line end and an escape in a workspace are told by name and by number, and apart from the text
that tells them. -/
theorem loadConfig_complaint_controls :
    let env := Environment.empty.set Variable.apiToken (Utf8.encode "secret")
    let given := "a\n\x1b"
    let spelled := "a\\n\\u\x7b1b\x7d"
    ∃ e e', loadConfig { subdomain := some given } env = .error e ∧
      loadConfig { subdomain := some spelled } env = .error e' ∧
      e.message = "configuration error: invalid subdomain \"" ++ spelled ++
        "\": expected lowercase letters, digits and hyphens" ∧
      IsLine e.message ∧ Quoted.quotation? e.message = some given ∧ e.message ≠ e'.message := by
  intro env given spelled
  have hfirst : ∀ value, isSubdomain value = false →
      FirstFault { subdomain := some value } env (.invalidSubdomain value) := by
    intro value hwrong
    have htoken : env.Holds Variable.apiToken "secret" :=
      Environment.filled?_eq_some_iff.1 (by decide)
    refine .subdomain htoken (subdomain_iff.2 rfl) ?_
    rw [← Subdomain.isSubdomain_iff, hwrong]
    exact Bool.false_ne_true
  have hgiven := hfirst given (by decide)
  have hspelled := hfirst spelled (by decide)
  have hload := loadConfig_eq_error_iff.2
    ⟨_, loadSettings_eq_error_iff_firstFault.2 hgiven, rfl⟩
  have hload' := loadConfig_eq_error_iff.2
    ⟨_, loadSettings_eq_error_iff_firstFault.2 hspelled, rfl⟩
  obtain ⟨hline, -, hquoted⟩ := loadConfig_complaint.1 _ _ _ hload
  have happart := (loadConfig_complaint.2 _ _ _ _ _ _ hload hload' _ _ hgiven hspelled).not.2
  refine ⟨_, _, hload, hload', by decide, hline, (hquoted given).2 (.inl hgiven), happart ?_⟩
  intro heq
  exact absurd (SettingFault.invalidSubdomain.inj heq) (by decide)

end ManifestPublish
