import ManifestPublish.Proofs.CommandLine.Interchange
import ManifestPublish.Proofs.Settings.EnvFile.Lines

/-!
# Files as weaker variables

What a file assigns counts where the environment has no value, be it a blank one, and there the
first assignment counts.

* `Environment.withDefaults` : the environment with assignments for the variables that it lacks
* `Environment.setDefaults` : the same, made one assignment after the other
* `Environment.Readable` : the variables of settings hold UTF-8

Principal results: `Environment.assign_write` (reading a file makes the assignments one after the
other, up to the first line that does not parse) and `Environment.get?_setDefaults`.
-/

set_option autoImplicit false

namespace ManifestPublish

/-! ## What a line assigns -/

namespace EnvFile

theorem readValueFrom_strong {value : String → String} {cs : List Char} (h : ∀ c ∈ cs, c ≠ '\'')
    (done rest : List Char) :
    readValueFrom value .strong done (cs ++ rest) =
      readValueFrom value .strong (cs.reverse ++ done) rest := by
  induction cs generalizing done with
  | nil => rfl
  | cons c cs ih =>
    have hstep : ValueState.strong.step? value c = some ([c], .strong) := by
      simp [ValueState.step?, h c List.mem_cons_self]
    rw [List.cons_append, readValueFrom, hstep]
    simp only
    rw [ih fun d hd => h d (List.mem_cons_of_mem c hd)]
    simp

theorem valueOf?_quoted (value : String → String) {cs : List Char} (h : ∀ c ∈ cs, c ≠ '\'') :
    valueOf? value ('\'' :: (cs ++ ['\''])) = some (String.ofList cs) := by
  have hopen : valueOf? value ('\'' :: (cs ++ ['\''])) =
      readValueFrom value .strong [] (cs ++ ['\'']) := rfl
  have hclose : ∀ done, readValueFrom value .strong done ['\''] =
      some (String.ofList done.reverse) := fun _ => rfl
  rw [hopen, readValueFrom_strong h, hclose, List.append_nil, List.reverse_reverse]

/-- An assignment is read from its line. -/
theorem Assignment.readLine_line (a : Assignment) :
    readLine a.line.toList = .assignment a.name ('\'' :: (a.value.toList ++ ['\''])) := by
  have hparts := a.isNamePart_name
  have hhead := (isNamePart_known a.name a.known).2
  have hexport : a.name.toList ≠ exportWord := by
    intro h
    rw [h] at hhead
    cases hhead
  obtain ⟨cs, hline⟩ := a.exists_line
  have htrimmed : Blank.trimChars a.line.toList = a.line.toList :=
    Blank.trimChars_eq_self (fun c hc => (a.head_line c hc).1) a.last_line
  have hname : readName? a.line.toList =
      some (a.name.toList, '=' :: '\'' :: (a.value.toList ++ ['\''])) := by
    have hstart : readName? a.line.toList = some (a.line.toList.takeWhile isNamePart,
        Blank.trimStartChars (a.line.toList.dropWhile isNamePart)) := by
      rw [hline]
      rfl
    rw [hstart, a.toList_line, List.append_assoc, List.takeWhile_append_of_pos hparts,
      List.dropWhile_append_of_pos hparts]
    have htake : ∀ rest, (['='] ++ rest).takeWhile isNamePart = [] := fun _ => rfl
    have hskip : ∀ rest, Blank.trimStartChars ((['='] ++ rest).dropWhile isNamePart) =
        '=' :: rest := fun _ => rfl
    rw [htake, hskip, List.append_nil]
  have hnothing : a.line.toList ≠ [] ∧ a.line.toList.head? ≠ some '#' := by
    refine ⟨?_, fun hmark => (a.head_line _ hmark).2 rfl⟩
    rw [hline]
    exact List.cons_ne_nil _ _
  unfold readLine
  simp only [htrimmed, hnothing.1, hnothing.2, decide_false, Bool.or_self, Bool.false_eq_true,
    if_false, hname, hexport, Bool.false_and, readAssignment, String.ofList_toList]
  rfl

end EnvFile

namespace Environment

/-- The environment with assignments for the variables that it lacks; of two for one variable the
first counts. -/
def withDefaults (env : Environment) (assignments : List EnvFile.Assignment) : Environment :=
  ⟨env.bindings ++ assignments.map fun a => (a.name, Utf8.encode a.value)⟩

/-- The environment after assignments to variables that have no value, one after the other. -/
def setDefaults (env : Environment) (assignments : List EnvFile.Assignment) : Environment :=
  assignments.foldl (fun env a => env.setDefault a.name a.value) env

/-- The variables of settings hold UTF-8, as far as they are set. -/
def Readable (env : Environment) : Prop :=
  ∀ name ∈ settingVariables, (env.get? name).isSome → (env.text? name).isSome

/-! ## Reading a file -/

section Reading

variable (env : Environment) {assignments : List EnvFile.Assignment} {file : Bytes}

theorem assign_line (assigned : List (String × String)) (a : EnvFile.Assignment)
    (rest : List (List Char)) :
    env.assign assigned (a.line.toList :: rest) =
      (env.setDefault a.name a.value).assign ((a.name, a.value) :: assigned) rest := by
  have hvalue := EnvFile.valueOf?_quoted (env.valueIn assigned)
    fun c hc => (a.quotable_value c hc).2.1
  rw [String.ofList_toList] at hvalue
  rw [assign, a.readLine_line]
  simp only [hvalue]

theorem assign_malformed {lines : List (List Char)}
    (h : ∀ line, lines.head? = some line → EnvFile.Malformed line)
    (assigned : List (String × String)) : env.assign assigned lines = env := by
  cases lines with
  | nil => rfl
  | cons line lines =>
    rcases h line rfl with hmalformed | ⟨name, text, hassignment, hvalue⟩
    · rw [assign, hmalformed]
    · rw [assign, hassignment]
      simp only [hvalue]

theorem assign_lines (assignments : List EnvFile.Assignment) {lines : List (List Char)}
    (h : ∀ line, lines.head? = some line → EnvFile.Malformed line)
    (assigned : List (String × String)) :
    env.assign assigned (assignments.map (·.line.toList) ++ lines) =
      env.setDefaults assignments := by
  induction assignments generalizing env assigned with
  | nil => exact env.assign_malformed h assigned
  | cons a assignments ih =>
    rw [List.map_cons, List.cons_append, assign_line, ih]
    rfl

/-- **A file of assignments makes them one after the other**, whether or not its last line has an
end. -/
theorem assign_write (h : file = EnvFile.write assignments ∨
    file ++ [0x0A] = EnvFile.write assignments) :
    env.assign [] (EnvFile.logicalLines file) = env.setDefaults assignments := by
  have hlines : EnvFile.logicalLines file = assignments.map (·.line.toList) ++ [] := by
    rcases h with rfl | h
    · have hmarked : ¬ EnvFile.byteOrderMark <+: [] := by decide
      have hwrite := @EnvFile.logicalLines_write assignments [] fun _ => hmarked
      rw [List.append_nil] at hwrite
      exact hwrite
    · rw [List.append_nil]
      exact EnvFile.logicalLines_unended h
  rw [hlines]
  exact env.assign_lines assignments (fun line hline => by cases hline) []

/-- **What follows a line that does not parse is not assigned.** -/
theorem assign_failsAt {rest : Bytes} (hfile : file = EnvFile.write assignments ++ rest)
    (h : EnvFile.FailsAt assignments.length file) :
    env.assign [] (EnvFile.logicalLines file) = env.setDefaults assignments := by
  obtain ⟨lines, hlines⟩ := EnvFile.exists_logicalLines_write assignments rest
  rw [← hfile] at hlines
  rw [hlines]
  refine env.assign_lines assignments ?_ []
  intro line hline
  refine h line ?_
  rw [hlines, List.getElem?_append_right (by simp), List.length_map, Nat.sub_self,
    ← List.head?_eq_getElem?]
  exact hline

end Reading

/-! ## The values of variables -/

section Values

variable {env : Environment} {assignments : List EnvFile.Assignment}

theorem get?_withDefaults (env : Environment) (assignments : List EnvFile.Assignment)
    (name : String) :
    (env.withDefaults assignments).get? name = (env.get? name).or
      ((assignments.find? (·.name = name)).map fun a => Utf8.encode a.value) := by
  rw [get?, get?, withDefaults, List.find?_append, Option.map_or, List.find?_map, Option.map_map]
  rfl

theorem readable_setDefault (h : env.Readable) (a : EnvFile.Assignment) :
    (env.setDefault a.name a.value).Readable := by
  intro name hname hset
  unfold setDefault at hset ⊢
  split
  · rename_i hkept
    rw [if_pos hkept] at hset
    exact h name hname hset
  · rename_i hfree
    rw [if_neg hfree] at hset
    by_cases heq : name = a.name
    · subst heq
      rw [text?, get?_set_self, Option.bind_some, Utf8.decode?_encode]
      rfl
    · rw [get?_set_of_ne heq] at hset
      rw [text?, get?_set_of_ne heq]
      exact h name hname hset

theorem get?_setDefault (h : env.Readable) (a : EnvFile.Assignment) (name : String) :
    (env.setDefault a.name a.value).get? name =
      (env.get? name).or (if a.name = name then some (Utf8.encode a.value) else none) := by
  unfold setDefault
  split
  · rename_i hkept
    split
    · rename_i heq
      subst heq
      obtain ⟨bytes, hbytes, -⟩ := Option.bind_eq_some_iff.1 (Option.eq_some_of_isSome hkept)
      rw [hbytes]
      rfl
    · rw [Option.or_none]
  · rename_i hfree
    split
    · rename_i heq
      subst heq
      have hnone : env.get? a.name = none := by
        rw [Option.eq_none_iff_forall_ne_some]
        intro bytes hbytes
        exact hfree (h a.name a.known (by rw [hbytes]; rfl))
      rw [get?_set_self, hnone, Option.none_or]
    · rename_i hne
      rw [get?_set_of_ne (Ne.symm hne), Option.or_none]

/-- **Assignments one after the other leave the values of weaker variables.** -/
theorem get?_setDefaults (h : env.Readable) (name : String) :
    (env.setDefaults assignments).get? name = (env.withDefaults assignments).get? name := by
  induction assignments generalizing env with
  | nil => simp [setDefaults, withDefaults]
  | cons a assignments ih =>
    have hstep : env.setDefaults (a :: assignments) =
        (env.setDefault a.name a.value).setDefaults assignments := rfl
    rw [hstep, ih (readable_setDefault h a), get?_withDefaults, get?_withDefaults,
      get?_setDefault h a, Option.or_assoc]
    congr 1
    by_cases heq : a.name = name
    · rw [if_pos heq, List.find?_cons_of_pos (by simpa using heq)]
      rfl
    · rw [if_neg heq, List.find?_cons_of_neg (by simpa using heq), Option.none_or]

end Values

end Environment

/-- The settings of a run depend on the environment by the values of its variables. -/
theorem loadConfig_of_get? {o : Overrides} {env env' : Environment}
    (h : ∀ name, env.get? name = env'.get? name) : loadConfig o env = loadConfig o env' := by
  have hfilled : ∀ name, env.filled? name = env'.filled? name := by
    intro name
    rw [Environment.filled?, Environment.filled?, Environment.text?, Environment.text?, h]
  have hsetting : ∀ name, env.setting? name = env'.setting? name := by
    intro name
    rw [Environment.setting?, Environment.setting?, hfilled]
  refine loadConfig_congr ?_ ?_ ?_ ?_ ?_ ?_
  · rw [loadToken, loadToken, hsetting]
  · rw [loadSubdomain, loadSubdomain, hsetting]
  · funext subdomain
    rw [loadEndpoints, loadEndpoints, hsetting]
  · rw [loadTimeout, loadTimeout, hsetting]
  · rw [loadPath, loadPath, hfilled]
  · rw [loadPath, loadPath, hfilled]

end ManifestPublish
