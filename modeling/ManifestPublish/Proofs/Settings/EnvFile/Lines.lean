import Mathlib
import ManifestPublish.Proofs.Text.Blank
import ManifestPublish.Proofs.Url.Percent
import ManifestPublish.Settings.EnvFile.Load
import ManifestPublish.Settings.Load
import ManifestPublish.Text.CharClass

/-!
# The lines of a file that is written out

* `EnvFile.Assignment` : an assignment whose value single quotes can hold
* `EnvFile.write` : a file of assignments, one a line
* `EnvFile.Malformed` : nothing can be made of a line
* `EnvFile.FailsAt` : reading a file ends at one of its lines
* `EnvFile.DoesNotParse` : reading ends at a line, wherever it stands

Principal results: `EnvFile.exists_logicalLines_write` (the lines read are those written, and what
follows them), `EnvFile.failsAt_of_doesNotParse` and `EnvFile.doesNotParse_word`.
-/

set_option autoImplicit false

namespace ManifestPublish.EnvFile

/-- What a value in single quotes is made of here: neither a control character, nor a single quote,
nor a backslash. -/
def isQuotable (c : Char) : Bool := ¬ IsControl c && c ≠ '\'' && c ≠ '\\'

/-- An assignment to the variable of a setting, of a value that single quotes can hold. -/
structure Assignment where
  name : String
  value : String
  known : name ∈ settingVariables
  quotable : value.toList.all isQuotable = true

/-- The assignment as a line, its value in single quotes. -/
def Assignment.line (a : Assignment) : String := a.name ++ "='" ++ a.value ++ "'"

/-- A file of assignments, one a line. -/
def write (assignments : List Assignment) : Bytes :=
  assignments.flatMap fun a => Utf8.encode a.line ++ [0x0A]

/-- What may stand in front of a text to tell that it is UTF-8. -/
def byteOrderMark : Bytes := [0xEF, 0xBB, 0xBF]

/-- Nothing can be made of a line, whatever the values of variables are. -/
def Malformed (line : List Char) : Prop :=
  readLine line = .malformed ∨
    ∃ name text, readLine line = .assignment name text ∧ ∀ value, valueOf? value text = none

/-- Reading a file ends at the line of a number: it is malformed, or there is none, as where a line
is not UTF-8 or a quote stays open.  A line goes on in the next one while a quote is open, so what
comes next may decide about it. -/
def FailsAt (number : Nat) (file : Bytes) : Prop :=
  ∀ line, (logicalLines file)[number]? = some line → Malformed line

/-- Reading ends at a line, its end included, wherever it stands: it is not UTF-8, or it does not go
on in the next one and is malformed. -/
def DoesNotParse (line : Bytes) : Prop :=
  Utf8.decode? line = none ∨ ∃ text, joinLines .plain [] [line] = [text] ∧ Malformed text

/-- A word of letters, digits, underscores and dots. -/
structure IsBareWord (word : String) : Prop where
  nonempty : word.toList ≠ []
  parts : word.toList.all isNamePart = true

/-! ## Cutting a file into lines -/

section Cutting

variable {line : Bytes}

theorem cutLines_done (done : List Bytes) (current bytes : Bytes) :
    cutLines done current bytes = done.reverse ++ cutLines [] current bytes := by
  induction bytes generalizing done current with
  | nil =>
    unfold cutLines
    split <;> simp
  | cons b bytes ih =>
    unfold cutLines
    split
    · rw [ih (_ :: done), ih [_]]
      simp
    · exact ih done (b :: current)

theorem cutLines_line (h : 0x0A ∉ line) (current rest : Bytes) :
    cutLines [] current (line ++ 0x0A :: rest) =
      (current.reverse ++ (line ++ [0x0A])) :: cutLines [] [] rest := by
  induction line generalizing current with
  | nil =>
    rw [List.nil_append, cutLines, if_pos rfl, cutLines_done]
    simp
  | cons b line ih =>
    have hb : b ≠ 0x0A := Ne.symm (List.ne_of_not_mem_cons h)
    rw [List.cons_append, cutLines, if_neg hb, ih (List.not_mem_of_not_mem_cons h)]
    simp

/-- The last line may have no end. -/
theorem cutLines_last (h : 0x0A ∉ line) (current : Bytes) (hne : current.reverse ++ line ≠ []) :
    cutLines [] current line = [current.reverse ++ line] := by
  induction line generalizing current with
  | nil =>
    have hcurrent : current ≠ [] := by simpa using hne
    rw [cutLines, if_neg hcurrent]
    simp
  | cons b line ih =>
    have hb : b ≠ 0x0A := Ne.symm (List.ne_of_not_mem_cons h)
    rw [cutLines, if_neg hb, ih (List.not_mem_of_not_mem_cons h)]
    · simp
    · simp

end Cutting

/-! ## Joining lines -/

theorem joinLines_cons {bytes : Bytes} {text : List Char}
    (h : joinLines .plain [] [bytes] = [text]) (rest : List Bytes) :
    joinLines .plain [] (bytes :: rest) = text :: joinLines .plain [] rest := by
  rw [joinLines] at h ⊢
  cases hdecode : Utf8.decode? bytes with
  | none =>
    rw [hdecode] at h
    cases h
  | some decoded =>
    simp only [hdecode] at h ⊢
    split at h
    · rename_i hcomment
      rw [if_pos hcomment]
      cases h
      rfl
    · rename_i hcomment
      rw [if_neg hcomment]
      split at h
      · cases h
        rfl
      · cases h
        rfl
      · cases h

theorem joinLines_of_decode? {bytes : Bytes} (h : Utf8.decode? bytes = none) (rest : List Bytes) :
    joinLines .plain [] (bytes :: rest) = [] := by
  rw [joinLines, h]

section Scanning

variable {cs : List Char}

/-- Outside quotes a line stays plain where it has no blanks, backslashes or quotes. -/
theorem scanLine_plain (h : ∀ c ∈ cs, Blank.isBlank c = false ∧ c ≠ '\\' ∧ c ≠ '"' ∧ c ≠ '\'')
    (done rest : List Char) :
    scanLine .plain done (cs ++ rest) = scanLine .plain (cs.reverse ++ done) rest := by
  induction cs generalizing done with
  | nil => rfl
  | cons c cs ih =>
    obtain ⟨hblank, hbackslash, hdouble, hsingle⟩ := h c List.mem_cons_self
    have hstep : Quoting.plain.step? c = some .plain := by
      simp [Quoting.step?, Quoting.opened, hblank, hbackslash, hdouble, hsingle]
    rw [List.cons_append, scanLine, hstep]
    simp only
    rw [ih (fun d hd => h d (List.mem_cons_of_mem c hd))]
    simp

/-- Single quotes stay open up to the next one or a backslash. -/
theorem scanLine_strong (h : ∀ c ∈ cs, c ≠ '\'' ∧ c ≠ '\\') (done rest : List Char) :
    scanLine .strong done (cs ++ rest) = scanLine .strong (cs.reverse ++ done) rest := by
  induction cs generalizing done with
  | nil => rfl
  | cons c cs ih =>
    obtain ⟨hquote, hbackslash⟩ := h c List.mem_cons_self
    have hstep : Quoting.strong.step? c = some .strong := by
      simp [Quoting.step?, hquote, hbackslash]
    rw [List.cons_append, scanLine, hstep]
    simp only
    rw [ih (fun d hd => h d (List.mem_cons_of_mem c hd))]
    simp

theorem dropLineEnd_append {cs ending : List Char} (hending : ending = [] ∨ ending = ['\n'])
    (hlast : ∀ c, cs.getLast? = some c → Blank.isBlank c = false) :
    dropLineEnd (cs ++ ending).reverse = cs.reverse := by
  rw [List.reverse_append]
  rw [← List.head?_reverse] at hlast
  cases hreverse : cs.reverse with
  | nil => rcases hending with rfl | rfl <;> rfl
  | cons c reversed =>
    have hblank := hlast c (by rw [hreverse]; rfl)
    have hfeed : c ≠ '\n' := by
      rintro rfl
      cases hblank
    have hreturn : c ≠ '\r' := by
      rintro rfl
      cases hblank
    rcases hending with rfl | rfl <;> simp [dropLineEnd, hfeed, hreturn]

/-- A line is read as it stands if it is no comment, has no blank at its end and no quote open
there. -/
theorem joinLines_text {text ending : String} (hending : ending = "" ∨ ending = "\n")
    (hhead : ∀ c, text.toList.head? = some c → Blank.isBlank c = false ∧ c ≠ '#')
    (hlast : ∀ c, text.toList.getLast? = some c → Blank.isBlank c = false)
    (hscan : ∀ rest, scanLine .plain [] (text.toList ++ rest) =
      scanLine .plain text.toList.reverse rest) :
    joinLines .plain [] [Utf8.encode (text ++ ending)] = [text.toList] := by
  have hends : ending.toList = [] ∨ ending.toList = ['\n'] := by
    rcases hending with rfl | rfl
    · exact .inl rfl
    · exact .inr rfl
  have hcomment : isComment (text.toList ++ ending.toList) = false := by
    cases htext : text.toList with
    | nil => rcases hends with hends | hends <;> rw [hends] <;> rfl
    | cons c cs =>
      obtain ⟨hblank, hmark⟩ := hhead c (by rw [htext]; rfl)
      simp [isComment, hblank, hmark]
  have hended : scanLine .plain [] (text.toList ++ ending.toList) =
      .ended .plain (text.toList ++ ending.toList).reverse := by
    rw [hscan]
    rcases hends with hends | hends
    · rw [hends, List.append_nil]
      rfl
    · rw [hends, List.reverse_append]
      rfl
  rw [joinLines, Utf8.decode?_encode]
  simp only [String.toList_append, hcomment, hended, decide_true, Bool.true_and,
    Bool.false_eq_true, if_false, dropLineEnd_append hends hlast, List.reverse_reverse, joinLines]

end Scanning

/-! ## Characters and bytes -/

theorem newline_of_mem_encode {s : String} (h : 0x0A ∈ Utf8.encode s) : '\n' ∈ s.toList :=
  Percent.mem_of_mem_encode (by decide) h

theorem encode_newline (s : String) : Utf8.encode (s ++ "\n") = Utf8.encode s ++ [0x0A] := by
  rw [Utf8.encode, Utf8.encode, String.toList_append, List.flatMap_append]
  rfl

theorem not_marked_encode {s : String} {c : Char} {cs : List Char} (h : s.toList = c :: cs)
    (hascii : c.toNat < 0x80) (rest : Bytes) : ¬ byteOrderMark <+: Utf8.encode s ++ rest := by
  have hchar : String.utf8EncodeChar c = [UInt8.ofNat c.toNat] := by
    have hsmall : c.val.toNat ≤ 0x7F := Nat.le_of_lt_succ hascii
    have hbytes := Utf8.utf8EncodeChar_ofNat c.valid
    rw [if_pos hsmall, show Char.ofNat c.val.toNat = c from Char.ofNat_toNat c] at hbytes
    exact hbytes
  have hencode : Utf8.encode s = UInt8.ofNat c.toNat :: cs.flatMap String.utf8EncodeChar := by
    rw [Utf8.encode, h, List.flatMap_cons, hchar]
    rfl
  rw [hencode, List.cons_append, byteOrderMark, List.cons_prefix_cons]
  rintro ⟨hfirst, -⟩
  have hnumber := congrArg UInt8.toNat hfirst
  rw [UInt8.toNat_ofNat_of_lt' (Nat.lt_trans hascii (by decide))] at hnumber
  have hmark : (0xEF : UInt8).toNat = 0xEF := rfl
  omega

theorem isNamePart_ascii {c : Char} (h : isNamePart c = true) : c.toNat < 0x80 := by
  simp only [isNamePart, Char.isAlphanum, Char.isAlpha, Char.isUpper, Char.isLower, Char.isDigit,
    Bool.or_eq_true, Bool.and_eq_true, decide_eq_true_eq, ge_iff_le, UInt32.le_iff_toNat_le] at h
  rcases h with (hletter | rfl) | rfl
  · have hnumber : c.toNat = c.val.toNat := rfl
    have hZ : 'Z'.val.toNat = 90 := rfl
    have hz : 'z'.val.toNat = 122 := rfl
    have h9 : '9'.val.toNat = 57 := rfl
    omega
  · decide
  · decide

theorem isNamePart_plain {c : Char} (h : isNamePart c = true) :
    (Blank.isBlank c = false ∧ c ≠ '\\' ∧ c ≠ '"' ∧ c ≠ '\'') ∧ c ≠ '#' ∧ c ≠ '\n' := by
  have hascii : ∀ n < 0x80, isNamePart (Char.ofNat n) = true →
      (Blank.isBlank (Char.ofNat n) = false ∧ Char.ofNat n ≠ '\\' ∧ Char.ofNat n ≠ '"' ∧
        Char.ofNat n ≠ '\'') ∧ Char.ofNat n ≠ '#' ∧ Char.ofNat n ≠ '\n' := by
    decide
  have hc := hascii c.toNat (isNamePart_ascii h)
  rw [Char.ofNat_toNat] at hc
  exact hc h

/-! ## Lines of assignments -/

section Assignments

variable (a : Assignment)

theorem isNamePart_known : ∀ name ∈ settingVariables,
    name.toList.all isNamePart = true ∧ name.toList.head? = some 'L' := by
  decide

theorem Assignment.isNamePart_name (c : Char) (h : c ∈ a.name.toList) : isNamePart c = true :=
  List.all_eq_true.1 (isNamePart_known a.name a.known).1 c h

theorem Assignment.quotable_value (c : Char) (h : c ∈ a.value.toList) :
    ¬ IsControl c ∧ c ≠ '\'' ∧ c ≠ '\\' := by
  have hc := List.all_eq_true.1 a.quotable c h
  simpa [isQuotable, and_assoc] using hc

theorem Assignment.toList_line :
    a.line.toList = (a.name.toList ++ ['=']) ++ '\'' :: (a.value.toList ++ ['\'']) := by
  simp [line, String.toList_append]

theorem Assignment.exists_line : ∃ cs, a.line.toList = 'L' :: cs := by
  obtain ⟨cs, hname⟩ := List.head?_eq_some_iff.1 (isNamePart_known a.name a.known).2
  exact ⟨cs ++ ['='] ++ '\'' :: (a.value.toList ++ ['\'']), by rw [a.toList_line, hname]; rfl⟩

theorem Assignment.head_line (c : Char) (h : a.line.toList.head? = some c) :
    Blank.isBlank c = false ∧ c ≠ '#' := by
  obtain ⟨cs, hline⟩ := a.exists_line
  rw [hline] at h
  cases h
  decide

theorem Assignment.last_line (c : Char) (h : a.line.toList.getLast? = some c) :
    Blank.isBlank c = false := by
  rw [a.toList_line, ← List.cons_append, ← List.append_assoc, List.getLast?_concat] at h
  cases h
  decide

theorem Assignment.newline_not_mem : 0x0A ∉ Utf8.encode a.line := by
  intro h
  have hnewline := newline_of_mem_encode h
  rw [a.toList_line] at hnewline
  simp only [List.mem_append, List.mem_cons, List.not_mem_nil, or_false] at hnewline
  rcases hnewline with (hname | heq) | heq | hvalue | heq
  · exact (isNamePart_plain (a.isNamePart_name _ hname)).2.2 rfl
  · exact absurd heq (by decide)
  · exact absurd heq (by decide)
  · exact absurd (a.quotable_value _ hvalue).1 (by decide)
  · exact absurd heq (by decide)

/-- No quote is open after the assignment. -/
theorem Assignment.scanLine_line (rest : List Char) :
    scanLine .plain [] (a.line.toList ++ rest) = scanLine .plain a.line.toList.reverse rest := by
  have hname : ∀ c ∈ a.name.toList ++ ['='],
      Blank.isBlank c = false ∧ c ≠ '\\' ∧ c ≠ '"' ∧ c ≠ '\'' := by
    intro c hc
    rcases List.mem_append.1 hc with hc | hc
    · exact (isNamePart_plain (a.isNamePart_name c hc)).1
    · obtain rfl := List.mem_singleton.1 hc
      decide
  have hopen : ∀ done cs, scanLine .plain done ('\'' :: cs) = scanLine .strong ('\'' :: done) cs :=
    fun _ _ => rfl
  have hclose : ∀ done cs, scanLine .strong done ('\'' :: cs) = scanLine .plain ('\'' :: done) cs :=
    fun _ _ => rfl
  have hvalue : ∀ c ∈ a.value.toList, c ≠ '\'' ∧ c ≠ '\\' :=
    fun c hc => (a.quotable_value c hc).2
  rw [a.toList_line, List.append_assoc, scanLine_plain hname, List.cons_append, hopen,
    List.append_assoc, scanLine_strong hvalue, List.singleton_append, hclose]
  simp

/-- The assignment is read from its line, whether or not that has an end. -/
theorem Assignment.joinLines_line {ending : String} (h : ending = "" ∨ ending = "\n") :
    joinLines .plain [] [Utf8.encode (a.line ++ ending)] = [a.line.toList] :=
  joinLines_text h a.head_line a.last_line a.scanLine_line

end Assignments

/-! ## Files of assignments -/

section Files

theorem write_cons (a : Assignment) (assignments : List Assignment) :
    write (a :: assignments) = Utf8.encode a.line ++ 0x0A :: write assignments := by
  rw [write, List.flatMap_cons, List.append_assoc]
  rfl

theorem cutLines_write (assignments : List Assignment) (rest : Bytes) :
    cutLines [] [] (write assignments ++ rest) =
      assignments.map (fun a => Utf8.encode (a.line ++ "\n")) ++ cutLines [] [] rest := by
  induction assignments with
  | nil => rfl
  | cons a assignments ih =>
    rw [write_cons, List.append_assoc, List.cons_append, cutLines_line a.newline_not_mem, ih,
      List.map_cons, encode_newline]
    rfl

theorem joinLines_write (assignments : List Assignment) (rest : List Bytes) :
    joinLines .plain [] (assignments.map (fun a => Utf8.encode (a.line ++ "\n")) ++ rest) =
      assignments.map (·.line.toList) ++ joinLines .plain [] rest := by
  induction assignments with
  | nil => rfl
  | cons a assignments ih =>
    rw [List.map_cons, List.cons_append, joinLines_cons (a.joinLines_line (.inr rfl)), ih]
    rfl

theorem logicalLines_of_not_marked {file : Bytes} (h : ¬ byteOrderMark <+: file) :
    logicalLines file = joinLines .plain [] (cutLines [] [] file) := by
  unfold logicalLines
  split
  · exact absurd (List.prefix_append byteOrderMark _) h
  · rfl

theorem not_marked_line (a : Assignment) (rest : Bytes) :
    ¬ byteOrderMark <+: Utf8.encode a.line ++ rest := by
  obtain ⟨cs, hline⟩ := a.exists_line
  exact not_marked_encode hline (by decide) rest

theorem logicalLines_write {assignments : List Assignment} {rest : Bytes}
    (h : assignments = [] → ¬ byteOrderMark <+: rest) :
    logicalLines (write assignments ++ rest) =
      assignments.map (·.line.toList) ++ joinLines .plain [] (cutLines [] [] rest) := by
  have hmarked : ¬ byteOrderMark <+: write assignments ++ rest := by
    cases assignments with
    | nil => exact h rfl
    | cons a assignments =>
      rw [write_cons, List.append_assoc]
      exact not_marked_line a _
  rw [logicalLines_of_not_marked hmarked, cutLines_write, joinLines_write]

/-- **The lines of a file start with the assignments written there.** -/
theorem exists_logicalLines_write (assignments : List Assignment) (rest : Bytes) :
    ∃ lines, logicalLines (write assignments ++ rest) =
      assignments.map (·.line.toList) ++ lines := by
  cases assignments with
  | nil => exact ⟨logicalLines rest, rfl⟩
  | cons a assignments =>
    exact ⟨_, logicalLines_write fun h => absurd h (List.cons_ne_nil a assignments)⟩

/-- The last line of a file need not have an end. -/
theorem logicalLines_unended {assignments : List Assignment} {file : Bytes}
    (h : file ++ [0x0A] = write assignments) :
    logicalLines file = assignments.map (·.line.toList) := by
  rcases List.eq_nil_or_concat assignments with rfl | ⟨before, a, rfl⟩
  · exact absurd h (by simp [write])
  · have hfile : file = write before ++ Utf8.encode a.line := by
      rw [List.concat_eq_append, write, List.flatMap_append, List.flatMap_singleton,
        ← List.append_assoc] at h
      exact List.append_cancel_right h
    have hbare := a.joinLines_line (.inl rfl)
    rw [String.append_empty] at hbare
    have hmarked : ¬ byteOrderMark <+: Utf8.encode a.line := by
      have h := not_marked_line a []
      rwa [List.append_nil] at h
    have hne : [].reverse ++ Utf8.encode a.line ≠ [] := by
      intro hnil
      obtain ⟨cs, hline⟩ := a.exists_line
      rw [List.reverse_nil, List.nil_append, Utf8.encode, hline] at hnil
      cases hnil
    rw [hfile, logicalLines_write fun _ => hmarked, cutLines_last a.newline_not_mem [] hne]
    simp only [List.reverse_nil, List.nil_append, hbare]
    simp

end Files

/-! ## Lines that do not parse -/

section Failing

variable {bad : Bytes} {word : String}

theorem not_marked_append (h : ¬ byteOrderMark <+: bad) (rest : Bytes) :
    ¬ byteOrderMark <+: bad ++ 0x0A :: rest := by
  match bad with
  | [] => simp [byteOrderMark]
  | [b] => simp [byteOrderMark]
  | [b, c] => simp [byteOrderMark]
  | b :: c :: d :: bad => simpa [byteOrderMark] using h

/-- **Reading ends at a line that does not parse, wherever it stands.**  A byte order mark counts in
front of the file only. -/
theorem failsAt_of_doesNotParse (before : List Assignment) (rest : Bytes) (hline : 0x0A ∉ bad)
    (unmarked : before = [] → ¬ byteOrderMark <+: bad) (h : DoesNotParse (bad ++ [0x0A])) :
    FailsAt before.length (write before ++ (bad ++ 0x0A :: rest)) := by
  intro line hget
  rw [logicalLines_write fun hnil => not_marked_append (unmarked hnil) rest, cutLines_line hline,
    List.getElem?_append_right (by simp), List.length_map, Nat.sub_self, List.reverse_nil,
    List.nil_append] at hget
  rcases h with hdecode | ⟨text, htext, hmalformed⟩
  · rw [joinLines_of_decode? hdecode] at hget
    cases hget
  · rw [joinLines_cons htext] at hget
    cases hget
    exact hmalformed

namespace IsBareWord

variable (h : IsBareWord word)
include h

theorem isNamePart_word : ∀ c ∈ word.toList, isNamePart c = true :=
  List.all_eq_true.1 h.parts

theorem plain : ∀ c ∈ word.toList,
    Blank.isBlank c = false ∧ c ≠ '\\' ∧ c ≠ '"' ∧ c ≠ '\'' :=
  fun c hc => (isNamePart_plain (h.isNamePart_word c hc)).1

theorem newline_not_mem : 0x0A ∉ Utf8.encode word := by
  intro hmem
  exact (isNamePart_plain (h.isNamePart_word _ (newline_of_mem_encode hmem))).2.2 rfl

theorem not_marked : ¬ byteOrderMark <+: Utf8.encode word := by
  obtain ⟨c, cs, hword⟩ := List.exists_cons_of_ne_nil h.nonempty
  have hascii := isNamePart_ascii (h.isNamePart_word c (by rw [hword]; exact List.mem_cons_self))
  have hmarked := not_marked_encode hword hascii []
  rwa [List.append_nil] at hmarked

theorem readName?_eq : readName? word.toList = none ∨
    readName? word.toList = some (word.toList, []) := by
  cases hword : word.toList with
  | nil => exact absurd hword h.nonempty
  | cons c cs =>
    have hparts := h.isNamePart_word
    rw [hword] at hparts
    unfold readName?
    simp only
    split
    · right
      have htake := @List.takeWhile_append_of_pos _ isNamePart _ [] hparts
      have hdrop := @List.dropWhile_append_of_pos _ isNamePart _ [] hparts
      rw [List.append_nil] at htake hdrop
      rw [htake, hdrop]
      simp [Blank.trimStartChars]
    · exact .inl rfl

theorem malformed : Malformed word.toList := by
  left
  have hblank : ∀ c ∈ word.toList, Blank.isBlank c = false := fun c hc => (h.plain c hc).1
  have hmark : word.toList.head? ≠ some '#' := by
    intro hhead
    exact (isNamePart_plain (h.isNamePart_word _ (List.mem_of_head? hhead))).2.1 rfl
  have htrimmed := Blank.trimChars_eq_self (fun c hc => hblank c (List.mem_of_head? hc))
    fun c hc => hblank c (List.mem_of_getLast? hc)
  unfold readLine
  simp only [htrimmed, h.nonempty, hmark, decide_false, Bool.or_self, Bool.false_eq_true, if_false]
  rcases h.readName?_eq with hname | hname
  · rw [hname]
  · rw [hname]
    simp [readName?, readAssignment]

end IsBareWord

/-- **A bare word does not parse.** -/
theorem doesNotParse_word (h : IsBareWord word) : DoesNotParse (Utf8.encode word ++ [0x0A]) := by
  rw [← encode_newline]
  refine .inr ⟨word.toList, joinLines_text (.inr rfl) ?_ ?_ ?_, h.malformed⟩
  · intro c hc
    obtain ⟨⟨hblank, -⟩, hmark, -⟩ := isNamePart_plain (h.isNamePart_word c (List.mem_of_head? hc))
    exact ⟨hblank, hmark⟩
  · intro c hc
    exact (h.plain c (List.mem_of_getLast? hc)).1
  · intro rest
    rw [scanLine_plain h.plain, List.append_nil]

end Failing

end ManifestPublish.EnvFile
