import ManifestPublish.Proofs.Json.Grammar
import ManifestPublish.Proofs.Text.Utf16

/-!
# Reading strings

A string is read if its code units are those of a text, whatever escapes it is written with; half a
character on its own is refused.  A string that is passed over may hold any code units.

* `Json.Spelled.front` : one step of the reader, for each way to write what comes first
* `Json.Spelled.read` : the whole string

Principal results: `Json.readString_spelled`, `Json.spelled_of_readString` and
`Json.skipString_eq_ok_iff`.
-/

set_option autoImplicit false

namespace ManifestPublish.Json

/-! ## Code units of a text -/

@[simp] theorem unitsOf_cons (c : Char) (cs : List Char) :
    unitsOf (c :: cs) = Utf16.charUnits c ++ unitsOf cs := rfl

theorem unitsOf_inj {cs ds : List Char} : unitsOf cs = unitsOf ds ↔ cs = ds :=
  ⟨Utf16.flatMap_charUnits_inj, congrArg _⟩

/-- Behind a whole character it is the rest that decides. -/
theorem ne_unitsOf_of_tail {c : Char} {units : Units} (h : ∀ cs, units ≠ unitsOf cs) :
    ∀ cs, Utf16.charUnits c ++ units ≠ unitsOf cs := by
  intro cs heq
  cases cs with
  | nil => exact Utf16.charUnits_ne_nil c (List.append_eq_nil_iff.1 heq).1
  | cons d cs => exact h cs (Utf16.charUnits_append_inj heq).2

theorem ne_unitsOf_of_low {n : Nat} {units : Units} (hlow : 0xDC00 ≤ n) (hlow' : n ≤ 0xDFFF) :
    ∀ cs, n :: units ≠ unitsOf cs := by
  intro cs heq
  cases cs with
  | nil => cases heq
  | cons c cs =>
    rw [unitsOf_cons] at heq
    obtain ⟨hc, -, hplain⟩ | ⟨high, low, hc, -, hhigh, -⟩ := Utf16.charUnits_cases c
    · rw [hc] at heq
      obtain ⟨rfl, -⟩ := List.cons.inj heq
      exact hplain ⟨by omega, by omega⟩
    · rw [hc] at heq
      obtain ⟨rfl, -⟩ := List.cons.inj heq
      omega

/-- A first half without its second half is no text. -/
theorem ne_unitsOf_of_high {n : Nat} {units : Units} (hhigh : 0xD800 ≤ n) (hhigh' : n ≤ 0xDBFF)
    (h : ∀ m more, units = m :: more → ¬ (0xDC00 ≤ m ∧ m ≤ 0xDFFF)) :
    ∀ cs, n :: units ≠ unitsOf cs := by
  intro cs heq
  cases cs with
  | nil => cases heq
  | cons c cs =>
    rw [unitsOf_cons] at heq
    obtain ⟨hc, -, hplain⟩ | ⟨high, low, hc, -, -, hlow, hlow', -⟩ := Utf16.charUnits_cases c
    · rw [hc] at heq
      obtain ⟨rfl, -⟩ := List.cons.inj heq
      exact hplain ⟨by omega, by omega⟩
    · rw [hc] at heq
      obtain ⟨-, htail⟩ := List.cons.inj heq
      exact h low _ htail ⟨hlow, hlow'⟩

theorem head_charUnits (c : Char) (units : Units) :
    ∀ m more, Utf16.charUnits c ++ units = m :: more → ¬ (0xDC00 ≤ m ∧ m ≤ 0xDFFF) := by
  rintro m more heq ⟨hlow, hlow'⟩
  obtain ⟨hc, -, hplain⟩ | ⟨high, low, hc, -, hhigh, -⟩ := Utf16.charUnits_cases c
  · rw [hc] at heq
    obtain ⟨rfl, -⟩ := List.cons.inj heq
    exact hplain ⟨by omega, by omega⟩
  · rw [hc] at heq
    obtain ⟨rfl, -⟩ := List.cons.inj heq
    omega

/-! ## Escapes -/

theorem digitValue?_eq_some_iff {c : Char} {d : Nat} :
    Hex.digitValue? c = some d ↔ IsHexDigit c d := by
  constructor
  · intro h
    have hall : ∀ n < 128, ∀ d ∈ Hex.digitValue? (Char.ofNat n), d < 16 ∧
        (Char.ofNat n = Nat.digitChar d ∨ Char.ofNat n = (Nat.digitChar d).toUpper) := by decide
    have hc := hall c.toNat (Hex.lt_of_digitValue? h) d (by rw [Char.ofNat_toNat]; exact h)
    rwa [Char.ofNat_toNat] at hc
  · have hall : ∀ d < 16, Hex.digitValue? (Nat.digitChar d) = some d ∧
        Hex.digitValue? (Nat.digitChar d).toUpper = some d := by decide
    rintro ⟨hd, rfl | rfl⟩
    · exact (hall d hd).1
    · exact (hall d hd).2

theorem readHex_eq_ok_iff {cs rest : List Char} {n : Nat} :
    readHex cs = .ok (n, rest) ↔ ∃ a b c d a' b' c' d', cs = a :: b :: c :: d :: rest ∧
      IsHexDigit a a' ∧ IsHexDigit b b' ∧ IsHexDigit c c' ∧ IsHexDigit d d' ∧
      n = a' * 0x1000 + b' * 0x100 + c' * 0x10 + d' := by
  constructor
  · intro h
    unfold readHex at h
    split at h
    · rename_i a b c d rest'
      split at h
      · rename_i a' b' c' d' ha hb hc hd
        obtain ⟨rfl, rfl⟩ := Prod.mk.inj (Except.ok.inj h)
        exact ⟨a, b, c, d, a', b', c', d', rfl, digitValue?_eq_some_iff.1 ha,
          digitValue?_eq_some_iff.1 hb, digitValue?_eq_some_iff.1 hc, digitValue?_eq_some_iff.1 hd,
          by omega⟩
      · cases h
    · split at h <;> cases h
  · rintro ⟨a, b, c, d, a', b', c', d', rfl, ha, hb, hc, hd, rfl⟩
    simp only [readHex, digitValue?_eq_some_iff.2 ha, digitValue?_eq_some_iff.2 hb,
      digitValue?_eq_some_iff.2 hc, digitValue?_eq_some_iff.2 hd]
    congr 2
    omega

theorem letterEscape?_eq_some_iff {letter c : Char} :
    letterEscape? letter = some c ↔ (letter, c) ∈ letterEscapes := by
  unfold letterEscape?
  split <;> simp_all [letterEscapes, eq_comm]

theorem ne_u_of_letterEscapes {letter c : Char} (h : (letter, c) ∈ letterEscapes) :
    letter ≠ 'u' := by
  rintro rfl
  simp [letterEscapes] at h

theorem charUnits_of_letterEscapes {letter c : Char} (h : (letter, c) ∈ letterEscapes) :
    Utf16.charUnits c = [c.toNat] := by
  have hall : ∀ p ∈ letterEscapes, p.2.toNat < 0x10000 := by decide
  rw [Utf16.charUnits, if_pos (hall _ h)]

theorem readEscape_letter {letter c : Char} (h : (letter, c) ∈ letterEscapes) (cs : List Char) :
    readEscape (letter :: cs) = .ok (c, cs) := by
  unfold readEscape
  split
  · rename_i heq
    cases heq
  · rename_i heq
    exact (ne_u_of_letterEscapes h (List.cons.inj heq).1).elim
  · rename_i heq
    obtain ⟨rfl, rfl⟩ := List.cons.inj heq
    rw [letterEscape?_eq_some_iff.2 h]

theorem readEscape_unicode (cs : List Char) : readEscape ('u' :: cs) = readUnicode cs := rfl

/-! ## Steps of the reader -/

section Steps

variable {done cs rest : List Char} {c : Char}

theorem readStringFrom_quote :
    readStringFrom done ('"' :: cs) = .ok (.ofList done.reverse, cs) := by
  rw [readStringFrom]

theorem readStringFrom_escape (h : readEscape cs = .ok (c, rest)) :
    readStringFrom done ('\\' :: cs) = readStringFrom (c :: done) rest := by
  rw [readStringFrom]
  split
  · rename_i heq
    cases h.symm.trans heq
  · rename_i heq
    cases h.symm.trans heq
    rfl

theorem readStringFrom_fault {fault : Fault} (h : readEscape cs = .error fault) :
    readStringFrom done ('\\' :: cs) = .error fault := by
  rw [readStringFrom]
  split
  · rename_i heq
    cases h.symm.trans heq
    rfl
  · rename_i heq
    cases h.symm.trans heq

theorem readStringFrom_plain (quote : c ≠ '"') (backslash : c ≠ '\\') (control : 0x20 ≤ c.toNat) :
    readStringFrom done (c :: cs) = readStringFrom (c :: done) cs := by
  have hcontrol : isControl c = false := decide_eq_false (Nat.not_lt.2 control)
  rw [readStringFrom, hcontrol]
  · rfl
  · exact quote
  · exact backslash

end Steps

/-- What comes first in a string, and what its reader makes of it. -/
inductive Front (units : Units) (cs rest : List Char) : Prop where
  /-- The string is over. -/
  | ended (nothing : units = []) (quote : cs = '"' :: rest)
  /-- A character comes first. -/
  | character {c : Char} {more : Units} {left : List Char}
      (front : units = Utf16.charUnits c ++ more) (spelled : Spelled more left rest)
      (shorter : left.length < cs.length)
      (step : ∀ done, readStringFrom done cs = readStringFrom (c :: done) left)
  /-- Half a character on its own comes first. -/
  | refused (noText : ∀ t, units ≠ unitsOf t)
      (refusal : ∀ done, ∃ fault, readStringFrom done cs = .error fault)

/-- What comes behind a first half, and what its reader makes of it. -/
inductive Second (high : Nat) (units : Units) (cs rest : List Char) : Prop where
  | half {low : Nat} {more : Units} {left : List Char} (front : units = low :: more)
      (lower : 0xDC00 ≤ low) (upper : low ≤ 0xDFFF) (spelled : Spelled more left rest)
      (shorter : left.length < cs.length)
      (step : readLowSurrogate high cs =
        .ok (Char.ofNat (0x10000 + (high - 0xD800) * 0x400 + (low - 0xDC00)), left))
  | refused (noHalf : ∀ m more, units = m :: more → ¬ (0xDC00 ≤ m ∧ m ≤ 0xDFFF))
      (refusal : ∃ fault, readLowSurrogate high cs = .error fault)

/-- Behind a first half its reader wants an escape by number. -/
theorem readLowSurrogate_other {high : Nat} {c : Char} {cs : List Char} (h : c ≠ '\\') :
    ∃ fault, readLowSurrogate high (c :: cs) = .error fault := by
  unfold readLowSurrogate
  split <;> simp_all

/-- No escape by letter stands for a second half. -/
theorem readLowSurrogate_letter {high : Nat} {letter : Char} {cs : List Char} (h : letter ≠ 'u') :
    ∃ fault, readLowSurrogate high ('\\' :: letter :: cs) = .error fault := by
  unfold readLowSurrogate
  split <;> simp_all

theorem isLowSurrogate_iff {n : Nat} : isLowSurrogate n = true ↔ 0xDC00 ≤ n ∧ n ≤ 0xDFFF := by
  simp [isLowSurrogate]

theorem isHighSurrogate_iff {n : Nat} : isHighSurrogate n = true ↔ 0xD800 ≤ n ∧ n ≤ 0xDBFF := by
  simp [isHighSurrogate]

/-- **Behind a first half a second half is read and all else refused.** -/
theorem Spelled.second {units : Units} {cs rest : List Char} (h : Spelled units cs rest)
    (high : Nat) : Second high units cs rest := by
  cases h with
  | close => exact .refused (fun m more heq => by cases heq) (readLowSurrogate_other (by decide))
  | plain quote backslash control more =>
    exact .refused (head_charUnits _ _) (readLowSurrogate_other backslash)
  | letter escape more =>
    refine .refused ?_ (readLowSurrogate_letter (ne_u_of_letterEscapes escape))
    rw [← List.singleton_append, ← charUnits_of_letterEscapes escape]
    exact head_charUnits _ _
  | @unit a b c d a' b' c' d' units cs _ first second third fourth more =>
    obtain ⟨n, hn⟩ : ∃ n, n = a' * 0x1000 + b' * 0x100 + c' * 0x10 + d' := ⟨_, rfl⟩
    have hhex : readHex (a :: b :: c :: d :: cs) = .ok (n, cs) :=
      readHex_eq_ok_iff.2 ⟨a, b, c, d, a', b', c', d', rfl, first, second, third, fourth, hn⟩
    rw [← hn]
    by_cases hlow : isLowSurrogate n = true
    · obtain ⟨lower, upper⟩ := isLowSurrogate_iff.1 hlow
      refine .half rfl lower upper more (by simp only [List.length_cons]; omega) ?_
      rw [readLowSurrogate, hhex]
      exact if_pos hlow
    · refine .refused ?_ ⟨.here .loneSurrogate cs, ?_⟩
      · intro m more heq hm
        obtain ⟨rfl, -⟩ := List.cons.inj heq
        exact hlow (isLowSurrogate_iff.2 hm)
      · rw [readLowSurrogate, hhex]
        exact if_neg hlow

/-- **One step of the reader, for each way to write what comes first.** -/
theorem Spelled.front {units : Units} {cs rest : List Char} (h : Spelled units cs rest) :
    Front units cs rest := by
  cases h with
  | close => exact .ended rfl rfl
  | plain quote backslash control more =>
    exact .character rfl more (Nat.lt_succ_self _)
      fun done => readStringFrom_plain quote backslash control
  | letter escape more =>
    refine .character (by rw [charUnits_of_letterEscapes escape]; rfl) more
      (by simp only [List.length_cons]; omega) fun done => ?_
    exact readStringFrom_escape (readEscape_letter escape _)
  | @unit a b c d a' b' c' d' units cs _ first second third fourth more =>
    obtain ⟨n, hn⟩ : ∃ n, n = a' * 0x1000 + b' * 0x100 + c' * 0x10 + d' := ⟨_, rfl⟩
    have hhex : readHex (a :: b :: c :: d :: cs) = .ok (n, cs) :=
      readHex_eq_ok_iff.2 ⟨a, b, c, d, a', b', c', d', rfl, first, second, third, fourth, hn⟩
    have hbound : n < 0x10000 := by
      have := first.1; have := second.1; have := third.1; have := fourth.1
      omega
    rw [← hn]
    by_cases hlow : isLowSurrogate n = true
    · obtain ⟨lower, upper⟩ := isLowSurrogate_iff.1 hlow
      refine .refused (ne_unitsOf_of_low lower upper) fun done => ⟨.here .loneSurrogate cs, ?_⟩
      refine readStringFrom_fault ?_
      rw [readEscape_unicode, readUnicode, hhex]
      exact if_pos hlow
    · have hunicode : readEscape ('u' :: a :: b :: c :: d :: cs) =
          if isHighSurrogate n = true then readLowSurrogate n cs else .ok (Char.ofNat n, cs) := by
        rw [readEscape_unicode, readUnicode, hhex]
        exact if_neg hlow
      by_cases hhigh : isHighSurrogate n = true
      · obtain ⟨lower, upper⟩ := isHighSurrogate_iff.1 hhigh
        rw [if_pos hhigh] at hunicode
        obtain ⟨rfl, lower', upper', spelled, shorter, step⟩ | ⟨noHalf, fault, refusal⟩ :=
          more.second n
        · refine .character (c := Char.ofNat _) ?_ spelled (by simp only [List.length_cons]; omega)
            fun done => readStringFrom_escape (hunicode.trans step)
          rw [Utf16.charUnits_pair lower upper lower' upper']
          rfl
        · exact .refused (ne_unitsOf_of_high lower upper noHalf)
            fun done => ⟨fault, readStringFrom_fault (hunicode.trans refusal)⟩
      · rw [if_neg hhigh] at hunicode
        have hplain : ¬ Utf16.IsSurrogate n := by
          rw [isLowSurrogate_iff] at hlow
          rw [isHighSurrogate_iff] at hhigh
          rw [Utf16.IsSurrogate]
          omega
        refine .character (c := Char.ofNat n) ?_ more (by simp only [List.length_cons]; omega)
          fun done => readStringFrom_escape hunicode
        rw [Utf16.charUnits_ofNat hbound hplain]
        rfl

/-! ## Whole strings -/

/-- What the reader makes of a string: the text of its code units, or a fault where there is
none. -/
inductive Reads (units : Units) (cs rest : List Char) : Prop where
  | text {t : List Char} (units_eq : units = unitsOf t)
      (read : ∀ done, readStringFrom done cs = .ok (.ofList (done.reverse ++ t), rest))
  | refused (noText : ∀ t, units ≠ unitsOf t)
      (refusal : ∀ done, ∃ fault, readStringFrom done cs = .error fault)

/-- **A string is read if it is a text, whatever escapes it is written with.** -/
theorem Spelled.read {units : Units} {cs rest : List Char} (h : Spelled units cs rest) :
    Reads units cs rest := by
  induction hlength : cs.length using Nat.strongRecOn generalizing units cs with
  | _ length ih =>
    cases h.front with
    | ended nothing quote =>
      subst nothing quote
      refine .text (t := []) rfl fun done => ?_
      rw [readStringFrom_quote, List.append_nil]
    | character front spelled shorter step =>
      subst front
      cases ih _ (hlength ▸ shorter) spelled rfl with
      | text units_eq read =>
        refine .text (t := _ :: _) (by rw [units_eq, unitsOf_cons]) fun done => ?_
        rw [step, read, List.reverse_cons, List.append_assoc, List.singleton_append]
      | refused noText refusal =>
        refine .refused (ne_unitsOf_of_tail noText) fun done => ?_
        rw [step]
        exact refusal _
    | refused noText refusal => exact .refused noText refusal

/-- Characters other than quotes, backslashes and controls can be written as they are. -/
theorem Spelled.append {t cs rest : List Char} {units : Units}
    (h : ∀ c ∈ t, c ≠ '"' ∧ c ≠ '\\' ∧ 0x20 ≤ c.toNat) (more : Spelled units cs rest) :
    Spelled (unitsOf t ++ units) (t ++ cs) rest := by
  induction t with
  | nil => exact more
  | cons c t ih =>
    obtain ⟨quote, backslash, control⟩ := h c List.mem_cons_self
    rw [unitsOf_cons, List.append_assoc]
    exact .plain quote backslash control (ih fun d hd => h d (List.mem_cons_of_mem c hd))

/-- A text is read whole, whatever escapes it is written with. -/
theorem readString_spelled {t : String} {cs rest : List Char}
    (h : Spelled (unitsOf t.toList) cs rest) : readString cs = .ok (t, rest) := by
  cases h.read with
  | text units_eq read =>
    rw [readString, read, ← unitsOf_inj.1 units_eq, List.reverse_nil, List.nil_append,
      String.ofList_toList]
  | refused noText refusal => exact (noText _ rfl).elim

/-- What is read is the text of the code units, and what is left follows them. -/
theorem Spelled.eq_of_readString {units : Units} {s : String} {cs rest left : List Char}
    (h : Spelled units cs rest) (hread : readString cs = .ok (s, left)) :
    units = unitsOf s.toList ∧ left = rest := by
  cases h.read with
  | text units_eq read =>
    rw [readString, read] at hread
    obtain ⟨rfl, rfl⟩ := Prod.mk.inj (Except.ok.inj hread)
    exact ⟨by rw [String.toList_ofList]; exact units_eq, rfl⟩
  | refused noText refusal =>
    obtain ⟨fault, hfault⟩ := refusal []
    cases hread.symm.trans hfault

theorem Spelled.of_readHex {cs rest left : List Char} {n : Nat} {units : Units}
    (h : readHex cs = .ok (n, rest)) (more : Spelled units rest left) :
    Spelled (n :: units) ('\\' :: 'u' :: cs) left := by
  obtain ⟨a, b, c, d, a', b', c', d', rfl, first, second, third, fourth, rfl⟩ :=
    readHex_eq_ok_iff.1 h
  exact .unit first second third fourth more

theorem Spelled.of_readLowSurrogate {cs rest left : List Char} {high : Nat} {c : Char}
    {units : Units} (h : readLowSurrogate high cs = .ok (c, rest))
    (more : Spelled units rest left) :
    ∃ units', Spelled units' cs left := by
  unfold readLowSurrogate at h
  split at h
  · cases h
  · cases h
  · split at h
    · cases h
    · rename_i low after hhex
      split at h
      · obtain ⟨-, rfl⟩ := Prod.mk.inj (Except.ok.inj h)
        exact ⟨_, .of_readHex hhex more⟩
      · cases h
  · cases h
  · cases h

theorem Spelled.of_readUnicode {cs rest left : List Char} {c : Char} {units : Units}
    (h : readUnicode cs = .ok (c, rest)) (more : Spelled units rest left) :
    ∃ units', Spelled units' ('\\' :: 'u' :: cs) left := by
  unfold readUnicode at h
  split at h
  · cases h
  · rename_i n after hhex
    split at h
    · cases h
    · split at h
      · obtain ⟨units', spelled⟩ := Spelled.of_readLowSurrogate h more
        exact ⟨_, .of_readHex hhex spelled⟩
      · obtain ⟨-, rfl⟩ := Prod.mk.inj (Except.ok.inj h)
        exact ⟨_, .of_readHex hhex more⟩

theorem Spelled.of_readEscape {cs rest left : List Char} {c : Char} {units : Units}
    (h : readEscape cs = .ok (c, rest)) (more : Spelled units rest left) :
    ∃ units', Spelled units' ('\\' :: cs) left := by
  unfold readEscape at h
  split at h
  · cases h
  · exact Spelled.of_readUnicode h more
  · split at h
    · rename_i hletter
      obtain ⟨-, rfl⟩ := Prod.mk.inj (Except.ok.inj h)
      exact ⟨_, .letter (letterEscape?_eq_some_iff.1 hletter) more⟩
    · cases h

theorem spelled_of_readString {cs rest : List Char} {s : String}
    (h : readString cs = .ok (s, rest)) : ∃ units, Spelled units cs rest := by
  unfold readString at h
  generalize ([] : List Char) = done at h
  fun_induction readStringFrom done cs with
  | case1 => cases h
  | case2 done cs =>
    obtain ⟨-, rfl⟩ := Prod.mk.inj (Except.ok.inj h)
    exact ⟨[], .close⟩
  | case3 => cases h
  | case4 done cs c left hescape ih =>
    obtain ⟨units, more⟩ := ih h
    exact Spelled.of_readEscape hescape more
  | case5 => cases h
  | case6 done c cs quote backslash control ih =>
    obtain ⟨units, more⟩ := ih h
    refine ⟨_, .plain (fun hc => quote hc) (fun hc => backslash hc) ?_ more⟩
    simpa [isControl] using control

/-! ## Strings that are passed over -/

/-- A string is passed over whatever its code units are. -/
theorem skipString_spelled {units : Units} {cs rest : List Char} (h : Spelled units cs rest) :
    skipString cs = .ok rest := by
  induction h with
  | close => rw [skipString]
  | @plain c units cs rest quote backslash control more ih =>
    have hcontrol : isControl c = false := decide_eq_false (Nat.not_lt.2 control)
    rw [skipString, hcontrol]
    · exact ih
    · exact quote
    · exact backslash
  | @letter letter c units cs rest escape more ih =>
    have hescape : skipEscape (letter :: cs) = .ok cs := by
      unfold skipEscape
      split
      · rename_i heq
        cases heq
      · rename_i heq
        exact (ne_u_of_letterEscapes escape (List.cons.inj heq).1).elim
      · rename_i heq
        obtain ⟨rfl, rfl⟩ := List.cons.inj heq
        rw [letterEscape?_eq_some_iff.2 escape]
        rfl
    rw [skipString]
    split
    · rename_i heq
      cases hescape.symm.trans heq
    · rename_i heq
      cases hescape.symm.trans heq
      exact ih
  | @unit a b c d a' b' c' d' units cs rest first second third fourth more ih =>
    have hescape : skipEscape ('u' :: a :: b :: c :: d :: cs) = .ok cs := by
      rw [skipEscape, readHex_eq_ok_iff.2
        ⟨a, b, c, d, a', b', c', d', rfl, first, second, third, fourth, rfl⟩]
      rfl
    rw [skipString]
    split
    · rename_i heq
      cases hescape.symm.trans heq
    · rename_i heq
      cases hescape.symm.trans heq
      exact ih

theorem Spelled.of_skipEscape {cs rest left : List Char} {units : Units}
    (h : skipEscape cs = .ok rest) (more : Spelled units rest left) :
    ∃ units', Spelled units' ('\\' :: cs) left := by
  unfold skipEscape at h
  split at h
  · cases h
  · cases hhex : readHex _ with
    | error fault =>
      rw [hhex] at h
      cases h
    | ok read =>
      obtain ⟨n, after⟩ := read
      rw [hhex] at h
      obtain rfl := Except.ok.inj h
      exact ⟨_, .of_readHex hhex more⟩
  · split at h
    · rename_i hletter
      obtain ⟨c, hc⟩ := Option.isSome_iff_exists.1 hletter
      obtain rfl := Except.ok.inj h
      exact ⟨_, .letter (letterEscape?_eq_some_iff.1 hc) more⟩
    · cases h

/-- **Strings, and nothing else, are passed over.** -/
theorem skipString_eq_ok_iff {cs rest : List Char} :
    skipString cs = .ok rest ↔ ∃ units, Spelled units cs rest := by
  constructor
  · intro h
    fun_induction skipString cs with
    | case1 => cases h
    | case2 cs =>
      obtain rfl := Except.ok.inj h
      exact ⟨[], .close⟩
    | case3 => cases h
    | case4 cs left hescape ih =>
      obtain ⟨units, more⟩ := ih h
      exact Spelled.of_skipEscape hescape more
    | case5 => cases h
    | case6 c cs quote backslash control ih =>
      obtain ⟨units, more⟩ := ih h
      refine ⟨_, .plain (fun hc => quote hc) (fun hc => backslash hc) ?_ more⟩
      simpa [isControl] using control
  · rintro ⟨units, h⟩
    exact skipString_spelled h

end ManifestPublish.Json
