import ManifestPublish.Proofs.Json.Numbers
import ManifestPublish.Proofs.Json.Strings

/-!
# Passing over values

* `Json.Passed` : what the machine makes of each part of a text
* `Json.Finishes` : what is left to write while arrays and objects are open

The machine keeps the open arrays and objects on a stack, the grammar nests them.  What the machine
still has to do for its stack is a tower of continued arrays and objects, one on the other.

Principal results: `Json.skipValue_written` and `Json.written_of_skipValue`.
-/

set_option autoImplicit false

namespace ManifestPublish.Json

/-! ## Blanks -/

section Blanks

variable {cs start rest : List Char} {c : Char}

theorem isBlank_iff : isBlank c = true ↔ c ∈ [' ', '\n', '\t', '\r'] := by
  simp [isBlank, or_assoc]

theorem spaced_refl (cs : List Char) : Spaced cs cs := ⟨[], rfl, nofun⟩

theorem Spaced.trans (h : Spaced cs start) (h' : Spaced start rest) : Spaced cs rest := by
  obtain ⟨blanks, rfl, hblanks⟩ := h
  obtain ⟨blanks', rfl, hblanks'⟩ := h'
  refine ⟨blanks ++ blanks', (List.append_assoc ..).symm, fun c hc => ?_⟩
  obtain hc | hc := List.mem_append.1 hc
  · exact hblanks c hc
  · exact hblanks' c hc

theorem spaced_skipBlanks (cs : List Char) : Spaced cs (skipBlanks cs) :=
  ⟨cs.takeWhile isBlank, List.takeWhile_append_dropWhile.symm,
    fun c hc => isBlank_iff.1 (List.all_eq_true.1 List.all_takeWhile c hc)⟩

theorem Spaced.skipBlanks_eq (h : Spaced cs start) : skipBlanks cs = skipBlanks start := by
  obtain ⟨blanks, rfl, hblanks⟩ := h
  exact List.dropWhile_append_of_pos fun c hc => isBlank_iff.2 (hblanks c hc)

theorem skipBlanks_cons (hc : isBlank c = false) : skipBlanks (c :: rest) = c :: rest :=
  List.dropWhile_cons_of_neg (by simp [hc])

theorem Spaced.skipBlanks_cons (h : Spaced cs (c :: rest)) (hc : isBlank c = false) :
    skipBlanks cs = c :: rest :=
  h.skipBlanks_eq.trans (Json.skipBlanks_cons hc)

theorem skipBlanks_skipBlanks (cs : List Char) : skipBlanks (skipBlanks cs) = skipBlanks cs :=
  (spaced_skipBlanks cs).skipBlanks_eq.symm

theorem Spaced.follows (h : Spaced cs start) (hstart : Follows start) : Follows cs := by
  obtain ⟨blanks, rfl, hblanks⟩ := h
  cases blanks with
  | nil => exact hstart
  | cons b blanks =>
    intro c hc
    obtain rfl : b = c := Option.some.inj hc
    have hall : ∀ b ∈ [' ', '\n', '\t', '\r'], b ∈ [' ', '\n', '\t', '\r', ',', ']', '\x7d'] := by
      simp
    exact hall b (hblanks b List.mem_cons_self)

theorem Spaced.length_le (h : Spaced cs start) : start.length ≤ cs.length := by
  obtain ⟨blanks, rfl, -⟩ := h
  rw [List.length_append]
  omega

end Blanks

/-! ## Labels -/

section Labels

variable {frame : Frame} {name : Units} {cs start rest : List Char}

theorem readWord_eq_ok_iff {ws : List Char} : readWord ws cs = .ok rest ↔ cs = ws ++ rest := by
  fun_induction readWord ws cs with
  | case1 cs => simp
  | case2 => simp
  | case3 ws c cs ih => simpa using ih
  | case4 w ws c cs hne => simp [hne]

theorem skipColon_eq_ok_iff : skipColon cs = .ok rest ↔ Spaced cs (':' :: rest) := by
  constructor
  · intro h
    unfold skipColon at h
    split at h
    · cases h
    · rename_i heq
      obtain rfl := Except.ok.inj h
      exact heq ▸ spaced_skipBlanks cs
    · cases h
  · intro h
    unfold skipColon
    rw [h.skipBlanks_cons (by decide)]
    rfl

/-- A label is passed over, and nothing else. -/
theorem skipLabel_eq_ok_iff :
    frame.skipLabel cs = .ok rest ↔ ∃ name, Labelled frame name cs rest := by
  cases frame with
  | array =>
    constructor
    · intro h
      obtain rfl := Except.ok.inj h
      exact ⟨[], .array⟩
    · rintro ⟨name, label⟩
      cases label with
      | array => rfl
  | object =>
    constructor
    · intro h
      change skipName cs = .ok rest at h
      unfold skipName at h
      split at h
      · cases h
      · rename_i afterQuote heq
        cases hstring : skipString afterQuote with
        | error fault =>
          rw [hstring] at h
          cases h
        | ok afterName =>
          rw [hstring] at h
          obtain ⟨name, spelled⟩ := skipString_eq_ok_iff.1 hstring
          exact ⟨name, .object (heq ▸ spaced_skipBlanks cs) spelled (skipColon_eq_ok_iff.1 h)⟩
      · cases h
    · rintro ⟨name, label⟩
      cases label with
      | object quote spelled colon =>
        change skipName cs = .ok rest
        unfold skipName
        rw [quote.skipBlanks_cons (by decide)]
        change (skipString _).bind skipColon = _
        rw [skipString_spelled spelled]
        exact skipColon_eq_ok_iff.2 colon

theorem Labelled.of_spaced {afterLabel : List Char} (h : Spaced cs start)
    (label : Labelled frame name start afterLabel) (blanks : Spaced afterLabel rest) :
    ∃ afterLabel', Labelled frame name cs afterLabel' ∧ Spaced afterLabel' rest := by
  cases label with
  | array => exact ⟨cs, .array, h.trans blanks⟩
  | object quote spelled colon => exact ⟨afterLabel, .object (h.trans quote) spelled colon, blanks⟩

end Labels

/-! ## The front of a value -/

section Front

variable {v : Value} {cs rest : List Char}

theorem IsNumber.first {literal : List Char} (h : IsNumber literal) :
    ∃ c more, literal = c :: more ∧ (c = '-' ∨ c.isDigit = true) := by
  obtain ⟨whole, fraction, exponent, rfl, rfl | ⟨⟨hne, hdigits⟩, -⟩, -⟩ | ⟨unsigned, rfl, -⟩ := h
  · exact ⟨'0', _, rfl, .inr rfl⟩
  · cases whole with
    | nil => exact (hne rfl).elim
    | cons c whole => exact ⟨c, _, rfl, .inr (hdigits c List.mem_cons_self)⟩
  · exact ⟨'-', _, rfl, .inl rfl⟩

theorem mem_of_isDigit {c : Char} (h : c.isDigit = true) :
    c ∈ ['0', '1', '2', '3', '4', '5', '6', '7', '8', '9'] := by
  simp only [Char.isDigit, Bool.and_eq_true, decide_eq_true_eq] at h
  have hlow : 48 ≤ c.toNat := h.1
  have hhigh : c.toNat < 58 := Nat.lt_succ_of_le h.2
  have hall : ∀ n < 58, 48 ≤ n →
      Char.ofNat n ∈ ['0', '1', '2', '3', '4', '5', '6', '7', '8', '9'] := by decide
  have hc := hall c.toNat hhigh hlow
  rwa [Char.ofNat_toNat] at hc

/-- The characters with which a value may start. -/
def Value.openings : Value → List Char
  | .null => ['n']
  | .boolean true => ['t']
  | .boolean false => ['f']
  | .number _ => ['-', '0', '1', '2', '3', '4', '5', '6', '7', '8', '9']
  | .string _ => ['"']
  | .array _ => ['[']
  | .object _ => ['\x7b']

/-- The first character of a value tells its kind. -/
theorem Written.opening (h : Written (.value v) cs rest) :
    ∃ c more, cs = c :: more ∧ c ∈ v.openings := by
  cases h with
  | number h front =>
    obtain ⟨c, more, rfl, hc⟩ := h.first
    refine ⟨c, more ++ rest, front, ?_⟩
    obtain rfl | hc := hc
    · exact List.mem_cons_self
    · exact List.mem_cons_of_mem _ (mem_of_isDigit hc)
  | null | booleanTrue | booleanFalse | string | array | object =>
    exact ⟨_, _, rfl, List.mem_cons_self⟩

/-- A value starts with neither a blank nor a closing bracket. -/
theorem plain_of_opening {c : Char} (h : c ∈ v.openings) :
    isBlank c = false ∧ c ≠ ']' ∧ c ≠ '\x7d' := by
  have hall : ∀ c ∈ v.openings, isBlank c = false ∧ c ≠ ']' ∧ c ≠ '\x7d' := by
    cases v with
    | boolean value => cases value <;> simp [Value.openings, isBlank]
    | null | number | string | array | object => simp [Value.openings, isBlank]
  exact hall c h

theorem Written.skipBlanks_eq {before : List Char} (h : Written (.value v) cs rest)
    (blanks : Spaced before cs) : skipBlanks before = cs := by
  obtain ⟨c, more, rfl, hc⟩ := h.opening
  exact blanks.skipBlanks_cons (plain_of_opening hc).1

end Front

/-! ## Values without brackets -/

section Scalars

variable {cs rest : List Char}

theorem skipScalar_digit {c : Char} (hc : c.isDigit = true) :
    skipScalar (c :: cs) = skipNumber (c :: cs) := by
  have hall : ∀ c ∈ ['0', '1', '2', '3', '4', '5', '6', '7', '8', '9'],
      c ≠ 'n' ∧ c ≠ 't' ∧ c ≠ 'f' ∧ c ≠ '-' ∧ c ≠ '"' := by simp
  obtain ⟨hn, ht, hf, hminus, hquote⟩ := hall c (mem_of_isDigit hc)
  rw [skipScalar, if_pos hc]
  · exact hn
  · exact ht
  · exact hf
  · exact hminus
  · exact hquote

theorem skipScalar_number {literal : List Char} (h : IsNumber literal) (hrest : Follows rest) :
    skipScalar (literal ++ rest) = .ok rest := by
  obtain h | ⟨unsigned, rfl, h⟩ := h
  · obtain ⟨c, more, rfl, rfl | hc⟩ := IsNumber.first (.inl h)
    · obtain ⟨whole, fraction, exponent, heq, rfl | ⟨⟨hne, hdigits⟩, -⟩, -⟩ := h
      · cases heq
      · cases whole with
        | nil => exact (hne rfl).elim
        | cons c whole =>
          obtain ⟨rfl, -⟩ := List.cons.inj heq
          cases hdigits '-' List.mem_cons_self
    · rw [List.cons_append, skipScalar_digit hc]
      exact skipNumber_append h hrest
  · exact skipNumber_append h hrest

/-- What is passed over without brackets is a value. -/
theorem written_of_skipScalar (h : skipScalar cs = .ok rest) : ∃ v, Written (.value v) cs rest := by
  unfold skipScalar at h
  split at h
  · rw [readWord_eq_ok_iff.1 h]
    exact ⟨_, .null⟩
  · rw [readWord_eq_ok_iff.1 h]
    exact ⟨_, .booleanTrue⟩
  · rw [readWord_eq_ok_iff.1 h]
    exact ⟨_, .booleanFalse⟩
  · obtain ⟨literal, hliteral, rfl⟩ := isUnsigned_of_skipNumber h
    exact ⟨_, .number (.inr ⟨literal, rfl, hliteral⟩) rfl⟩
  · obtain ⟨units, spelled⟩ := skipString_eq_ok_iff.1 h
    exact ⟨_, .string spelled⟩
  · cases h
  · split at h
    · obtain ⟨literal, hliteral, heq⟩ := isUnsigned_of_skipNumber h
      exact ⟨_, .number (.inl hliteral) heq⟩
    · cases h

end Scalars

/-! ## Steps of the machine -/

section Steps

variable {frame : Frame} {stack : List Frame} {cs start rest : List Char} {c : Char}

theorem skipFrom_array (h : skipBlanks cs = '[' :: rest) :
    skipFrom .beforeValue stack cs = skipFrom .afterOpening (.array :: stack) rest := by
  rw [skipFrom]
  split
  · rename_i heq
    cases h.symm.trans heq
    rfl
  · rename_i heq
    cases h.symm.trans heq
  · rename_i hne _
    exact (hne rest h).elim

theorem skipFrom_object (h : skipBlanks cs = '\x7b' :: rest) :
    skipFrom .beforeValue stack cs = skipFrom .afterOpening (.object :: stack) rest := by
  rw [skipFrom]
  split
  · rename_i heq
    cases h.symm.trans heq
  · rename_i heq
    cases h.symm.trans heq
    rfl
  · rename_i _ hne
    exact (hne rest h).elim

theorem skipFrom_scalar (h : skipScalar (skipBlanks cs) = .ok rest) :
    skipFrom .beforeValue stack cs = skipFrom .afterValue stack rest := by
  rw [skipFrom]
  split
  · rename_i heq
    rw [heq] at h
    cases h
  · rename_i heq
    rw [heq] at h
    cases h
  · split
    · rename_i heq
      cases h.symm.trans heq
    · rename_i heq
      cases h.symm.trans heq
      rfl

theorem skipFrom_empty (h : skipBlanks cs = frame.closing :: rest) :
    skipFrom .afterOpening (frame :: stack) cs = skipFrom .afterValue stack rest := by
  rw [skipFrom]
  split
  · rename_i heq
    cases h.symm.trans heq
  · rename_i heq
    cases h.symm.trans heq
    exact if_pos rfl

theorem skipFrom_filled (h : skipBlanks cs = c :: rest) (hc : c ≠ frame.closing)
    (label : frame.skipLabel (c :: rest) = .ok start) :
    skipFrom .afterOpening (frame :: stack) cs = skipFrom .beforeValue (frame :: stack) start := by
  conv => lhs; rw [skipFrom]
  split
  · rename_i heq
    cases h.symm.trans heq
  · rename_i heq
    cases h.symm.trans heq
    rw [if_neg hc]
    split
    · rename_i heq
      cases label.symm.trans heq
    · rename_i heq
      cases label.symm.trans heq
      rfl

theorem skipFrom_close (h : skipBlanks cs = frame.closing :: rest) :
    skipFrom .afterValue (frame :: stack) cs = skipFrom .afterValue stack rest := by
  have hcomma : frame.closing ≠ ',' := by cases frame <;> decide
  rw [skipFrom]
  split
  · rename_i heq
    cases h.symm.trans heq
  · rename_i heq
    cases h.symm.trans heq
    rw [if_neg hcomma, if_pos rfl]

theorem skipFrom_comma (h : skipBlanks cs = ',' :: rest)
    (label : frame.skipLabel rest = .ok start) :
    skipFrom .afterValue (frame :: stack) cs = skipFrom .beforeValue (frame :: stack) start := by
  conv => lhs; rw [skipFrom]
  split
  · rename_i heq
    cases h.symm.trans heq
  · rename_i heq
    cases h.symm.trans heq
    rw [if_pos rfl]
    split
    · rename_i heq
      cases label.symm.trans heq
    · rename_i heq
      cases label.symm.trans heq
      rfl

end Steps

/-! ## Values are passed over -/

/-- What the machine makes of each part of a text. -/
def Passed : Part → List Char → List Char → Prop
  | .value _, cs, rest => Follows rest →
    ∀ stack before, Spaced before cs →
      skipFrom .beforeValue stack before = skipFrom .afterValue stack rest
  | .opened frame _, cs, rest => ∀ stack,
    skipFrom .afterOpening (frame :: stack) cs = skipFrom .afterValue stack rest
  | .elements frame _, cs, rest => ∀ stack,
    (∃ c more, skipBlanks cs = c :: more ∧ c ≠ frame.closing) ∧
    ∀ before, skipBlanks before = skipBlanks cs → ∃ start, frame.skipLabel before = .ok start ∧
      skipFrom .beforeValue (frame :: stack) start = skipFrom .afterValue stack rest
  | .continued frame _, cs, rest => ∀ stack,
    skipFrom .afterValue (frame :: stack) cs = skipFrom .afterValue stack rest

section Complete

variable {frame : Frame} {cs rest : List Char}

theorem closing_not_blank (frame : Frame) : isBlank frame.closing = false := by
  cases frame <;> rfl

theorem Written.follows {elements : List (Units × Value)}
    (h : Written (.continued frame elements) cs rest) : Follows cs := by
  cases h with
  | close h =>
    refine h.follows fun c hc => ?_
    obtain rfl := Option.some.inj hc
    cases frame <;> decide
  | comma h more =>
    refine h.follows fun c hc => ?_
    obtain rfl := Option.some.inj hc
    decide

/-- A label does not look like a closing bracket, nor does a value without one. -/
theorem Labelled.first {name : Units} {v : Value} {afterLabel start afterValue : List Char}
    (label : Labelled frame name cs afterLabel) (blanks : Spaced afterLabel start)
    (value : Written (.value v) start afterValue) :
    ∃ c more, skipBlanks cs = c :: more ∧ c ≠ frame.closing := by
  cases label with
  | array =>
    obtain ⟨c, more, rfl, hc⟩ := value.opening
    exact ⟨c, more, value.skipBlanks_eq blanks, (plain_of_opening hc).2.1⟩
  | object quote spelled colon => exact ⟨'"', _, quote.skipBlanks_cons rfl, by decide⟩

theorem Labelled.skip {name : Units} {v : Value} {before afterLabel start afterValue : List Char}
    (label : Labelled frame name cs afterLabel) (blanks : Spaced afterLabel start)
    (value : Written (.value v) start afterValue) (hbefore : skipBlanks before = skipBlanks cs) :
    ∃ afterLabel', frame.skipLabel before = .ok afterLabel' ∧ Spaced afterLabel' start := by
  cases label with
  | array =>
    refine ⟨before, rfl, ?_⟩
    rw [← value.skipBlanks_eq blanks, ← hbefore]
    exact spaced_skipBlanks before
  | object quote spelled colon =>
    have hquote : Spaced before ('"' :: _) :=
      (hbefore.trans (quote.skipBlanks_cons rfl)) ▸ spaced_skipBlanks before
    exact ⟨afterLabel, skipLabel_eq_ok_iff.2 ⟨name, .object hquote spelled colon⟩, blanks⟩

/-- **The machine passes over every part of a text.** -/
theorem Written.passed {part : Part} (h : Written part cs rest) : Passed part cs rest := by
  induction h with
  | null =>
    intro hrest stack before hbefore
    refine skipFrom_scalar ?_
    rw [hbefore.skipBlanks_cons rfl]
    exact readWord_eq_ok_iff.2 rfl
  | booleanTrue =>
    intro hrest stack before hbefore
    refine skipFrom_scalar ?_
    rw [hbefore.skipBlanks_cons rfl]
    exact readWord_eq_ok_iff.2 rfl
  | booleanFalse =>
    intro hrest stack before hbefore
    refine skipFrom_scalar ?_
    rw [hbefore.skipBlanks_cons rfl]
    exact readWord_eq_ok_iff.2 rfl
  | @number literal cs rest h front =>
    intro hrest stack before hbefore
    refine skipFrom_scalar ?_
    rw [(Written.number h front).skipBlanks_eq hbefore, front]
    exact skipScalar_number h hrest
  | string h =>
    intro hrest stack before hbefore
    refine skipFrom_scalar ?_
    rw [hbefore.skipBlanks_cons rfl]
    exact skipString_spelled h
  | array h ih =>
    intro hrest stack before hbefore
    rw [skipFrom_array (hbefore.skipBlanks_cons rfl)]
    exact ih stack
  | object h ih =>
    intro hrest stack before hbefore
    rw [skipFrom_object (hbefore.skipBlanks_cons rfl)]
    exact ih stack
  | @empty frame cs rest h =>
    intro stack
    exact skipFrom_empty (h.skipBlanks_cons (closing_not_blank frame))
  | filled h ih =>
    intro stack
    obtain ⟨⟨c, more, hcs, hclosing⟩, hskip⟩ := ih stack
    obtain ⟨start, hlabel, hstart⟩ := hskip (c :: more) (hcs ▸ skipBlanks_skipBlanks _)
    rw [skipFrom_filled hcs hclosing hlabel, hstart]
  | element label blanks value more ihvalue ihmore =>
    intro stack
    refine ⟨label.first blanks value, fun before hbefore => ?_⟩
    obtain ⟨start, hlabel, hstart⟩ := label.skip blanks value hbefore
    refine ⟨start, hlabel, ?_⟩
    rw [ihvalue more.follows _ start hstart]
    exact ihmore stack
  | @close frame cs rest h =>
    intro stack
    exact skipFrom_close (h.skipBlanks_cons (closing_not_blank frame))
  | comma h more ih =>
    intro stack
    obtain ⟨start, hlabel, hstart⟩ := (ih stack).2 _ rfl
    rw [skipFrom_comma (h.skipBlanks_cons rfl) hlabel, hstart]

/-- **A value is passed over, whatever it is.** -/
theorem skipValue_written {v : Value} {start : List Char} (blanks : Spaced cs start)
    (value : Written (.value v) start rest) (hrest : Follows rest) : skipValue cs = .ok rest := by
  rw [skipValue, value.passed hrest [] cs blanks, skipFrom]

end Complete

/-! ## What is passed over is a value -/

/-- What is left to write while arrays and objects are open: each goes on and closes. -/
def Finishes : List Frame → List Char → List Char → Prop
  | [], cs, rest => cs = rest
  | frame :: stack, cs, rest =>
    ∃ elements left, Written (.continued frame elements) cs left ∧ Finishes stack left rest

/-- What there is to write where the machine stands. -/
def Stands : Stand → List Frame → List Char → List Char → Prop
  | .beforeValue, stack, cs, rest => ∃ v start left, Spaced cs start ∧
    Written (.value v) start left ∧ Finishes stack left rest
  | .afterOpening, [], cs, rest => cs = rest
  | .afterOpening, frame :: stack, cs, rest => ∃ elements left,
    Written (.opened frame elements) cs left ∧ Finishes stack left rest
  | .afterValue, stack, cs, rest => Finishes stack cs rest

/-- Between the brackets of an array nothing has a label. -/
def Part.Unlabelled : Part → Prop
  | .opened .array inner => ∃ items : List Value, inner = items.map ([], ·)
  | .elements .array inner => ∃ items : List Value, inner = items.map ([], ·)
  | .continued .array inner => ∃ items : List Value, inner = items.map ([], ·)
  | _ => True

section Sound

variable {frame : Frame} {stack : List Frame} {cs start rest : List Char}

theorem Written.unlabelled {part : Part} (h : Written part cs rest) : part.Unlabelled := by
  induction h with
  | null | booleanTrue | booleanFalse | number | string | array | object => trivial
  | @empty frame =>
    cases frame with
    | array => exact ⟨[], rfl⟩
    | object => trivial
  | @close frame =>
    cases frame with
    | array => exact ⟨[], rfl⟩
    | object => trivial
  | @filled frame _ _ _ h ih | @comma frame _ _ _ _ _ _ ih =>
    cases frame with
    | array => exact ih
    | object => trivial
  | @element frame name v elements _ _ _ _ _ label blanks value more ihvalue ihmore =>
    cases label with
    | array =>
      obtain ⟨items, rfl⟩ := ihmore
      exact ⟨v :: items, rfl⟩
    | object => trivial

/-- A label and what it labels, behind blanks, followed by what closes it. -/
theorem Stands.elements {before : List Char} (blanks : Spaced before cs)
    (label : frame.skipLabel cs = .ok start) (h : Stands .beforeValue (frame :: stack) start rest) :
    ∃ elements left, Written (.elements frame elements) before left ∧ Finishes stack left rest := by
  obtain ⟨v, afterBlanks, afterValue, hblanks, value, elements, left, more, hleft⟩ := h
  obtain ⟨name, hlabel⟩ := skipLabel_eq_ok_iff.1 label
  obtain ⟨afterLabel, hlabel, hblanks⟩ := hlabel.of_spaced blanks hblanks
  exact ⟨(name, v) :: elements, left, .element hlabel hblanks value more, hleft⟩

/-- **What the machine passes over is what there was to write.** -/
theorem stands_of_skipFrom {stand : Stand} (h : skipFrom stand stack cs = .ok rest) :
    Stands stand stack cs rest := by
  fun_induction skipFrom stand stack cs with
  | case1 stack cs afterOpening hblanks ih =>
    obtain ⟨elements, left, hopened, hleft⟩ := ih h
    obtain ⟨items, rfl⟩ := hopened.unlabelled
    exact ⟨.array items, _, left, hblanks ▸ spaced_skipBlanks cs, .array hopened, hleft⟩
  | case2 stack cs afterOpening hblanks ih =>
    obtain ⟨members, left, hopened, hleft⟩ := ih h
    exact ⟨.object members, _, left, hblanks ▸ spaced_skipBlanks cs, .object hopened, hleft⟩
  | case3 => cases h
  | case4 stack cs left _ _ hscalar ih =>
    obtain ⟨v, value⟩ := written_of_skipScalar hscalar
    exact ⟨v, _, left, spaced_skipBlanks cs, value, ih h⟩
  | case5 cs => exact Except.ok.inj h
  | case6 => cases h
  | case7 frame stack cs afterClosing hblanks ih =>
    exact ⟨[], afterClosing, .empty (hblanks ▸ spaced_skipBlanks cs), ih h⟩
  | case8 => cases h
  | case9 frame stack cs c more hblanks _ start hlabel ih =>
    obtain ⟨elements, left, helements, hleft⟩ :=
      Stands.elements (hblanks ▸ spaced_skipBlanks cs) hlabel (ih h)
    exact ⟨elements, left, .filled helements, hleft⟩
  | case10 cs => exact Except.ok.inj h
  | case11 => cases h
  | case12 => cases h
  | case13 frame stack cs afterComma start hlabel hblanks ih =>
    obtain ⟨elements, left, helements, hleft⟩ :=
      Stands.elements (spaced_refl afterComma) hlabel (ih h)
    exact ⟨elements, left, .comma (hblanks ▸ spaced_skipBlanks cs) helements, hleft⟩
  | case14 frame stack cs afterClosing hblanks _ ih =>
    exact ⟨[], afterClosing, .close (hblanks ▸ spaced_skipBlanks cs), ih h⟩
  | case15 => cases h

/-- **What is passed over is a value.** -/
theorem written_of_skipValue (h : skipValue cs = .ok rest) :
    ∃ v start, Spaced cs start ∧ Written (.value v) start rest := by
  obtain ⟨v, start, left, blanks, value, rfl⟩ := stands_of_skipFrom h
  exact ⟨v, start, blanks, value⟩

end Sound

end ManifestPublish.Json
