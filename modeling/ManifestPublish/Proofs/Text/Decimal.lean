import Mathlib
import ManifestPublish.Text.Decimal

/-!
# The numbers that are read

* `Decimal.number` : the number of some decimal digits
* `Decimal.unsigned` : a text without the `+` that may stand at its front
* `Decimal.Denotes` : a text is an optional `+` and the digits of a number, as what a number is
  written with is (`denotes_toString`)
* `Decimal.Faulty` : what is wrong with a text that is no number below 2 ^ 64

Principal results: `Decimal.read_eq_ok_iff` and `Decimal.read_eq_error_iff`.  Reading adds up the
digits one after the other and never comes to 2 ^ 64 on the way, however long the text is.
-/

set_option autoImplicit false

namespace ManifestPublish.Decimal

-- Powers of numbers are those of `Nat` itself, also where others are known.
attribute [local instance (high)] instPowNat

/-- The number of some digits that follow those worth `value`. -/
def numberFrom (value : Nat) (digits : List Char) : Nat :=
  digits.foldl (fun n c => n * 10 + (c.toNat - 48)) value

/-- The number of some decimal digits. -/
def number (digits : List Char) : Nat := numberFrom 0 digits

/-- A text without the `+` that may stand at its front. -/
def unsigned : List Char → List Char
  | '+' :: cs => cs
  | cs => cs

/-- A text is an optional `+` and the digits of a number. -/
structure Denotes (s : String) (n : Nat) : Prop where
  nonempty : unsigned s.toList ≠ []
  digits : ∀ c ∈ unsigned s.toList, c.isDigit
  number : number (unsigned s.toList) = n

/-- What is wrong with a text that is no number below 2 ^ 64.  A number that is too large is told
before whatever follows its digits. -/
inductive Faulty (s : String) : Fault → Prop where
  | empty (h : s = "") : Faulty s .empty
  | tooLarge (h : 2 ^ (64 : Nat) ≤ number ((unsigned s.toList).takeWhile Char.isDigit)) :
      Faulty s .tooLarge
  | invalidDigit (filled : s ≠ "")
      (small : number ((unsigned s.toList).takeWhile Char.isDigit) < 2 ^ (64 : Nat))
      (noDigits : unsigned s.toList = [] ∨ ∃ c ∈ unsigned s.toList, ¬ c.isDigit) :
      Faulty s .invalidDigit

/-! ## Digits -/

theorem digit?_of_isDigit {c : Char} (h : c.isDigit) : digit? c = some (c.toNat - 48) := by
  have hrange : '0' ≤ c ∧ c ≤ '9' := by
    simpa [Char.isDigit, Char.le_def] using h
  rw [digit?, if_pos hrange]

theorem digit?_of_not_isDigit {c : Char} (h : ¬ c.isDigit) : digit? c = none := by
  have hrange : ¬ ('0' ≤ c ∧ c ≤ '9') := by
    simpa [Char.isDigit, Char.le_def] using h
  rw [digit?, if_neg hrange]

theorem le_numberFrom (value : Nat) (digits : List Char) : value ≤ numberFrom value digits := by
  induction digits generalizing value with
  | nil => exact Nat.le_refl value
  | cons c digits ih =>
    have hstep := ih (value * 10 + (c.toNat - 48))
    have hcons : numberFrom value (c :: digits) =
        numberFrom (value * 10 + (c.toNat - 48)) digits := rfl
    omega

/-- **Reading tells the number of the digits at the front**, if it is below 2 ^ 64 and nothing else
follows. -/
theorem readDigits_eq {value : Nat} (hvalue : value < 2 ^ (64 : Nat)) (cs : List Char) :
    readDigits value cs =
      if 2 ^ (64 : Nat) ≤ numberFrom value (cs.takeWhile Char.isDigit) then .error .tooLarge
      else if ∃ c ∈ cs, ¬ c.isDigit then .error .invalidDigit
      else .ok (numberFrom value cs) := by
  -- On the digits: the number read so far stays below 2 ^ 64.
  induction cs generalizing value with
  | nil =>
    have hsmall : ¬ 2 ^ (64 : Nat) ≤ numberFrom value [] := Nat.not_le.2 hvalue
    rw [List.takeWhile_nil, if_neg hsmall, if_neg (by simp)]
    rfl
  | cons c cs ih =>
    by_cases hc : c.isDigit
    · have htake : (c :: cs).takeWhile Char.isDigit = c :: cs.takeWhile Char.isDigit :=
        List.takeWhile_cons_of_pos hc
      have hcons : ∀ ds, numberFrom value (c :: ds) =
          numberFrom (value * 10 + (c.toNat - 48)) ds := fun _ => rfl
      have hrest : (∃ d ∈ c :: cs, ¬ d.isDigit) ↔ ∃ d ∈ cs, ¬ d.isDigit := by simp [hc]
      rw [readDigits, digit?_of_isDigit hc, htake, hcons]
      simp only
      by_cases hnext : value * 10 + (c.toNat - 48) < 2 ^ (64 : Nat)
      · rw [if_pos hnext, ih hnext]
        simp only [hrest, hcons]
      · have hlarge := le_numberFrom (value * 10 + (c.toNat - 48)) (cs.takeWhile Char.isDigit)
        rw [if_neg hnext, if_pos (by omega)]
    · have htake : (c :: cs).takeWhile Char.isDigit = [] := List.takeWhile_cons_of_neg hc
      have hsmall : ¬ 2 ^ (64 : Nat) ≤ numberFrom value [] := Nat.not_le.2 hvalue
      have hother : ∃ d ∈ c :: cs, ¬ d.isDigit := ⟨c, List.mem_cons_self, hc⟩
      rw [readDigits, digit?_of_not_isDigit hc, htake, if_neg hsmall, if_pos hother]

/-! ## Texts -/

theorem readChars_eq (cs : List Char) :
    readChars cs =
      if cs = [] then .error .empty
      else if unsigned cs = [] then .error .invalidDigit
      else readDigits 0 (unsigned cs) := by
  unfold readChars
  split
  · rfl
  · rfl
  · rename_i ds hne
    have hds : ds ≠ [] := by
      rintro rfl
      exact hne rfl
    rw [if_neg (List.cons_ne_nil _ _), unsigned, if_neg hds]
  · rename_i hnil hplus hsigned
    have hunsigned : unsigned cs = cs := by
      unfold unsigned
      split
      · rename_i ds
        exact (hsigned ds rfl).elim
      · rfl
    rw [hunsigned, if_neg hnil, if_neg hnil]

theorem Denotes.unique {s : String} {m n : Nat} (hm : Denotes s m) (hn : Denotes s n) : m = n :=
  hm.number.symm.trans hn.number

theorem Denotes.not_faulty {s : String} {n : Nat} {fault : Fault} (h : Denotes s n)
    (hn : n < 2 ^ (64 : Nat)) : ¬ Faulty s fault := by
  intro hfaulty
  cases hfaulty with
  | empty hs =>
    have hnonempty := h.nonempty
    rw [hs] at hnonempty
    exact hnonempty rfl
  | tooLarge hlarge =>
    have htake : (unsigned s.toList).takeWhile Char.isDigit = unsigned s.toList :=
      List.takeWhile_eq_self_iff.2 h.digits
    rw [htake, h.number] at hlarge
    omega
  | invalidDigit _ _ hother =>
    rcases hother with hnil | ⟨c, hc, hnot⟩
    · exact h.nonempty hnil
    · exact hnot (h.digits c hc)

theorem Faulty.unique {s : String} {f g : Fault} (hf : Faulty s f) (hg : Faulty s g) : f = g := by
  have hempty : s = "" →
      ¬ 2 ^ (64 : Nat) ≤ number ((unsigned s.toList).takeWhile Char.isDigit) := by
    rintro rfl
    decide
  cases hf with
  | empty hs =>
    cases hg with
    | empty => rfl
    | tooLarge hlarge => exact absurd hlarge (hempty hs)
    | invalidDigit hfilled => exact absurd hs hfilled
  | tooLarge hlarge =>
    cases hg with
    | empty hs => exact absurd hlarge (hempty hs)
    | tooLarge => rfl
    | invalidDigit _ hsmall => exact absurd hlarge (Nat.not_le.2 hsmall)
  | invalidDigit hfilled hsmall =>
    cases hg with
    | empty hs => exact absurd hs hfilled
    | tooLarge hlarge => exact absurd hlarge (Nat.not_le.2 hsmall)
    | invalidDigit => rfl

/-- A text is read as its number, or what is wrong with it is told. -/
theorem readChars_spec (s : String) :
    (∃ n, readChars s.toList = .ok n ∧ Denotes s n ∧ n < 2 ^ (64 : Nat)) ∨
      ∃ fault, readChars s.toList = .error fault ∧ Faulty s fault := by
  rw [readChars_eq]
  split
  · rename_i hnil
    exact .inr ⟨_, rfl, .empty (String.toList_eq_nil_iff.1 hnil)⟩
  rename_i hcs
  have hs : s ≠ "" := fun h => hcs (String.toList_eq_nil_iff.2 h)
  split
  · rename_i hnil
    refine .inr ⟨_, rfl, .invalidDigit hs ?_ (.inl hnil)⟩
    rw [hnil]
    decide
  rename_i hunsigned
  rw [readDigits_eq (by decide)]
  split
  · rename_i hlarge
    exact .inr ⟨_, rfl, .tooLarge hlarge⟩
  rename_i hsmall
  split
  · rename_i hother
    exact .inr ⟨_, rfl, .invalidDigit hs (Nat.lt_of_not_le hsmall) (.inr hother)⟩
  · rename_i hdigits
    have hall : ∀ c ∈ unsigned s.toList, c.isDigit := by
      intro c hc
      exact Decidable.byContradiction fun hnot => hdigits ⟨c, hc, hnot⟩
    rw [List.takeWhile_eq_self_iff.2 hall] at hsmall
    exact .inl ⟨_, rfl, ⟨hunsigned, hall, rfl⟩, Nat.lt_of_not_le hsmall⟩

/-- **A text is read exactly if it is an optional `+` and the digits of a number below 2 ^ 64**, and
then as that number. -/
theorem read_eq_ok_iff {s : String} {n : UInt64} : read s = .ok n ↔ Denotes s n.toNat := by
  rcases readChars_spec s with ⟨m, hread, hdenotes, hm⟩ | ⟨fault, hread, hfaulty⟩
  · have hok : read s = .ok (UInt64.ofNat m) := by rw [read, hread]; rfl
    rw [hok]
    constructor
    · intro h
      cases h
      rwa [UInt64.toNat_ofNat_of_lt' hm]
    · intro h
      rw [hdenotes.unique h, UInt64.ofNat_toNat]
  · have herror : read s = .error fault := by rw [read, hread]; rfl
    rw [herror]
    constructor
    · rintro ⟨⟩
    · intro h
      exact absurd hfaulty (h.not_faulty n.toNat_lt)

/-- **What is told of a text that is not read is what is wrong with it.** -/
theorem read_eq_error_iff {s : String} {fault : Fault} :
    read s = .error fault ↔ Faulty s fault := by
  rcases readChars_spec s with ⟨m, hread, hdenotes, hm⟩ | ⟨found, hread, hfaulty⟩
  · have hok : read s = .ok (UInt64.ofNat m) := by rw [read, hread]; rfl
    rw [hok]
    constructor
    · rintro ⟨⟩
    · intro h
      exact absurd h (hdenotes.not_faulty hm)
  · have herror : read s = .error found := by rw [read, hread]; rfl
    rw [herror]
    constructor
    · rintro ⟨⟩
      exact hfaulty
    · intro h
      rw [hfaulty.unique h]

theorem denotes_toString (n : Nat) : Denotes (toString n) n := by
  have hlist : (toString n).toList = Nat.toDigits 10 n := by
    rw [Nat.toString_eq_ofList_toDigits, String.toList_ofList]
  have hdigits : ∀ c ∈ Nat.toDigits 10 n, c.isDigit = true := by
    intro c hc
    exact Nat.isDigit_of_mem_toDigits (by decide) (by decide) hc
  have hunsigned : unsigned (Nat.toDigits 10 n) = Nat.toDigits 10 n := by
    unfold unsigned
    split
    · rename_i cs hplus
      have hsign : '+'.isDigit = true := hdigits '+' (by rw [hplus]; exact List.mem_cons_self)
      exact absurd hsign (by decide)
    · rfl
  refine ⟨?_, ?_, ?_⟩
  · rw [hlist, hunsigned]
    exact Nat.toDigits_ne_nil
  · rw [hlist, hunsigned]
    exact hdigits
  · rw [hlist, hunsigned, number, numberFrom]
    have hvalue : Nat.ofDigitChars 10 (Nat.toDigits 10 n) 0 = n :=
      Nat.ofDigitChars_toDigits (by decide) (by decide)
    simp only [Nat.ofDigitChars_eq_foldl, Nat.mul_comm 10] at hvalue
    exact hvalue

end ManifestPublish.Decimal
