import ManifestPublish.Proofs.Settings.Complaint
import ManifestPublish.Proofs.Text.Numeral

/-!
# Time limits

* `readTimeLimit` : what is told of a text that is to be a time limit
* `zeroMessage`, `malformedMessage` : the words for a text that is none

A time limit is a number of seconds that a word holds, and not zero.  Which fault is told of another
text hangs on the digits that it starts with only, not on how far the word got before the fault was
met.

Principal result: `readTimeLimit_eq_ok_iff_and_error_iff`.
-/

set_option autoImplicit false

namespace ManifestPublish

-- Powers of numbers are those of `Nat` itself, also where others are known.
attribute [local instance (high)] instPowNat

/-- What is told of a text that is to be a time limit: the seconds, or what is wrong with it. -/
def readTimeLimit (s : String) : Except String UInt64 :=
  (parseTimeout s).mapError fun fault => (PublishError.configuration fault).message

/-- What is told of a time limit of zero. -/
def zeroMessage : String :=
  "configuration error: LEANIX_REQUEST_TIMEOUT_SECS must be at least one second"

/-- What is told of a text that is no time limit for a cause. -/
def malformedMessage (cause : String) : String :=
  "configuration error: LEANIX_REQUEST_TIMEOUT_SECS must be a positive integer: " ++ cause

theorem message_zeroTimeout :
    (PublishError.configuration (.zeroTimeout .variable)).message = zeroMessage := by
  decide

theorem message_malformedTimeout (cause : Decimal.Fault) :
    (PublishError.configuration (.malformedTimeout cause)).message =
      malformedMessage cause.message := by
  cases cause <;> decide

variable {s : String}

theorem parseTimeout_eq_error_iff {fault : SettingFault} :
    parseTimeout s = .error fault ↔
      (fault = .zeroTimeout .variable ∧ Decimal.Denotes s 0) ∨
        ∃ cause, fault = .malformedTimeout cause ∧ Decimal.Faulty s cause := by
  rw [← textTimeout_iff]
  constructor
  · intro h
    cases h with
    | zero denotes => exact .inl ⟨rfl, denotes⟩
    | malformed faulty => exact .inr ⟨_, rfl, faulty⟩
  · rintro (⟨rfl, hdenotes⟩ | ⟨cause, rfl, hfaulty⟩)
    · exact .zero hdenotes
    · exact .malformed hfaulty

/-- A text is told apart from others by what is wrong with it. -/
theorem readTimeLimit_eq_error_iff {fault : SettingFault} (h : ∀ text, fault ≠ .stated text) :
    readTimeLimit s = .error (PublishError.configuration fault).message ↔
      parseTimeout s = .error fault := by
  unfold readTimeLimit
  cases hparse : parseTimeout s with
  | ok n =>
    constructor <;> rintro ⟨⟩
  | error found =>
    have hfound : ∀ text, found ≠ .stated text := by
      rintro text rfl
      rcases parseTimeout_eq_error_iff.1 hparse with ⟨⟨⟩, -⟩ | ⟨cause, ⟨⟩, -⟩
    constructor
    · intro htold
      rw [SettingFault.eq_of_message_eq hfound h (Except.error.inj htold)]
    · rintro ⟨⟩
      rfl

theorem readTimeLimit_eq_ok_iff {n : UInt64} :
    readTimeLimit s = .ok n ↔ Decimal.Numeral s n.toNat ∧ 0 < n.toNat := by
  rw [← Decimal.denotes_iff, ← parseTimeout_eq_ok_iff, readTimeLimit]
  cases parseTimeout s with
  | ok m =>
    constructor
    · rintro ⟨⟩
      rfl
    · rintro ⟨⟩
      rfl
  | error fault =>
    constructor <;> rintro ⟨⟩

theorem readTimeLimit_eq_zeroMessage_iff :
    readTimeLimit s = .error zeroMessage ↔ Decimal.Numeral s 0 := by
  rw [← message_zeroTimeout, readTimeLimit_eq_error_iff (by rintro _ ⟨⟩), parseTimeout_eq_error_iff,
    ← Decimal.denotes_iff]
  constructor
  · rintro (⟨-, hdenotes⟩ | ⟨cause, ⟨⟩, -⟩)
    exact hdenotes
  · intro hdenotes
    exact .inl ⟨rfl, hdenotes⟩

theorem readTimeLimit_eq_malformedMessage_iff {cause : Decimal.Fault} :
    readTimeLimit s = .error (malformedMessage cause.message) ↔ Decimal.Faulty s cause := by
  rw [← message_malformedTimeout, readTimeLimit_eq_error_iff (by rintro _ ⟨⟩),
    parseTimeout_eq_error_iff]
  constructor
  · rintro (⟨⟨⟩, -⟩ | ⟨found, ⟨⟩, hfaulty⟩)
    exact hfaulty
  · intro hfaulty
    exact .inr ⟨cause, rfl, hfaulty⟩

theorem exists_malformedMessage_iff :
    (∃ cause : Decimal.Fault, readTimeLimit s = .error (malformedMessage cause.message)) ↔
      ¬ ∃ n : UInt64, Decimal.Numeral s n.toNat := by
  simp only [readTimeLimit_eq_malformedMessage_iff, ← Decimal.denotes_iff, ← Decimal.read_eq_ok_iff,
    ← Decimal.read_eq_error_iff]
  cases Decimal.read s with
  | ok n => simp
  | error fault => simp

/-- **What is told of a text as a time limit.**  The numbers above zero that a word holds are taken,
zero is told as such, and of all else a cause is told: that it starts with a number which is too
large, whatever follows; else that it is empty; else that a digit is missing or wrong.  A word is
enough to read a text of any length: after some digits it holds just their number, or reading has
ended as the number is too large. -/
theorem readTimeLimit_eq_ok_iff_and_error_iff (s : String) :
    (∀ n, readTimeLimit s = .ok n ↔ Decimal.Numeral s n.toNat ∧ 0 < n.toNat) ∧
    (readTimeLimit s = .error zeroMessage ↔ Decimal.Numeral s 0) ∧
    ((∃ cause : Decimal.Fault, readTimeLimit s = .error (malformedMessage cause.message)) ↔
      ¬ ∃ n : UInt64, Decimal.Numeral s n.toNat) ∧
    (readTimeLimit s = .error (malformedMessage "number too large to fit in target type") ↔
      Decimal.StartsTooLarge s) ∧
    (readTimeLimit s = .error (malformedMessage "cannot parse integer from empty string") ↔
      s = "") ∧
    (readTimeLimit s = .error (malformedMessage "invalid digit found in string") ↔
      s ≠ "" ∧ ¬ Decimal.StartsTooLarge s ∧ ¬ ∃ n, Decimal.Numeral s n) ∧
    Decimal.readWord s = Decimal.read s ∧
    ∀ digits rest,
      (∃ w : UInt64, w.toNat = Decimal.value digits ∧
        Decimal.accumulate 0 (Decimal.written digits ++ rest) = Decimal.accumulate w rest) ∨
      (2 ^ (64 : Nat) ≤ Decimal.value digits ∧
        Decimal.accumulate 0 (Decimal.written digits ++ rest) = .error .tooLarge) := by
  have hcause : ∀ cause : Decimal.Fault,
      readTimeLimit s = .error (malformedMessage cause.message) ↔ Decimal.Faulty s cause :=
    fun _ => readTimeLimit_eq_malformedMessage_iff
  refine ⟨fun n => readTimeLimit_eq_ok_iff, readTimeLimit_eq_zeroMessage_iff,
    exists_malformedMessage_iff, ?_, ?_, ?_, Decimal.readWord_eq s, ?_⟩
  · rw [← Decimal.faulty_tooLarge_iff]
    exact hcause .tooLarge
  · rw [← Decimal.faulty_empty_iff]
    exact hcause .empty
  · rw [← Decimal.faulty_invalidDigit_iff]
    exact hcause .invalidDigit
  · intro digits rest
    have hread := Decimal.accumulate_written 0 digits rest
    have hzero : (0 : UInt64).toNat = 0 := rfl
    simpa only [hzero, Nat.zero_mul, Nat.zero_add] using hread

/-- The last number that a word holds is taken.  One more is too large, also where something else
follows, and a text of as many digits with a wrong one among them is not. -/
example :
    parseTimeout "+0018446744073709551615" = .ok 18446744073709551615 ∧
      parseTimeout "18446744073709551616s" = .error (.malformedTimeout .tooLarge) ∧
      parseTimeout "1844674407370955161s6" = .error (.malformedTimeout .invalidDigit) := by
  decide

end ManifestPublish
