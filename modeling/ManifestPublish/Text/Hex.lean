import ManifestPublish.Text.Utf8

/-!
# Digits of base sixteen

* `encode` : two small digits for each byte
* `capitalDigits` : the two capital digits of a byte
* `digitValue?` : the value of a digit
-/

set_option autoImplicit false

namespace ManifestPublish.Hex

def byteDigits (b : UInt8) : List Char :=
  [Nat.digitChar (b.toNat / 16), Nat.digitChar (b.toNat % 16)]

/-- Bytes in base sixteen, two small digits each. -/
def encode (bytes : Bytes) : String := String.ofList (bytes.flatMap byteDigits)

/-- A digit of base sixteen, capital. -/
def capitalDigit (n : Nat) : Char := (Nat.digitChar n).toUpper

/-- The two capital digits of a byte. -/
def capitalDigits (b : UInt8) : List Char :=
  [capitalDigit (b.toNat / 16), capitalDigit (b.toNat % 16)]

/-- The value of a digit, small or capital. -/
def digitValue? (c : Char) : Option Nat :=
  if '0' ≤ c ∧ c ≤ '9' then some (c.toNat - 48)
  else if 'a' ≤ c ∧ c ≤ 'f' then some (c.toNat - 87)
  else if 'A' ≤ c ∧ c ≤ 'F' then some (c.toNat - 55)
  else none

theorem lt_of_digitValue? {c : Char} {d : Nat} (h : digitValue? c = some d) : c.toNat < 128 := by
  unfold digitValue? at h
  have hle {last : Char} (hc : c ≤ last) : c.toNat ≤ last.toNat := hc
  split at h
  · rename_i hdigit
    exact Nat.lt_of_le_of_lt (hle hdigit.2) (by decide)
  · split at h
    · rename_i hsmall
      exact Nat.lt_of_le_of_lt (hle hsmall.2) (by decide)
    · split at h
      · rename_i hcapital
        exact Nat.lt_of_le_of_lt (hle hcapital.2) (by decide)
      · cases h

end ManifestPublish.Hex
