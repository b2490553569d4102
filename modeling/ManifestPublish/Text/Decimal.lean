/-!
# Counts in decimal digits

* `read` : a number below 2 ^ 64 from an optional `+` and decimal digits
* `Fault` : why a text is no such number
-/

set_option autoImplicit false

namespace ManifestPublish.Decimal

-- Powers of numbers are those of `Nat` itself, also where others are known.
attribute [local instance (high)] instPowNat

/-- Why a text is no number below 2 ^ 64. -/
inductive Fault where
  | empty
  | invalidDigit
  | tooLarge
  deriving DecidableEq, Repr

def Fault.message : Fault → String
  | .empty => "cannot parse integer from empty string"
  | .invalidDigit => "invalid digit found in string"
  | .tooLarge => "number too large to fit in target type"

def digit? (c : Char) : Option Nat :=
  if '0' ≤ c ∧ c ≤ '9' then some (c.toNat - 48) else none

/-- Reads the rest of the digits after those worth `value`.  The first character that is no digit
or takes the value to 2 ^ 64 decides the fault. -/
def readDigits : Nat → List Char → Except Fault Nat
  | value, [] => .ok value
  | value, c :: cs =>
    match digit? c with
    | none => .error .invalidDigit
    | some d =>
      if value * 10 + d < 2 ^ (64 : Nat) then readDigits (value * 10 + d) cs else .error .tooLarge

/-- Reads an optional `+` and at least one digit. -/
def readChars : List Char → Except Fault Nat
  | [] => .error .empty
  | ['+'] => .error .invalidDigit
  | '+' :: cs => readDigits 0 cs
  | cs => readDigits 0 cs

/-- The number below 2 ^ 64 that a text stands for. -/
def read (s : String) : Except Fault UInt64 := (readChars s.toList).map UInt64.ofNat

end ManifestPublish.Decimal
