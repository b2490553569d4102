/-!
# Binary floating point of 64 bits

Finite numbers without a sign, in exact whole-number arithmetic.

* `Binary64` : `mantissa * 2 ^ exponent`
* `Binary64.ofRatio?` : the nearest number to a fraction, of two the even one
* `Binary64.add?`, `Binary64.mul?`, `Binary64.div?` : sum, product and quotient, rounded so
* `Binary64.lt` : the order
-/

set_option autoImplicit false

namespace ManifestPublish

/-- A finite number `mantissa * 2 ^ exponent`; the mantissa has at most 53 bits. -/
structure Binary64 where
  mantissa : Nat
  exponent : Int
  deriving DecidableEq, Repr

namespace Binary64

-- Powers of numbers are those of `Nat` itself, also where others are known.
attribute [local instance (high)] instPowNat

def minExponent : Int := -1074

def maxExponent : Int := 971

def mantissaLimit : Nat := 2 ^ (53 : Nat)

def zero : Binary64 := ⟨0, minExponent⟩

/-- The nearest whole number to a fraction, of two the even one. -/
def roundDiv (num den : Nat) : Nat :=
  let quotient := num / den
  let twice := 2 * (num % den)
  if twice > den || (twice = den && quotient % 2 = 1) then quotient + 1 else quotient

/-- A fraction divided by a power of two. -/
def unscale (num den : Nat) (exponent : Int) : Nat × Nat :=
  if 0 ≤ exponent then (num, den * 2 ^ exponent.toNat) else (num * 2 ^ (-exponent).toNat, den)

/-- The exponent under which a fraction has a mantissa of full length, if it can have one. -/
def fittingExponent (num den : Nat) : Int :=
  let guess := max minExponent ((Nat.log2 num : Int) - Nat.log2 den - 53)
  let (n, d) := unscale num den guess
  if mantissaLimit * d ≤ n then guess + 1 else guess

/-- A mantissa and its exponent, the mantissa halved if rounding made it too long. -/
def ofParts? (mantissa : Nat) (exponent : Int) : Option Binary64 :=
  let x : Binary64 :=
    if mantissa = mantissaLimit then ⟨mantissa / 2, exponent + 1⟩ else ⟨mantissa, exponent⟩
  if x.exponent ≤ maxExponent then some x else none

/-- The nearest number to a fraction, unless that is too large. -/
def ofRatio? (num den : Nat) : Option Binary64 :=
  if num = 0 then some zero
  else
    let exponent := fittingExponent num den
    let (n, d) := unscale num den exponent
    ofParts? (roundDiv n d) exponent

/-- The nearest number to a whole number. -/
def ofNat? (n : Nat) : Option Binary64 := ofRatio? n 1

def ratio (x : Binary64) : Nat × Nat := unscale x.mantissa 1 (-x.exponent)

def add? (x y : Binary64) : Option Binary64 :=
  ofRatio? (x.ratio.1 * y.ratio.2 + y.ratio.1 * x.ratio.2) (x.ratio.2 * y.ratio.2)

def mul? (x y : Binary64) : Option Binary64 :=
  ofRatio? (x.ratio.1 * y.ratio.1) (x.ratio.2 * y.ratio.2)

def div? (x y : Binary64) : Option Binary64 :=
  ofRatio? (x.ratio.1 * y.ratio.2) (x.ratio.2 * y.ratio.1)

def lt (x y : Binary64) : Bool := x.ratio.1 * y.ratio.2 < y.ratio.1 * x.ratio.2

end Binary64

end ManifestPublish
