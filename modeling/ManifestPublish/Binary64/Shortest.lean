import ManifestPublish.Binary64.Basic

/-!
# The shortest decimal form

* `Binary64.shortest` : the fewest digits that read back as a number, and of those the nearest
* `Binary64.render` : these digits with a point or an exponent

A number of `n` digits lies on a grid of decimal fractions.  If any point of the grid reads back as
the number, then one of the two beside it does.
-/

set_option autoImplicit false

namespace ManifestPublish.Binary64

-- Powers of numbers are those of `Nat` itself, also where others are known.
attribute [local instance (high)] instPowNat

/-- Digits as a whole number, times a power of ten. -/
structure Scientific where
  digits : Nat
  exponent : Int
  deriving DecidableEq, Repr

/-- A fraction divided by a power of ten. -/
def unscaleTen (num den : Nat) (exponent : Int) : Nat × Nat :=
  if 0 ≤ exponent then (num, den * 10 ^ exponent.toNat) else (num * 10 ^ (-exponent).toNat, den)

/-- Whether `digits * 10 ^ exponent` reads back as the number. -/
def readsBack (x : Binary64) (s : Scientific) : Bool :=
  let (n, d) := unscaleTen s.digits 1 (-s.exponent)
  ofRatio? n d = some x

/-- The place of the first digit of a fraction: the least power of ten above it. -/
def decimalPlace (num den : Nat) : Int :=
  let guess := ((Nat.log2 num : Int) - Nat.log2 den - 1) * 30103 / 100000
  let above (place : Int) : Bool :=
    let (n, d) := unscaleTen num den place
    n < d
  if above guess then guess
  else if above (guess + 1) then guess + 1
  else guess + 2

/-- The point of the grid of `count` digits that reads back, the nearer of two, the even one of two
that are as near. -/
def onGrid? (x : Binary64) (place : Int) (count : Nat) : Option Scientific :=
  let exponent := place - count
  let (n, d) := unscaleTen x.ratio.1 x.ratio.2 exponent
  let below : Scientific := ⟨n / d, exponent⟩
  let above : Scientific := ⟨n / d + 1, exponent⟩
  match x.readsBack below, x.readsBack above with
  | true, true => some (if roundDiv n d = n / d then below else above)
  | true, false => some below
  | false, true => some above
  | false, false => none

/-- Without zeros at the end of the digits; `fuel` bounds their count. -/
def dropZeros : Nat → Scientific → Scientific
  | 0, s => s
  | fuel + 1, s =>
    if s.digits % 10 = 0 && s.digits ≠ 0 then dropZeros fuel ⟨s.digits / 10, s.exponent + 1⟩ else s

def maxDigits : Nat := 17

/-- The fewest digits that read back as a number above zero. -/
def shortest (x : Binary64) : Scientific :=
  let place := decimalPlace x.ratio.1 x.ratio.2
  let found := (List.range maxDigits).findSome? fun i => x.onGrid? place (i + 1)
  dropZeros (maxDigits + 1) (found.getD ⟨0, 0⟩)

/-- Digits with a point after the first `count` of them. -/
def renderPoint (digits : List Char) (count : Nat) : String :=
  String.ofList (digits.take count) ++ "." ++ String.ofList (digits.drop count)

/-- Digits with a point or an exponent: plain from 0.00001 up to sixteen places. -/
def Scientific.render (s : Scientific) : String :=
  let digits := Nat.toDigits 10 s.digits
  let place := (digits.length : Int) + s.exponent
  if 0 ≤ s.exponent && place ≤ 16 then
    String.ofList (digits ++ List.replicate s.exponent.toNat '0') ++ ".0"
  else if 0 < place && place ≤ 16 then renderPoint digits place.toNat
  else if -5 < place && place ≤ 0 then
    "0." ++ String.ofList (List.replicate (-place).toNat '0' ++ digits)
  else if digits.length = 1 then String.ofList digits ++ "e" ++ toString (place - 1)
  else renderPoint digits 1 ++ "e" ++ toString (place - 1)

/-- The shortest form of a number, with a sign if it is negative. -/
def render (negative : Bool) (x : Binary64) : String :=
  (if negative then "-" else "") ++
    (if x.mantissa = 0 then "0.0" else (shortest x).render)

end ManifestPublish.Binary64
