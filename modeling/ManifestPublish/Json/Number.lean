import ManifestPublish.Binary64.Shortest
import ManifestPublish.Json.Lexeme

/-!
# Numbers in a JSON text

* `skipNumber` : the rest of a number, of which only the end is wanted
* `readNumber` : the rest of a number with its value

A number is read as whole as long as it has neither fraction nor exponent and fits in 64 bits, and
as binary floating point else: the digits that fit in 64 bits as a whole number, times or divided
by a power of ten.
-/

set_option autoImplicit false

namespace ManifestPublish.Json

-- Powers of numbers are those of `Nat` itself, also where others are known.
attribute [local instance (high)] instPowNat

def startsWithDigit (cs : List Char) : Bool :=
  match cs with
  | c :: _ => c.isDigit
  | [] => false

def skipDigits (cs : List Char) : List Char := cs.dropWhile Char.isDigit

def skipSign : List Char → List Char
  | '+' :: cs => cs
  | '-' :: cs => cs
  | cs => cs

/-- Whether the next character opens an exponent. -/
def opensExponent (c : Char) : Bool := c = 'e' || c = 'E'

/-! ## The end of a number -/

/-- Passes over an exponent, if there is one. -/
def skipExponent : List Char → Except Fault (List Char)
  | [] => .ok []
  | c :: cs =>
    if opensExponent c then
      if startsWithDigit (skipSign cs) then .ok (skipDigits (skipSign cs))
      else .error (.next .wrongNumber (skipSign cs))
    else .ok (c :: cs)

/-- Passes over a fraction and an exponent, if there are any. -/
def skipFraction : List Char → Except Fault (List Char)
  | '.' :: cs =>
    if startsWithDigit cs then skipExponent (skipDigits cs) else .error (.next .wrongNumber cs)
  | cs => skipExponent cs

/-- Passes over the rest of a number, after its sign. -/
def skipNumber : List Char → Except Fault (List Char)
  | '0' :: cs => if startsWithDigit cs then .error (.next .wrongNumber cs) else skipFraction cs
  | cs =>
    if startsWithDigit cs then skipFraction (skipDigits cs) else .error (.next .wrongNumber cs)

theorem length_skipDigits (cs : List Char) : (skipDigits cs).length ≤ cs.length :=
  (List.dropWhile_sublist _).length_le

theorem length_skipSign (cs : List Char) : (skipSign cs).length ≤ cs.length := by
  unfold skipSign
  split <;> simp

theorem length_skipExponent {cs rest : List Char} (h : skipExponent cs = .ok rest) :
    rest.length ≤ cs.length := by
  unfold skipExponent at h
  split at h
  · simp_all
  · rename_i c cs
    split at h
    · split at h
      · simp only [Except.ok.injEq] at h
        have digits := length_skipDigits (skipSign cs)
        have sign := length_skipSign cs
        subst h
        simp; omega
      · simp at h
    · simp_all

theorem length_skipFraction {cs rest : List Char} (h : skipFraction cs = .ok rest) :
    rest.length ≤ cs.length := by
  unfold skipFraction at h
  split at h
  · rename_i cs
    split at h
    · have exponent := length_skipExponent h
      have digits := length_skipDigits cs
      simp; omega
    · simp at h
  · exact length_skipExponent h

theorem length_skipNumber {cs rest : List Char} (h : skipNumber cs = .ok rest) :
    rest.length ≤ cs.length := by
  unfold skipNumber at h
  split at h
  · split at h
    · simp at h
    · have := length_skipFraction h
      simp; omega
  · split at h
    · exact Nat.le_trans (length_skipFraction h) (length_skipDigits cs)
    · simp at h

/-! ## The value of a number -/

/-- Takes in digits after those worth `value` as long as the whole is below `limit`. -/
def takeDigits (limit : Nat) : Nat → List Char → Nat × List Char
  | value, [] => (value, [])
  | value, c :: cs =>
    let next := value * 10 + (c.toNat - 48)
    if c.isDigit && next < limit then takeDigits limit next cs else (value, c :: cs)

def wholeLimit : Nat := 2 ^ (64 : Nat)

def exponentLimit : Nat := 2 ^ (31 : Nat)

/-- The powers of ten that are at hand; larger ones are too large. -/
def maxPower : Nat := 308

/-- A power of ten, rounded. -/
def powerOfTen (n : Nat) : Binary64 := (Binary64.ofNat? (10 ^ n)).getD .zero

/-- Divides by a power of ten in steps of the largest at hand; `fuel` bounds their count.  Zero
comes out before any fuel that is more than three is used up. -/
def divPower? : Nat → Binary64 → Nat → Option Binary64
  | 0, _, _ => some .zero
  | fuel + 1, x, n =>
    if n ≤ maxPower then x.div? (powerOfTen n)
    else if x.mantissa = 0 then some x
    else (x.div? (powerOfTen maxPower)).bind (divPower? fuel · (n - maxPower))

/-- The number `digits * 10 ^ exponent`, unless it is too large. -/
def assemble? (digits : Nat) (exponent : Int) : Option Binary64 :=
  (Binary64.ofNat? digits).bind fun x =>
    if exponent < 0 then divPower? 4 x (-exponent).toNat
    else if exponent.toNat ≤ maxPower then x.mul? (powerOfTen exponent.toNat)
    else if x.mantissa = 0 then some x
    else none

/-- A number as it is told of one that was not asked for. -/
def fractional (negative : Bool) (x : Binary64) : Unasked := .fractional (x.render negative)

/-- Ends a number that is not whole. -/
def finish (negative : Bool) (digits : Nat) (exponent : Int) (cs : List Char) :
    Except Fault (Unasked × List Char) :=
  match assemble? digits exponent with
  | some x => .ok (fractional negative x, cs)
  | none => .error (.here .numberTooLarge cs)

def startsWithMinus (cs : List Char) : Bool := cs.head? = some '-'

/-- Reads what follows the letter of an exponent. -/
def readExponent (negative : Bool) (digits : Nat) (exponent : Int) (cs : List Char) :
    Except Fault (Unasked × List Char) :=
  let isNegativePower := startsWithMinus cs
  match skipSign cs with
  | [] => .error (.here .endOfValue [])
  | c :: cs =>
    if c.isDigit then
      match takeDigits exponentLimit 0 (c :: cs) with
      | (power, rest) =>
        if startsWithDigit rest then
          if digits ≠ 0 && !isNegativePower then .error (.next .numberTooLarge rest)
          else .ok (fractional negative .zero, skipDigits rest)
        else
          finish negative digits (if isNegativePower then exponent - power else exponent + power)
            rest
    else .error (.next .wrongNumber (c :: cs))

/-- Reads an exponent, if there is one, and ends the number. -/
def readTail (negative : Bool) (digits : Nat) (exponent : Int) :
    List Char → Except Fault (Unasked × List Char)
  | [] => finish negative digits exponent []
  | c :: cs =>
    if opensExponent c then readExponent negative digits exponent cs
    else finish negative digits exponent (c :: cs)

/-- Reads what follows the point of a fraction. -/
def readFraction (negative : Bool) (digits : Nat) (exponent : Int) (cs : List Char) :
    Except Fault (Unasked × List Char) :=
  match cs with
  | [] => .error (.here .endOfValue [])
  | c :: _ =>
    if c.isDigit then
      let (digits, rest) := takeDigits wholeLimit digits cs
      let count := cs.length - rest.length
      readTail negative digits (exponent - count) (skipDigits rest)
    else .error (.next .wrongNumber cs)

/-- A whole number as it is told of one that was not asked for.  Zero with a sign is not whole, nor
is what lies below the least signed number of 64 bits. -/
def whole (negative : Bool) (digits : Nat) : Unasked :=
  if !negative then .integer digits
  else if digits = 0 || 2 ^ (63 : Nat) < digits then
    fractional true ((Binary64.ofNat? digits).getD .zero)
  else .integer (-digits)

/-- Reads the rest of a number, after its sign. -/
def readNumber (negative : Bool) (cs : List Char) : Except Fault (Unasked × List Char) :=
  match cs with
  | [] => .error (.here .endOfValue [])
  | c :: afterFirst =>
    if !c.isDigit then .error (.next .wrongNumber cs)
    else if c = '0' && startsWithDigit afterFirst then .error (.next .wrongNumber afterFirst)
    else
      let (digits, rest) := takeDigits wholeLimit 0 cs
      let exponent := (rest.takeWhile Char.isDigit).length
      match skipDigits rest with
      | '.' :: after => readFraction negative digits exponent after
      | after =>
        if exponent ≠ 0 || after.head?.any opensExponent then
          readTail negative digits exponent after
        else .ok (whole negative digits, after)

end ManifestPublish.Json
