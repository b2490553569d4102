import ManifestPublish.Json.Number

/-!
# Values that are not wanted

* `skipValue` : passes over a value, however deep

A value is passed over by a machine with a stack of the arrays and objects that are open.  It waits
for a value, stands behind an opening bracket, or stands behind a value.
-/

set_option autoImplicit false

namespace ManifestPublish.Json

/-- What is open. -/
inductive Frame where
  | array
  | object
  deriving DecidableEq, Repr

def Frame.closing : Frame → Char
  | .array => ']'
  | .object => '\x7d'

/-- The text ends before it is closed. -/
def Frame.endCause : Frame → Cause
  | .array => .endOfArray
  | .object => .endOfObject

/-- Neither closed nor gone on with. -/
def Frame.commaCause : Frame → Cause
  | .array => .noCommaOrBracket
  | .object => .noCommaOrBrace

/-- Passes over a value that is neither array nor object. -/
def skipScalar : List Char → Except Fault (List Char)
  | 'n' :: cs => readWord "ull".toList cs
  | 't' :: cs => readWord "rue".toList cs
  | 'f' :: cs => readWord "alse".toList cs
  | '-' :: cs => skipNumber cs
  | '"' :: cs => skipString cs
  | [] => .error (.here .endOfValue [])
  | c :: cs => if c.isDigit then skipNumber (c :: cs) else .error (.next .noValue (c :: cs))

/-- Passes over the colon after a name. -/
def skipColon (cs : List Char) : Except Fault (List Char) :=
  match skipBlanks cs with
  | [] => .error (.here .endOfObject [])
  | ':' :: cs => .ok cs
  | cs => .error (.next .noColon cs)

/-- Passes over a name and its colon. -/
def skipName (cs : List Char) : Except Fault (List Char) :=
  match skipBlanks cs with
  | [] => .error (.here .endOfObject [])
  | '"' :: cs => (skipString cs).bind skipColon
  | cs => .error (.next .keyIsNoString cs)

/-- Passes over what precedes a value in what is open. -/
def Frame.skipLabel : Frame → List Char → Except Fault (List Char)
  | .array, cs => .ok cs
  | .object, cs => skipName cs

/-- Where the machine stands. -/
inductive Stand where
  | beforeValue
  | afterOpening
  | afterValue
  deriving DecidableEq, Repr

/-- How near the machine is to its next character. -/
def Stand.distance : Stand → Nat
  | .beforeValue => 0
  | .afterOpening => 1
  | .afterValue => 1

theorem length_skipBlanks {cs rest : List Char} (h : skipBlanks cs = rest) :
    rest.length ≤ cs.length :=
  h ▸ (List.dropWhile_sublist _).length_le

theorem length_skipScalar {cs rest : List Char} (h : skipScalar cs = .ok rest) :
    rest.length < cs.length := by
  unfold skipScalar at h
  split at h
  · have := length_readWord h; simp; omega
  · have := length_readWord h; simp; omega
  · have := length_readWord h; simp; omega
  · have := length_skipNumber h; simp; omega
  · have := length_skipString h; simp; omega
  · simp at h
  · rename_i c cs _ _ _ _ _
    split at h
    · unfold skipNumber at h
      split at h
      · rename_i heq
        obtain ⟨rfl, rfl⟩ := List.cons.inj heq
        split at h
        · simp at h
        · have := length_skipFraction h; simp; omega
      · split at h
        · have digits := length_skipDigits cs
          exact Nat.lt_succ_of_le (Nat.le_trans (length_skipFraction h) (by
            simp_all [skipDigits, startsWithDigit]))
        · simp at h
    · simp at h

theorem length_skipColon {cs rest : List Char} (h : skipColon cs = .ok rest) :
    rest.length < cs.length := by
  unfold skipColon at h
  split at h
  · simp at h
  · rename_i left heq
    have blanks := length_skipBlanks heq
    obtain rfl := Except.ok.inj h
    exact Nat.lt_of_succ_le blanks
  · simp at h

theorem length_skipName {cs rest : List Char} (h : skipName cs = .ok rest) :
    rest.length < cs.length := by
  unfold skipName at h
  split at h
  · simp at h
  · rename_i cs heq
    have blanks := length_skipBlanks heq
    cases hs : skipString cs with
    | error fault => simp [hs, Except.bind] at h
    | ok left =>
      have string := length_skipString hs
      have colon : rest.length < left.length :=
        length_skipColon (by simpa [hs, Except.bind] using h)
      simp at blanks
      omega
  · simp at h

/-- No more is left after a label than there was. -/
theorem Frame.length_skipLabel {frame : Frame} {cs rest : List Char}
    (h : frame.skipLabel cs = .ok rest) : rest.length ≤ cs.length := by
  cases frame with
  | array => simp_all [Frame.skipLabel]
  | object => exact Nat.le_of_lt (length_skipName h)

/-- Runs the machine until nothing is open. -/
def skipFrom : Stand → List Frame → List Char → Except Fault (List Char)
  | .beforeValue, stack, cs =>
    match _blanks : skipBlanks cs with
    | '[' :: cs => skipFrom .afterOpening (.array :: stack) cs
    | '\x7b' :: cs => skipFrom .afterOpening (.object :: stack) cs
    | cs =>
      match _scalar : skipScalar cs with
      | .error fault => .error fault
      | .ok rest => skipFrom .afterValue stack rest
  | .afterOpening, [], cs => .ok cs
  | .afterOpening, frame :: stack, cs =>
    match _blanks : skipBlanks cs with
    | [] => .error (.here frame.endCause [])
    | c :: cs =>
      if c = frame.closing then skipFrom .afterValue stack cs
      else
        match _label : frame.skipLabel (c :: cs) with
        | .error fault => .error fault
        | .ok rest => skipFrom .beforeValue (frame :: stack) rest
  | .afterValue, [], cs => .ok cs
  | .afterValue, frame :: stack, cs =>
    match _blanks : skipBlanks cs with
    | [] => .error (.here frame.endCause [])
    | c :: cs =>
      if c = ',' then
        match _label : frame.skipLabel cs with
        | .error fault => .error fault
        | .ok rest => skipFrom .beforeValue (frame :: stack) rest
      else if c = frame.closing then skipFrom .afterValue stack cs
      else .error (.next frame.commaCause (c :: cs))
termination_by stand _ cs => 2 * cs.length + stand.distance
decreasing_by
  all_goals
    have blanks := length_skipBlanks _blanks
    simp only [Stand.distance]
  · simp at blanks; omega
  · simp at blanks; omega
  · have := length_skipScalar _scalar; omega
  · simp at blanks; omega
  · have := Frame.length_skipLabel _label; simp at this; simp at blanks; omega
  · have := Frame.length_skipLabel _label; simp at blanks; omega
  · simp at blanks; omega

/-- Passes over a value. -/
def skipValue (cs : List Char) : Except Fault (List Char) := skipFrom .beforeValue [] cs

end ManifestPublish.Json
