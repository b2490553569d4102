import Mathlib
import ManifestPublish.Proofs.Text.Decimal

/-!
# Numbers place by place, and in machine words

* `Decimal.written` : some digits as they are written
* `Decimal.value` : the number of some digits, each counted by its place
* `Decimal.StartsWith` : a text starts with some digits, and no other digit follows them
* `Decimal.Numeral` : a text is a number and nothing else
* `Decimal.StartsTooLarge` : a text starts with a number that no word holds
* `Decimal.times?`, `Decimal.plus?` : the product and the sum of words, unless they wrap around
* `Decimal.accumulate`, `Decimal.readWord` : reading with a word for the number of the digits so far

Reading counts from the left and looks at one digit after the other; a number counts from the right,
by places.  The two agree for any number of digits, and a word is given up at the digit at which its
number would not fit any more.

Principal results: `Decimal.denotes_iff`, `Decimal.faulty_invalidDigit_iff`,
`Decimal.accumulate_written` and `Decimal.readWord_eq`.
-/

set_option autoImplicit false

namespace ManifestPublish.Decimal

-- Powers of numbers are those of `Nat` itself, also where others are known.
attribute [local instance (high)] instPowNat

/-- Some digits as they are written. -/
def written (digits : List (Fin 10)) : List Char := digits.map fun d => Nat.digitChar d.val

/-- The number of some digits.  The last one counts ones, the one in front of it tens, and so on. -/
def value (digits : List (Fin 10)) : Nat := Nat.ofDigits 10 (digits.reverse.map Fin.val)

/-- A text starts with some digits, at once or behind a `+`, and no other digit follows them. -/
structure StartsWith (s : String) (digits : List (Fin 10)) (rest : List Char) : Prop where
  text : ∃ sign, (sign = [] ∨ sign = ['+']) ∧ s.toList = sign ++ (written digits ++ rest)
  longest : ∀ c, rest.head? = some c → ¬ c.isDigit

/-- A text is a number and nothing else: one digit or more, behind a `+` or not. -/
def Numeral (s : String) (n : Nat) : Prop :=
  ∃ digits, digits ≠ [] ∧ StartsWith s digits [] ∧ value digits = n

/-- A text starts with a number that no word holds, whatever follows it. -/
def StartsTooLarge (s : String) : Prop :=
  ∃ digits rest, StartsWith s digits rest ∧ 2 ^ (64 : Nat) ≤ value digits

/-! ## Digits by their places -/

theorem isDigit_digitChar (d : Fin 10) : (Nat.digitChar d).isDigit = true := by
  revert d
  decide

theorem toNat_digitChar (d : Fin 10) : (Nat.digitChar d).toNat = d + 48 := by
  revert d
  decide

theorem digitChar_ne_plus (d : Fin 10) : Nat.digitChar d ≠ '+' := by
  revert d
  decide

theorem exists_digitChar {c : Char} (h : c.isDigit) : ∃ d : Fin 10, Nat.digitChar d = c := by
  have hrange : 48 ≤ c.toNat ∧ c.toNat ≤ 57 := by
    simpa [Char.isDigit, UInt32.le_iff_toNat_le] using h
  refine ⟨⟨c.toNat - 48, by omega⟩, ?_⟩
  apply Char.toNat_inj.1
  rw [toNat_digitChar]
  show c.toNat - 48 + 48 = c.toNat
  omega

theorem isDigit_written {digits : List (Fin 10)} {c : Char} (h : c ∈ written digits) :
    c.isDigit = true := by
  obtain ⟨d, -, rfl⟩ := List.mem_map.1 h
  exact isDigit_digitChar d

theorem exists_written {cs : List Char} (h : ∀ c ∈ cs, c.isDigit) :
    ∃ digits, written digits = cs := by
  induction cs with
  | nil => exact ⟨[], rfl⟩
  | cons c cs ih =>
    obtain ⟨d, hd⟩ := exists_digitChar (h c List.mem_cons_self)
    obtain ⟨digits, hdigits⟩ := ih fun c hc => h c (List.mem_cons_of_mem _ hc)
    refine ⟨d :: digits, ?_⟩
    show Nat.digitChar d :: written digits = c :: cs
    rw [hd, hdigits]

theorem numberFrom_cons (n : Nat) (d : Fin 10) (digits : List (Fin 10)) :
    numberFrom n (written (d :: digits)) = numberFrom (n * 10 + d) (written digits) := by
  show numberFrom (n * 10 + ((Nat.digitChar d).toNat - 48)) (written digits) = _
  rw [toNat_digitChar, Nat.add_sub_cancel]

/-- Counting from the left, behind a number, gives the places of that number to the digits. -/
theorem numberFrom_written (n : Nat) (digits : List (Fin 10)) :
    numberFrom n (written digits) = n * 10 ^ digits.length + value digits := by
  induction digits generalizing n with
  | nil => simp [written, numberFrom, value]
  | cons d digits ih =>
    have hvalue : value (d :: digits) = value digits + 10 ^ digits.length * d := by
      simp [value, Nat.ofDigits_append]
    rw [numberFrom_cons, ih, hvalue, List.length_cons]
    ring

/-- **Counting from the left gives the number that the places of the digits tell.** -/
theorem number_written (digits : List (Fin 10)) : number (written digits) = value digits := by
  rw [number, numberFrom_written, Nat.zero_mul, Nat.zero_add]

/-! ## Texts that start with digits -/

theorem exists_sign (cs : List Char) :
    ∃ sign, (sign = [] ∨ sign = ['+']) ∧ cs = sign ++ unsigned cs := by
  unfold unsigned
  split
  · exact ⟨['+'], .inr rfl, rfl⟩
  · exact ⟨[], .inl rfl, rfl⟩

theorem unsigned_written (d : Fin 10) (digits : List (Fin 10)) (rest : List Char) :
    unsigned (written (d :: digits) ++ rest) = written (d :: digits) ++ rest := by
  show unsigned (Nat.digitChar d :: (written digits ++ rest)) = _
  unfold unsigned
  split
  · rename_i heq
    exact absurd (List.cons.inj heq).1 (digitChar_ne_plus d)
  · rfl

theorem takeWhile_written {digits : List (Fin 10)} {rest : List Char}
    (h : ∀ c, rest.head? = some c → ¬ c.isDigit) :
    (written digits ++ rest).takeWhile Char.isDigit = written digits := by
  have hrest : rest.takeWhile Char.isDigit = [] := by
    cases rest with
    | nil => rfl
    | cons c rest => exact List.takeWhile_cons_of_neg (h c rfl)
  rw [List.takeWhile_append_of_pos fun c hc => isDigit_written hc, hrest, List.append_nil]

section Texts

variable {s : String} {digits : List (Fin 10)} {rest : List Char} {n : Nat}

theorem StartsWith.unsigned_eq (h : StartsWith s digits rest) (hfilled : digits ≠ []) :
    unsigned s.toList = written digits ++ rest := by
  obtain ⟨d, ds, rfl⟩ := List.exists_cons_of_ne_nil hfilled
  obtain ⟨sign, rfl | rfl, hs⟩ := h.text
  · rw [hs, List.nil_append, unsigned_written]
  · rw [hs]
    rfl

theorem exists_startsWith (s : String) :
    ∃ digits rest, StartsWith s digits rest ∧ unsigned s.toList = written digits ++ rest := by
  have hall : ∀ c ∈ (unsigned s.toList).takeWhile Char.isDigit, c.isDigit :=
    fun c hc => List.mem_takeWhile_imp hc
  obtain ⟨digits, hdigits⟩ := exists_written hall
  have hsplit : written digits ++ (unsigned s.toList).dropWhile Char.isDigit =
      unsigned s.toList := by
    rw [hdigits, List.takeWhile_append_dropWhile]
  obtain ⟨sign, hsign, hs⟩ := exists_sign s.toList
  refine ⟨digits, _, ⟨⟨sign, hsign, ?_⟩, ?_⟩, hsplit.symm⟩
  · rw [hsplit]
    exact hs
  · intro c hc hdigit
    have hstop := List.head?_dropWhile_not Char.isDigit (unsigned s.toList)
    rw [hc] at hstop
    simp [hdigit] at hstop

/-- **A text denotes a number exactly if it is that number and nothing else.** -/
theorem denotes_iff : Denotes s n ↔ Numeral s n := by
  constructor
  · intro h
    obtain ⟨digits, hdigits⟩ := exists_written h.digits
    refine ⟨digits, ?_, ⟨?_, by simp⟩, ?_⟩
    · rintro rfl
      exact h.nonempty hdigits.symm
    · rw [List.append_nil, hdigits]
      exact exists_sign s.toList
    · rw [← number_written, hdigits, h.number]
  · rintro ⟨digits, hfilled, hstarts, rfl⟩
    have hunsigned := hstarts.unsigned_eq hfilled
    rw [List.append_nil] at hunsigned
    refine ⟨?_, ?_, ?_⟩
    · rw [hunsigned]
      exact fun hnil => hfilled (List.map_eq_nil_iff.1 hnil)
    · rw [hunsigned]
      exact fun c hc => isDigit_written hc
    · rw [hunsigned, number_written]

theorem startsTooLarge_iff :
    StartsTooLarge s ↔ 2 ^ (64 : Nat) ≤ number ((unsigned s.toList).takeWhile Char.isDigit) := by
  constructor
  · rintro ⟨digits, rest, hstarts, hlarge⟩
    have hfilled : digits ≠ [] := by
      rintro rfl
      exact absurd hlarge (by decide)
    rw [hstarts.unsigned_eq hfilled, takeWhile_written hstarts.longest, number_written]
    exact hlarge
  · intro h
    obtain ⟨digits, rest, hstarts, hunsigned⟩ := exists_startsWith s
    rw [hunsigned, takeWhile_written hstarts.longest, number_written] at h
    exact ⟨digits, rest, hstarts, h⟩

theorem faulty_empty_iff : Faulty s .empty ↔ s = "" := by
  constructor
  · intro h
    cases h with
    | empty hs => exact hs
  · exact .empty

theorem faulty_tooLarge_iff : Faulty s .tooLarge ↔ StartsTooLarge s := by
  rw [startsTooLarge_iff]
  constructor
  · intro h
    cases h with
    | tooLarge hlarge => exact hlarge
  · exact .tooLarge

/-- **A digit is missing or wrong in whatever is neither empty nor a number**, unless it starts with
one that is too large. -/
theorem faulty_invalidDigit_iff :
    Faulty s .invalidDigit ↔ s ≠ "" ∧ ¬ StartsTooLarge s ∧ ¬ ∃ n, Numeral s n := by
  rw [startsTooLarge_iff, Nat.not_le]
  constructor
  · intro h
    cases h with
    | invalidDigit hfilled hsmall hother =>
      refine ⟨hfilled, hsmall, ?_⟩
      rintro ⟨n, hn⟩
      have hdenotes := denotes_iff.2 hn
      rcases hother with hnil | ⟨c, hc, hnot⟩
      · exact hdenotes.nonempty hnil
      · exact hnot (hdenotes.digits c hc)
  · rintro ⟨hfilled, hsmall, hno⟩
    refine .invalidDigit hfilled hsmall ?_
    by_contra hall
    rw [not_or] at hall
    have hdenotes : Denotes s (number (unsigned s.toList)) := by
      refine ⟨hall.1, fun c hc => ?_, rfl⟩
      by_contra hnot
      exact hall.2 ⟨c, hc, hnot⟩
    exact hno ⟨_, denotes_iff.1 hdenotes⟩

end Texts

/-! ## Machine words -/

/-- The word that an operation comes to, unless it wrapped around the number that is due. -/
def checked (due : Nat) (word : UInt64) : Option UInt64 :=
  if due < 2 ^ (64 : Nat) then some word else none

/-- The product of two words, unless it wraps around. -/
def times? (a b : UInt64) : Option UInt64 := checked (a.toNat * b.toNat) (a * b)

/-- The sum of two words, unless it wraps around. -/
def plus? (a b : UInt64) : Option UInt64 := checked (a.toNat + b.toNat) (a + b)

/-- One more digit behind those whose number a word holds. -/
def push? (held : UInt64) (d : Nat) : Option UInt64 :=
  (times? held 10).bind fun shifted => plus? shifted (UInt64.ofNat d)

/-- Reads the rest of the digits after those whose number a word holds. -/
def accumulate : UInt64 → List Char → Except Fault UInt64
  | held, [] => .ok held
  | held, c :: cs =>
    match digit? c with
    | none => .error .invalidDigit
    | some d =>
      match push? held d with
      | none => .error .tooLarge
      | some next => accumulate next cs

/-- Reads a text with a word for the number of the digits so far. -/
def readWord (s : String) : Except Fault UInt64 :=
  if s = "" then .error .empty
  else if unsigned s.toList = [] then .error .invalidDigit
  else accumulate 0 (unsigned s.toList)

theorem checked_eq_some_iff {due : Nat} {word w : UInt64}
    (hword : word.toNat = due % 2 ^ (64 : Nat)) : checked due word = some w ↔ w.toNat = due := by
  have hw := w.toNat_lt
  unfold checked
  split
  · rename_i hfits
    rw [Nat.mod_eq_of_lt hfits] at hword
    rw [Option.some.injEq, ← UInt64.toNat_inj, hword, eq_comm]
  · rename_i hlarge
    constructor
    · rintro ⟨⟩
    · intro heq
      omega

theorem times?_eq_some_iff {a b w : UInt64} : times? a b = some w ↔ w.toNat = a.toNat * b.toNat :=
  checked_eq_some_iff (UInt64.toNat_mul a b)

theorem plus?_eq_some_iff {a b w : UInt64} : plus? a b = some w ↔ w.toNat = a.toNat + b.toNat :=
  checked_eq_some_iff (UInt64.toNat_add a b)

/-- **One more digit never wraps a word around**: the word that is had holds ten times the number
and the digit. -/
theorem push?_eq_some_iff {held w : UInt64} {d : Nat} (hd : d < 10) :
    push? held d = some w ↔ w.toNat = held.toNat * 10 + d := by
  have hten : (10 : UInt64).toNat = 10 := rfl
  have hdigit : (UInt64.ofNat d).toNat = d :=
    UInt64.toNat_ofNat_of_lt' (Nat.lt_trans hd (by decide))
  have hw := w.toNat_lt
  simp only [push?, Option.bind_eq_some_iff, times?_eq_some_iff, plus?_eq_some_iff, hten, hdigit]
  constructor
  · rintro ⟨shifted, hshifted, hsum⟩
    omega
  · intro heq
    have hfits : held.toNat * 10 < 2 ^ (64 : Nat) := by omega
    have hshifted : (UInt64.ofNat (held.toNat * 10)).toNat = held.toNat * 10 :=
      UInt64.toNat_ofNat_of_lt' hfits
    exact ⟨_, hshifted, by rw [hshifted, heq]⟩

theorem push?_eq_none_iff {held : UInt64} {d : Nat} (hd : d < 10) :
    push? held d = none ↔ 2 ^ (64 : Nat) ≤ held.toNat * 10 + d := by
  rw [Option.eq_none_iff_forall_ne_some]
  constructor
  · intro h
    by_contra hfits
    have hnext : (UInt64.ofNat (held.toNat * 10 + d)).toNat = held.toNat * 10 + d :=
      UInt64.toNat_ofNat_of_lt' (Nat.lt_of_not_le hfits)
    exact h _ ((push?_eq_some_iff hd).2 hnext)
  · intro hlarge w hw
    have hlt := w.toNat_lt
    rw [push?_eq_some_iff hd] at hw
    omega

theorem lt_of_digit? {c : Char} {d : Nat} (h : digit? c = some d) : d < 10 := by
  unfold digit? at h
  split at h
  · rename_i hrange
    have hnine : c.toNat ≤ '9'.toNat := UInt32.le_iff_toNat_le.1 hrange.2
    have hvalue : '9'.toNat = 57 := rfl
    cases h
    omega
  · cases h

/-- Reading in words is reading, told in words. -/
theorem accumulate_eq (held : UInt64) (cs : List Char) :
    accumulate held cs = (readDigits held.toNat cs).map UInt64.ofNat := by
  induction cs generalizing held with
  | nil =>
    show Except.ok held = .ok (UInt64.ofNat held.toNat)
    rw [UInt64.ofNat_toNat]
  | cons c cs ih =>
    rw [accumulate, readDigits]
    cases hdigit : digit? c with
    | none => rfl
    | some d =>
      have hd := lt_of_digit? hdigit
      simp only
      cases hpush : push? held d with
      | none =>
        rw [push?_eq_none_iff hd] at hpush
        rw [if_neg (Nat.not_lt.2 hpush)]
        rfl
      | some next =>
        rw [push?_eq_some_iff hd] at hpush
        rw [if_pos (by rw [← hpush]; exact next.toNat_lt), ← hpush]
        exact ih next

/-- **After any number of digits a word holds just their number, or reading has ended as the number
is too large.** -/
theorem accumulate_written (held : UInt64) (digits : List (Fin 10)) (rest : List Char) :
    (∃ w : UInt64, w.toNat = held.toNat * 10 ^ digits.length + value digits ∧
      accumulate held (written digits ++ rest) = accumulate w rest) ∨
    (2 ^ (64 : Nat) ≤ held.toNat * 10 ^ digits.length + value digits ∧
      accumulate held (written digits ++ rest) = .error .tooLarge) := by
  simp only [← numberFrom_written]
  -- On the digits, from any word: what is held after the first digit is what the rest starts from.
  induction digits generalizing held with
  | nil => exact .inl ⟨held, rfl, rfl⟩
  | cons d digits ih =>
    have hdigit : digit? (Nat.digitChar d) = some d.val := by
      rw [digit?_of_isDigit (isDigit_digitChar d), toNat_digitChar, Nat.add_sub_cancel]
    have hread : accumulate held (written (d :: digits) ++ rest) =
        match push? held d with
        | none => .error .tooLarge
        | some next => accumulate next (written digits ++ rest) := by
      show accumulate held (Nat.digitChar d :: (written digits ++ rest)) = _
      rw [accumulate, hdigit]
    rw [numberFrom_cons, hread]
    cases hpush : push? held d with
    | none =>
      rw [push?_eq_none_iff d.isLt] at hpush
      exact .inr ⟨hpush.trans (le_numberFrom _ _), rfl⟩
    | some next =>
      rw [push?_eq_some_iff d.isLt] at hpush
      rw [← hpush]
      exact ih next

/-- **A text is read as it would be in machine words.** -/
theorem readWord_eq (s : String) : readWord s = read s := by
  rw [read, readChars_eq, readWord]
  simp only [String.toList_eq_nil_iff]
  split
  · rfl
  split
  · rfl
  · exact accumulate_eq 0 _

end ManifestPublish.Decimal
