import ManifestPublish.Proofs.Json.Grammar

/-!
# Passing over numbers

* `Json.Follows` : what may come behind a value

A number has no end of its own, so what comes behind it has to be known: a digit, a point or an
exponent would still belong to it.

Principal results: `Json.skipNumber_append` and `Json.isUnsigned_of_skipNumber`.
-/

set_option autoImplicit false

namespace ManifestPublish.Json

/-- What may come behind a value: a blank, a comma or a closing bracket, or nothing. -/
def Follows (rest : List Char) : Prop :=
  ∀ c ∈ rest.head?, c ∈ [' ', '\n', '\t', '\r', ',', ']', '\x7d']

/-! ## Numbers are passed over -/

section Complete

variable {digits fraction exponent rest : List Char}

theorem startsWithDigit_append (h : IsDigits digits) : startsWithDigit (digits ++ rest) = true := by
  obtain ⟨hne, hall⟩ := h
  cases digits with
  | nil => exact (hne rfl).elim
  | cons c digits => exact hall c List.mem_cons_self

theorem skipDigits_append (h : IsDigits digits) (hrest : startsWithDigit rest = false) :
    skipDigits (digits ++ rest) = rest := by
  rw [skipDigits, List.dropWhile_append_of_pos h.2]
  cases rest with
  | nil => rfl
  | cons c rest => exact List.dropWhile_cons_of_neg (by rw [startsWithDigit] at hrest; simp [hrest])

/-- What comes behind a value is no digit, no point and no exponent. -/
theorem Follows.head (h : Follows rest) :
    startsWithDigit rest = false ∧ rest.head? ≠ some '.' ∧
      ∀ c ∈ rest.head?, opensExponent c = false := by
  cases rest with
  | nil => exact ⟨rfl, nofun, nofun⟩
  | cons c rest =>
    have hall : ∀ c ∈ [' ', '\n', '\t', '\r', ',', ']', '\x7d'],
        c.isDigit = false ∧ c ≠ '.' ∧ opensExponent c = false := by simp [opensExponent]
    obtain ⟨hdigit, hpoint, hexponent⟩ := hall c (h c rfl)
    refine ⟨hdigit, fun heq => hpoint (Option.some.inj heq), ?_⟩
    intro d hd
    rw [← Option.some.inj hd]
    exact hexponent

theorem IsExponent.head (h : IsExponent exponent) (hrest : Follows rest) :
    startsWithDigit (exponent ++ rest) = false ∧ (exponent ++ rest).head? ≠ some '.' := by
  obtain rfl | ⟨e, sign, digits, rfl, he, -, -⟩ := h
  · exact ⟨hrest.head.1, hrest.head.2.1⟩
  · have hall : ∀ e ∈ ['e', 'E'], e.isDigit = false ∧ e ≠ '.' := by simp
    exact ⟨(hall e he).1, fun heq => (hall e he).2 (Option.some.inj heq)⟩

theorem skipExponent_append (h : IsExponent exponent) (hrest : Follows rest) :
    skipExponent (exponent ++ rest) = .ok rest := by
  obtain rfl | ⟨e, sign, digits, rfl, he, hsign, hdigits⟩ := h
  · cases rest with
    | nil => rfl
    | cons c rest =>
      have hc : opensExponent c = false := hrest.head.2.2 c rfl
      rw [List.nil_append, skipExponent, if_neg (by simp [hc])]
  · have hopens : opensExponent e = true := by
      have hall : ∀ e ∈ ['e', 'E'], opensExponent e = true := by simp [opensExponent]
      exact hall e he
    have hskip : skipSign (sign ++ digits ++ rest) = digits ++ rest := by
      have hunsigned : skipSign (digits ++ rest) = digits ++ rest := by
        unfold skipSign
        have hfirst : startsWithDigit (digits ++ rest) = true := startsWithDigit_append hdigits
        split
        · rename_i heq
          rw [heq] at hfirst
          cases hfirst
        · rename_i heq
          rw [heq] at hfirst
          cases hfirst
        · rfl
      simp only [List.mem_cons, List.not_mem_nil, or_false] at hsign
      obtain rfl | rfl | rfl := hsign
      · exact hunsigned
      · rfl
      · rfl
    rw [List.cons_append, skipExponent, if_pos hopens, hskip,
      if_pos (startsWithDigit_append hdigits), skipDigits_append hdigits hrest.head.1]

theorem skipFraction_append (h : IsFraction fraction) (hexponent : IsExponent exponent)
    (hrest : Follows rest) : skipFraction (fraction ++ (exponent ++ rest)) = .ok rest := by
  obtain rfl | ⟨digits, rfl, hdigits⟩ := h
  · rw [List.nil_append]
    unfold skipFraction
    split
    · rename_i heq
      exact ((hexponent.head hrest).2 (by rw [heq]; rfl)).elim
    · exact skipExponent_append hexponent hrest
  · rw [List.cons_append, skipFraction, if_pos (startsWithDigit_append hdigits),
      skipDigits_append hdigits (hexponent.head hrest).1]
    exact skipExponent_append hexponent hrest

theorem IsFraction.head (h : IsFraction fraction) (hexponent : IsExponent exponent)
    (hrest : Follows rest) : startsWithDigit (fraction ++ (exponent ++ rest)) = false := by
  obtain rfl | ⟨digits, rfl, -⟩ := h
  · exact (hexponent.head hrest).1
  · rfl

/-- **A number is passed over up to what may come behind it.** -/
theorem skipNumber_append {literal : List Char} (h : IsUnsigned literal) (hrest : Follows rest) :
    skipNumber (literal ++ rest) = .ok rest := by
  obtain ⟨whole, fraction, exponent, rfl, hwhole, hfraction, hexponent⟩ := h
  have htail := hfraction.head hexponent hrest
  rw [List.append_assoc, List.append_assoc]
  obtain rfl | ⟨hdigits, hzero⟩ := hwhole
  · rw [List.singleton_append, skipNumber, htail]
    exact skipFraction_append hfraction hexponent hrest
  · unfold skipNumber
    split
    · rename_i heq
      cases whole with
      | nil => exact (hdigits.1 rfl).elim
      | cons c whole => exact (hzero (congrArg some (List.cons.inj heq).1)).elim
    · rw [if_pos (startsWithDigit_append hdigits), skipDigits_append hdigits htail]
      exact skipFraction_append hfraction hexponent hrest

end Complete

/-! ## What is passed over is a number -/

section Sound

variable {cs rest : List Char}

theorem exists_digits (h : startsWithDigit cs = true) :
    ∃ digits, IsDigits digits ∧ cs = digits ++ skipDigits cs ∧ digits.head? = cs.head? := by
  cases cs with
  | nil => cases h
  | cons c cs =>
    have hc : c.isDigit = true := h
    refine ⟨c :: cs.takeWhile Char.isDigit, ⟨List.cons_ne_nil _ _, ?_⟩, ?_, rfl⟩
    · intro d hd
      obtain rfl | hd := List.mem_cons.1 hd
      · exact hc
      · exact List.all_eq_true.1 List.all_takeWhile d hd
    · rw [skipDigits, List.dropWhile_cons_of_pos hc, List.cons_append,
        List.takeWhile_append_dropWhile]

theorem isExponent_of_skipExponent (h : skipExponent cs = .ok rest) :
    ∃ exponent, IsExponent exponent ∧ cs = exponent ++ rest := by
  unfold skipExponent at h
  split at h
  · obtain rfl := Except.ok.inj h
    exact ⟨[], .inl rfl, rfl⟩
  · rename_i e cs
    split at h
    · rename_i hopens
      have he : e ∈ ['e', 'E'] := by simpa [opensExponent] using hopens
      split at h
      · rename_i hdigit
        obtain ⟨digits, hdigits, hcs, -⟩ := exists_digits hdigit
        obtain rfl := Except.ok.inj h
        obtain ⟨sign, hsign, hskip⟩ :
            ∃ sign, sign ∈ [[], ['+'], ['-']] ∧ cs = sign ++ skipSign cs := by
          unfold skipSign
          split
          · exact ⟨['+'], by decide, rfl⟩
          · exact ⟨['-'], by decide, rfl⟩
          · exact ⟨[], by decide, rfl⟩
        refine ⟨e :: (sign ++ digits), .inr ⟨e, sign, digits, rfl, he, hsign, hdigits⟩, ?_⟩
        rw [List.cons_append, List.append_assoc, ← hcs, ← hskip]
      · cases h
    · obtain rfl := Except.ok.inj h
      exact ⟨[], .inl rfl, rfl⟩

theorem isFraction_of_skipFraction (h : skipFraction cs = .ok rest) :
    ∃ fraction exponent, IsFraction fraction ∧ IsExponent exponent ∧
      cs = fraction ++ (exponent ++ rest) := by
  unfold skipFraction at h
  split at h
  · rename_i cs
    split at h
    · rename_i hdigit
      obtain ⟨digits, hdigits, hcs, -⟩ := exists_digits hdigit
      obtain ⟨exponent, hexponent, hleft⟩ := isExponent_of_skipExponent h
      exact ⟨'.' :: digits, exponent, .inr ⟨digits, rfl, hdigits⟩, hexponent,
        by rw [List.cons_append, ← hleft, ← hcs]⟩
    · cases h
  · obtain ⟨exponent, hexponent, hleft⟩ := isExponent_of_skipExponent h
    exact ⟨[], exponent, .inl rfl, hexponent, hleft⟩

/-- **What is passed over is a number.** -/
theorem isUnsigned_of_skipNumber (h : skipNumber cs = .ok rest) :
    ∃ literal, IsUnsigned literal ∧ cs = literal ++ rest := by
  unfold skipNumber at h
  split at h
  · split at h
    · cases h
    · obtain ⟨fraction, exponent, hfraction, hexponent, rfl⟩ := isFraction_of_skipFraction h
      refine ⟨['0'] ++ (fraction ++ exponent),
        ⟨_, fraction, exponent, rfl, .inl rfl, hfraction, hexponent⟩, ?_⟩
      rw [List.append_assoc, List.append_assoc, List.singleton_append]
  · rename_i hzero
    split at h
    · rename_i hdigit
      obtain ⟨digits, hdigits, hcs, hhead⟩ := exists_digits hdigit
      obtain ⟨fraction, exponent, hfraction, hexponent, hleft⟩ := isFraction_of_skipFraction h
      refine ⟨digits ++ (fraction ++ exponent), ⟨digits, fraction, exponent, rfl,
        .inr ⟨hdigits, ?_⟩, hfraction, hexponent⟩, ?_⟩
      · rw [hhead]
        intro heq
        obtain ⟨cs, rfl⟩ := List.head?_eq_some_iff.1 heq
        exact hzero cs rfl
      · rw [List.append_assoc, List.append_assoc, ← hleft, ← hcs]
    · cases h

end Sound

end ManifestPublish.Json
