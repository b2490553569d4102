import Mathlib
import ManifestPublish.Text.Quoted

/-!
# Quoted texts read back

* `Quoted.quotation?` : the text that is quoted in a message

Principal results: `Quoted.not_isControl_encode` (a quoted text holds no control),
`Quoted.decode?_encode` (nothing is lost) and from it `Quoted.quotation?_append`.
-/

set_option autoImplicit false

namespace ManifestPublish

namespace Quoted

/-- The text that is quoted in a message: what stands between its first and its last quotes, read as
a quoted text. -/
def quotation? (message : String) : Option String :=
  decode? (String.ofList
    ((message.toList.dropWhile (· ≠ '"')).reverse.dropWhile (· ≠ '"')).reverse)

/-! ## Numbers -/

theorem hexValue?_digitChar {d : Nat} (h : d < 16) : hexValue? (Nat.digitChar d) = some d := by
  have hall : ∀ d < 16, hexValue? (Nat.digitChar d) = some d := by decide
  exact hall d h

theorem hexNumber?_append (value : Nat) (cs ds : List Char) :
    hexNumber? value (cs ++ ds) = (hexNumber? value cs).bind fun n => hexNumber? n ds := by
  induction cs generalizing value with
  | nil => rfl
  | cons c cs ih =>
    rw [List.cons_append, hexNumber?, hexNumber?]
    cases hexValue? c with
    | none => rfl
    | some d => exact ih (value * 16 + d)

theorem hexNumber?_hexDigits (n : Nat) : hexNumber? 0 (hexDigits n) = some n := by
  rw [hexDigits]
  induction n using Nat.strongRecOn with
  | ind n ih =>
    rw [Nat.toDigits_eq_if (by decide)]
    split
    · rename_i hsmall
      rw [hexNumber?, hexValue?_digitChar hsmall, Option.bind_some, hexNumber?, Nat.zero_mul,
        Nat.zero_add]
    · rename_i hlarge
      rw [hexNumber?_append, ih (n / 16) (by omega), Option.bind_some, hexNumber?,
        hexValue?_digitChar (Nat.mod_lt n (by decide)), Option.bind_some, hexNumber?,
        Nat.div_add_mod']

theorem exists_hexValue? {value n : Nat} {cs : List Char} (h : hexNumber? value cs = some n) :
    ∀ c ∈ cs, ∃ d, hexValue? c = some d := by
  induction cs generalizing value with
  | nil =>
    rintro c ⟨⟩
  | cons c cs ih =>
    rw [hexNumber?, Option.bind_eq_some_iff] at h
    obtain ⟨d, hd, hrest⟩ := h
    intro x hx
    rcases List.mem_cons.1 hx with rfl | hx
    · exact ⟨d, hd⟩
    · exact ih hrest x hx

theorem readNumbered?_hexDigits (c : Char) (rest : List Char) :
    readNumbered? (hexDigits c.toNat ++ '\x7d' :: rest) = some (c, rest) := by
  have hdigit : ∀ x ∈ hexDigits c.toNat, decide (x ≠ '\x7d') = true := by
    intro x hx
    obtain ⟨d, hd⟩ := exists_hexValue? (hexNumber?_hexDigits c.toNat) x hx
    refine decide_eq_true ?_
    rintro rfl
    cases hd
  have htake : (hexDigits c.toNat ++ '\x7d' :: rest).takeWhile (· ≠ '\x7d') =
      hexDigits c.toNat := by
    rw [List.takeWhile_append_of_pos hdigit, List.takeWhile_cons_of_neg (by decide),
      List.append_nil]
  have hdrop : (hexDigits c.toNat ++ '\x7d' :: rest).dropWhile (· ≠ '\x7d') = '\x7d' :: rest := by
    rw [List.dropWhile_append_of_pos hdigit, List.dropWhile_cons_of_neg (by decide)]
  rw [readNumbered?, htake, hdrop]
  simp only [hexNumber?_hexDigits, Option.map_some, Char.ofNat_toNat]

theorem not_isControl_of_hexValue? {c : Char} {d : Nat} (h : hexValue? c = some d) :
    ¬ IsControl c := by
  unfold hexValue? at h
  rw [IsControl]
  split at h
  · rename_i hc
    have hlow : 48 ≤ c.toNat := UInt32.le_iff_toNat_le.1 hc.1
    have hhigh : c.toNat ≤ 57 := UInt32.le_iff_toNat_le.1 hc.2
    omega
  split at h
  · rename_i hc
    have hlow : 97 ≤ c.toNat := UInt32.le_iff_toNat_le.1 hc.1
    have hhigh : c.toNat ≤ 102 := UInt32.le_iff_toNat_le.1 hc.2
    omega
  · cases h

/-! ## Characters -/

/-- A character in a quoted text: by another after a backslash, by its number, or as itself. -/
inductive Stands (c : Char) : List Char → Prop where
  | escaped {d : Char} (means : unescape? d = some c) (letter : d ≠ 'u') (shown : ¬ IsControl d) :
      Stands c ['\\', d]
  | numbered : Stands c (byNumber c)
  | plain (quotes : c ≠ '"') (backslash : c ≠ '\\') (shown : ¬ IsControl c) : Stands c [c]

theorem not_isControl_of_seen {c : Char} (h : ¬ CharClass.isUnseen c = true) : ¬ IsControl c := by
  unfold CharClass.isUnseen at h
  rw [IsControl]
  split at h
  · exact absurd rfl h
  split at h
  · omega
  split at h
  · exact absurd rfl h
  · omega

theorem stands_encodeChar (c : Char) : Stands c (encodeChar c) := by
  unfold encodeChar
  split_ifs with hnull htab hline hreturn hquote hbackslash hnumber
  · subst hnull
    exact .escaped rfl (by decide) (by decide)
  · subst htab
    exact .escaped rfl (by decide) (by decide)
  · subst hline
    exact .escaped rfl (by decide) (by decide)
  · subst hreturn
    exact .escaped rfl (by decide) (by decide)
  · subst hquote
    exact .escaped rfl (by decide) (by decide)
  · subst hbackslash
    exact .escaped rfl (by decide) (by decide)
  · exact .numbered
  · rw [Bool.or_eq_true, not_or] at hnumber
    exact .plain hquote hbackslash (not_isControl_of_seen hnumber.2)

/-- No control stands in a quoted text. -/
theorem Stands.not_isControl {c : Char} {cs : List Char} (h : Stands c cs) :
    ∀ d ∈ cs, ¬ IsControl d := by
  cases h with
  | escaped _ _ shown => simpa using ⟨by decide, shown⟩
  | plain _ _ shown => simpa using shown
  | numbered =>
    intro d hd
    have hfront : d ∈ ['\\', 'u', '\x7b'] ∨ d ∈ hexDigits c.toNat ∨ d = '\x7d' := by
      simpa [byNumber, or_assoc] using hd
    rcases hfront with hfront | hdigit | rfl
    · have hall : ['\\', 'u', '\x7b'].all (¬ IsControl ·) = true := by decide
      exact of_decide_eq_true (List.all_eq_true.1 hall d hfront)
    · obtain ⟨n, hn⟩ := exists_hexValue? (hexNumber?_hexDigits c.toNat) d hdigit
      exact not_isControl_of_hexValue? hn
    · decide

/-- A character is read from what stands for it, whatever follows. -/
theorem Stands.readChar? {c : Char} {cs : List Char} (h : Stands c cs) (rest : List Char) :
    Quoted.readChar? (cs ++ rest) = some (c, rest) := by
  cases h with
  | escaped means letter =>
    rw [List.cons_append, List.cons_append, List.nil_append, Quoted.readChar?, means]
    · rfl
    · rintro _ hletter -
      exact letter hletter
  | numbered =>
    have happend : byNumber c ++ rest =
        '\\' :: 'u' :: '\x7b' :: (hexDigits c.toNat ++ '\x7d' :: rest) := by
      simp [byNumber]
    rw [happend, Quoted.readChar?, readNumbered?_hexDigits]
  | plain quotes backslash =>
    rw [List.singleton_append, Quoted.readChar?, if_neg]
    · simp [quotes, backslash]
    · rintro _ hslash -
      exact backslash hslash
    · rintro _ _ hslash -
      exact backslash hslash

theorem Stands.ne_quotes {c : Char} {cs : List Char} (h : Stands c cs) (rest : List Char) :
    cs ++ rest ≠ ['"'] := by
  cases h with
  | escaped => simp
  | numbered => simp [byNumber]
  | plain quotes => simp [quotes]

/-! ## Texts -/

/-- **A quoted text holds no control.** -/
theorem not_isControl_encode (s : String) : ∀ c ∈ (encode s).toList, ¬ IsControl c := by
  intro c hc
  rw [encode, String.toList_ofList, List.cons_append, List.mem_cons, List.mem_append,
    List.mem_singleton] at hc
  rcases hc with rfl | hc | rfl
  · decide
  · obtain ⟨d, -, hd⟩ := List.mem_flatMap.1 hc
    exact (stands_encodeChar d).not_isControl c hd
  · decide

theorem decodeChars?_of_readChar? {cs rest : List Char} {c : Char} (hne : cs ≠ ['"'])
    (h : readChar? cs = some (c, rest)) :
    decodeChars? cs = (decodeChars? rest).map (c :: ·) := by
  rw [decodeChars?]
  · split
    · rename_i hnone
      rw [h] at hnone
      cases hnone
    · rename_i hsome
      rw [h] at hsome
      cases hsome
      rfl
  · exact hne

/-- The inside of a quoted text is read up to the quotes that end it. -/
theorem decodeChars?_encodeChars (cs : List Char) :
    decodeChars? (encodeChars cs ++ ['"']) = some cs := by
  induction cs with
  | nil => rw [encodeChars, List.flatMap_nil, List.nil_append, decodeChars?]
  | cons c cs ih =>
    have hstands := stands_encodeChar c
    have hsplit : encodeChars (c :: cs) ++ ['"'] =
        encodeChar c ++ (encodeChars cs ++ ['"']) := by
      rw [encodeChars, List.flatMap_cons, List.append_assoc, encodeChars]
    rw [hsplit, decodeChars?_of_readChar? (hstands.ne_quotes _) (hstands.readChar? _), ih,
      Option.map_some]

/-- **A quoted text is read as it was meant.** -/
theorem decode?_encode (s : String) : decode? (encode s) = some s := by
  rw [decode?, encode, String.toList_ofList, List.cons_append]
  simp only [decodeChars?_encodeChars, Option.map_some, String.ofList_toList]

theorem unquoted {cs : List Char} (h : '"' ∉ cs) : ∀ c ∈ cs, decide (c ≠ '"') = true := by
  intro c hc
  refine decide_eq_true ?_
  rintro rfl
  exact h hc

theorem quotation?_eq_none {message : String} (h : '"' ∉ message.toList) :
    quotation? message = none := by
  have hdrop : message.toList.dropWhile (· ≠ '"') = [] :=
    List.dropWhile_eq_nil_iff.2 (unquoted h)
  rw [quotation?, hdrop]
  rfl

/-- **What is quoted in a message can be read from it**, if there are no other quotes. -/
theorem quotation?_append {before after : String} (hbefore : '"' ∉ before.toList)
    (hafter : '"' ∉ after.toList) (given : String) :
    quotation? (before ++ encode given ++ after) = some given := by
  have hback : '"' ∉ after.toList.reverse := fun hc => hafter (List.mem_reverse.1 hc)
  have hquoted : (encode given).toList = '"' :: (encodeChars given.toList ++ ['"']) :=
    String.toList_ofList
  have hdrop : (before ++ encode given ++ after).toList.dropWhile (· ≠ '"') =
      (encode given).toList ++ after.toList := by
    rw [String.toList_append, String.toList_append, List.append_assoc,
      List.dropWhile_append_of_pos (unquoted hbefore), hquoted, List.cons_append,
      List.dropWhile_cons_of_neg (by decide)]
  have hends : ((encode given).toList ++ after.toList).reverse.dropWhile (· ≠ '"') =
      (encode given).toList.reverse := by
    rw [List.reverse_append, List.dropWhile_append_of_pos (unquoted hback), hquoted,
      List.reverse_cons, List.reverse_concat, List.cons_append,
      List.dropWhile_cons_of_neg (by decide)]
  rw [quotation?, hdrop, hends, List.reverse_reverse, String.ofList_toList, decode?_encode]

end Quoted

end ManifestPublish
