import ManifestPublish.Text.Base64

/-!
# Base 64 read back

* `Base64.IsDigit` : the sixty-four digits
* `Base64.IsPadded` : digits in groups of four, of which the last one may be filled up

Principal results: `Base64.isPadded_encode` and `Base64.decode?_eq_some_iff` (a text reads as bytes
exactly if it is these bytes written, so there is one spelling for each byte string).
-/

set_option autoImplicit false

namespace ManifestPublish.Base64

/-- The digits: letters, decimal digits, the plus sign and the slash. -/
def IsDigit (c : Char) : Prop :=
  ('A' ≤ c ∧ c ≤ 'Z') ∨ ('a' ≤ c ∧ c ≤ 'z') ∨ ('0' ≤ c ∧ c ≤ '9') ∨ c = '+' ∨ c = '/'

/-- Digits in groups of four, of which the last one may be filled up with at most two signs. -/
structure IsPadded (s : String) : Prop where
  groups : 4 ∣ s.toList.length
  filled : ∃ digits n, s.toList = digits ++ List.replicate n '=' ∧ n ≤ 2 ∧ ∀ c ∈ digits, IsDigit c

/-! ## One digit -/

theorem value?_digit {n : Nat} (h : n < 64) : value? (digit n) = some n := by
  have hall : ∀ n < 64, value? (digit n) = some n := by decide
  exact hall n h

theorem isDigit_digit {n : Nat} (h : n < 64) : IsDigit (digit n) := by
  have hall : ∀ n < 64, IsDigit (digit n) := by
    unfold IsDigit
    decide
  exact hall n h

theorem digit_ne_fill {n : Nat} (h : n < 64) : digit n ≠ '=' := by
  have hall : ∀ n < 64, digit n ≠ '=' := by decide
  exact hall n h

theorem digit_of_value? {c : Char} {n : Nat} (h : value? c = some n) : n < 64 ∧ digit n = c := by
  unfold value? at h
  split at h
  · rename_i hc
    have hlow : 65 ≤ c.toNat := UInt32.le_iff_toNat_le.1 hc.1
    have hhigh : c.toNat ≤ 90 := UInt32.le_iff_toNat_le.1 hc.2
    cases h
    refine ⟨by omega, ?_⟩
    rw [digit, if_pos (by omega), Nat.add_sub_cancel' hlow, Char.ofNat_toNat]
  split at h
  · rename_i hc
    have hlow : 97 ≤ c.toNat := UInt32.le_iff_toNat_le.1 hc.1
    have hhigh : c.toNat ≤ 122 := UInt32.le_iff_toNat_le.1 hc.2
    cases h
    refine ⟨by omega, ?_⟩
    rw [digit, if_neg (by omega), if_pos (by omega), Nat.add_sub_cancel' (by omega),
      Char.ofNat_toNat]
  split at h
  · rename_i hc
    have hlow : 48 ≤ c.toNat := UInt32.le_iff_toNat_le.1 hc.1
    have hhigh : c.toNat ≤ 57 := UInt32.le_iff_toNat_le.1 hc.2
    cases h
    refine ⟨by omega, ?_⟩
    rw [digit, if_neg (by omega), if_neg (by omega), if_pos (by omega), Nat.add_sub_cancel,
      Char.ofNat_toNat]
  split at h
  · rename_i hc
    cases h
    exact ⟨by decide, hc.symm⟩
  split at h
  · rename_i hc
    cases h
    exact ⟨by decide, hc.symm⟩
  · cases h

/-! ## One group -/

theorem decodeChars?_group {p q r s : Nat} (hp : p < 64) (hq : q < 64) (hr : r < 64) (hs : s < 64)
    (rest : List Char) :
    decodeChars? (digit p :: digit q :: digit r :: digit s :: rest) =
      (decodeChars? rest).map fun tail => UInt8.ofNat (p * 4 + q / 16) ::
        UInt8.ofNat (q % 16 * 16 + r / 4) :: UInt8.ofNat (r % 4 * 64 + s) :: tail := by
  rw [decodeChars?]
  · simp only [value?_digit hp, value?_digit hq, value?_digit hr, value?_digit hs]
    cases decodeChars? rest <;> rfl
  · rintro heq -
    exact absurd heq (digit_ne_fill hr)
  · rintro heq -
    exact absurd heq (digit_ne_fill hs)

theorem encodeChars_one {p q : Nat} (hp : p < 64) (hq : q < 64) (hspare : q % 16 = 0) :
    encodeChars [UInt8.ofNat (p * 4 + q / 16)] = [digit p, digit q, '=', '='] := by
  have hbyte : (UInt8.ofNat (p * 4 + q / 16)).toNat = p * 4 + q / 16 :=
    UInt8.toNat_ofNat_of_lt' (show _ < 256 by omega)
  rw [encodeChars, hbyte, show (p * 4 + q / 16) / 4 = p by omega,
    show (p * 4 + q / 16) % 4 * 16 = q by omega]

theorem encodeChars_two {p q r : Nat} (hp : p < 64) (hq : q < 64) (hr : r < 64)
    (hspare : r % 4 = 0) :
    encodeChars [UInt8.ofNat (p * 4 + q / 16), UInt8.ofNat (q % 16 * 16 + r / 4)] =
      [digit p, digit q, digit r, '='] := by
  have hfirst : (UInt8.ofNat (p * 4 + q / 16)).toNat = p * 4 + q / 16 :=
    UInt8.toNat_ofNat_of_lt' (show _ < 256 by omega)
  have hsecond : (UInt8.ofNat (q % 16 * 16 + r / 4)).toNat = q % 16 * 16 + r / 4 :=
    UInt8.toNat_ofNat_of_lt' (show _ < 256 by omega)
  rw [encodeChars, hfirst, hsecond, show (p * 4 + q / 16) / 4 = p by omega,
    show (p * 4 + q / 16) % 4 * 16 + (q % 16 * 16 + r / 4) / 16 = q by omega,
    show (q % 16 * 16 + r / 4) % 16 * 4 = r by omega]

theorem encodeChars_group {p q r s : Nat} (hp : p < 64) (hq : q < 64) (hr : r < 64) (hs : s < 64)
    (rest : Bytes) :
    encodeChars (UInt8.ofNat (p * 4 + q / 16) :: UInt8.ofNat (q % 16 * 16 + r / 4) ::
        UInt8.ofNat (r % 4 * 64 + s) :: rest) =
      digit p :: digit q :: digit r :: digit s :: encodeChars rest := by
  have hfirst : (UInt8.ofNat (p * 4 + q / 16)).toNat = p * 4 + q / 16 :=
    UInt8.toNat_ofNat_of_lt' (show _ < 256 by omega)
  have hsecond : (UInt8.ofNat (q % 16 * 16 + r / 4)).toNat = q % 16 * 16 + r / 4 :=
    UInt8.toNat_ofNat_of_lt' (show _ < 256 by omega)
  have hthird : (UInt8.ofNat (r % 4 * 64 + s)).toNat = r % 4 * 64 + s :=
    UInt8.toNat_ofNat_of_lt' (show _ < 256 by omega)
  rw [encodeChars, hfirst, hsecond, hthird, show (p * 4 + q / 16) / 4 = p by omega,
    show (p * 4 + q / 16) % 4 * 16 + (q % 16 * 16 + r / 4) / 16 = q by omega,
    show (q % 16 * 16 + r / 4) % 16 * 4 + (r % 4 * 64 + s) / 64 = r by omega,
    show (r % 4 * 64 + s) % 64 = s by omega]

theorem uint8_ofNat {b : UInt8} {n : Nat} (h : n = b.toNat) : UInt8.ofNat n = b := by
  rw [h, UInt8.ofNat_toNat]

/-! ## Written and read back -/

theorem decodeChars?_encodeChars (bytes : Bytes) :
    decodeChars? (encodeChars bytes) = some bytes := by
  -- In groups of three bytes, the last of which may be shorter.
  induction bytes using encodeChars.induct with
  | case1 => rfl
  | case2 a =>
    have ha := a.toNat_lt
    have hbyte : UInt8.ofNat (a.toNat / 4 * 4 + a.toNat % 4 * 16 / 16) = a :=
      uint8_ofNat (by omega)
    have hspare : a.toNat % 4 * 16 % 16 = 0 := by omega
    simp only [encodeChars, decodeChars?, value?_digit (show a.toNat / 4 < 64 by omega),
      value?_digit (show a.toNat % 4 * 16 < 64 by omega), hspare, Option.bind_eq_bind,
      Option.bind_some, if_true, hbyte]
  | case3 a b =>
    have ha := a.toNat_lt
    have hb := b.toNat_lt
    have hthird : b.toNat % 16 * 4 < 64 := by omega
    have hfirst : UInt8.ofNat (a.toNat / 4 * 4 + (a.toNat % 4 * 16 + b.toNat / 16) / 16) = a :=
      uint8_ofNat (by omega)
    have hsecond : UInt8.ofNat ((a.toNat % 4 * 16 + b.toNat / 16) % 16 * 16 +
        b.toNat % 16 * 4 / 4) = b := uint8_ofNat (by omega)
    have hspare : b.toNat % 16 * 4 % 4 = 0 := by omega
    rw [encodeChars, decodeChars?]
    · simp only [value?_digit (show a.toNat / 4 < 64 by omega), value?_digit hthird,
        value?_digit (show a.toNat % 4 * 16 + b.toNat / 16 < 64 by omega), hspare,
        Option.bind_eq_bind, Option.bind_some, if_true, hfirst, hsecond]
    · exact digit_ne_fill hthird
  | case4 a b c rest ih =>
    have ha := a.toNat_lt
    have hb := b.toNat_lt
    have hc := c.toNat_lt
    have hfirst : UInt8.ofNat (a.toNat / 4 * 4 + (a.toNat % 4 * 16 + b.toNat / 16) / 16) = a :=
      uint8_ofNat (by omega)
    have hsecond : UInt8.ofNat ((a.toNat % 4 * 16 + b.toNat / 16) % 16 * 16 +
        (b.toNat % 16 * 4 + c.toNat / 64) / 4) = b := uint8_ofNat (by omega)
    have hthird : UInt8.ofNat ((b.toNat % 16 * 4 + c.toNat / 64) % 4 * 64 + c.toNat % 64) = c :=
      uint8_ofNat (by omega)
    rw [encodeChars, decodeChars?_group (by omega) (by omega) (by omega) (by omega), ih, hfirst,
      hsecond, hthird]
    rfl

/-- Only what is written is read: digits and signs that fill up stand where they should, and the
bits to spare are zero. -/
theorem eq_encodeChars {cs : List Char} {bytes : Bytes} (h : decodeChars? cs = some bytes) :
    cs = encodeChars bytes := by
  induction cs using decodeChars?.induct generalizing bytes with
  | case1 =>
    cases h
    rfl
  | case2 p q =>
    simp only [decodeChars?, Option.bind_eq_bind, Option.bind_eq_some_iff] at h
    obtain ⟨m, hm, n, hn, h⟩ := h
    obtain ⟨mSmall, rfl⟩ := digit_of_value? hm
    obtain ⟨nSmall, rfl⟩ := digit_of_value? hn
    split at h
    · rename_i hspare
      cases h
      exact (encodeChars_one mSmall nSmall hspare).symm
    · cases h
  | case3 p q r hr =>
    rw [decodeChars?] at h
    · simp only [Option.bind_eq_bind, Option.bind_eq_some_iff] at h
      obtain ⟨m, hm, n, hn, k, hk, h⟩ := h
      obtain ⟨mSmall, rfl⟩ := digit_of_value? hm
      obtain ⟨nSmall, rfl⟩ := digit_of_value? hn
      obtain ⟨kSmall, rfl⟩ := digit_of_value? hk
      split at h
      · rename_i hspare
        cases h
        exact (encodeChars_two mSmall nSmall kSmall hspare).symm
      · cases h
    · exact hr
  | case4 p q r s rest hr hs ih =>
    rw [decodeChars?] at h
    · simp only [Option.bind_eq_bind, Option.bind_eq_some_iff] at h
      obtain ⟨m, hm, n, hn, k, hk, l, hl, tail, htail, h⟩ := h
      obtain ⟨mSmall, rfl⟩ := digit_of_value? hm
      obtain ⟨nSmall, rfl⟩ := digit_of_value? hn
      obtain ⟨kSmall, rfl⟩ := digit_of_value? hk
      obtain ⟨lSmall, rfl⟩ := digit_of_value? hl
      cases h
      rw [encodeChars_group mSmall nSmall kSmall lSmall, ← ih htail]
    · exact hr
    · exact hs
  | case5 => simp_all [decodeChars?]

/-- **A text reads as bytes exactly if it is these bytes written.** -/
theorem decode?_eq_some_iff {s : String} {bytes : Bytes} :
    decode? s = some bytes ↔ s = encode bytes := by
  rw [decode?, encode]
  constructor
  · intro h
    rw [← eq_encodeChars h, String.ofList_toList]
  · rintro rfl
    rw [String.toList_ofList]
    exact decodeChars?_encodeChars bytes

/-! ## What is written -/

/-- Bytes are written in whole groups, of which the last one may be filled up. -/
theorem encodeChars_filled (bytes : Bytes) :
    4 ∣ (encodeChars bytes).length ∧ ∃ digits n, encodeChars bytes =
      digits ++ List.replicate n '=' ∧ n ≤ 2 ∧ ∀ c ∈ digits, IsDigit c := by
  induction bytes using encodeChars.induct with
  | case1 => exact ⟨⟨0, rfl⟩, [], 0, rfl, by omega, by rintro c ⟨⟩⟩
  | case2 a =>
    have ha := a.toNat_lt
    refine ⟨⟨1, rfl⟩, [digit (a.toNat / 4), digit (a.toNat % 4 * 16)], 2, rfl, by omega, ?_⟩
    simp only [List.forall_mem_cons]
    exact ⟨isDigit_digit (by omega), isDigit_digit (by omega), by rintro c ⟨⟩⟩
  | case3 a b =>
    have ha := a.toNat_lt
    have hb := b.toNat_lt
    refine ⟨⟨1, rfl⟩, [digit (a.toNat / 4), digit (a.toNat % 4 * 16 + b.toNat / 16),
      digit (b.toNat % 16 * 4)], 1, rfl, by omega, ?_⟩
    simp only [List.forall_mem_cons]
    exact ⟨isDigit_digit (by omega), isDigit_digit (by omega), isDigit_digit (by omega),
      by rintro c ⟨⟩⟩
  | case4 a b c rest ih =>
    have ha := a.toNat_lt
    have hb := b.toNat_lt
    have hc := c.toNat_lt
    obtain ⟨⟨k, hk⟩, digits, n, hdigits, hn, hall⟩ := ih
    refine ⟨⟨k + 1, by simp only [encodeChars, List.length_cons]; omega⟩,
      digit (a.toNat / 4) :: digit (a.toNat % 4 * 16 + b.toNat / 16) ::
        digit (b.toNat % 16 * 4 + c.toNat / 64) :: digit (c.toNat % 64) :: digits, n, ?_, hn, ?_⟩
    · rw [encodeChars, hdigits]
      rfl
    · simp only [List.forall_mem_cons]
      exact ⟨isDigit_digit (by omega), isDigit_digit (by omega), isDigit_digit (by omega),
        isDigit_digit (by omega), hall⟩

theorem isPadded_encode (bytes : Bytes) : IsPadded (encode bytes) := by
  obtain ⟨hgroups, hfilled⟩ := encodeChars_filled bytes
  rw [← String.toList_ofList (l := encodeChars bytes)] at hgroups hfilled
  exact ⟨hgroups, hfilled⟩

end ManifestPublish.Base64
