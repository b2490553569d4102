import ManifestPublish.Proofs.Text.Utf8
import ManifestPublish.Url.Percent

/-!
# What escapes stand for

* `Percent.Escapes` : bytes written with some of them as escapes
* `Percent.Unescaped` : a byte string without escapes

Writing some bytes as escapes does not change what a byte string stands for, as long as neither
percent signs nor digits of base sixteen are written so: `Percent.decode_of_escapes`.  A byte string
stands for itself exactly if it is without escapes: `Percent.decode_eq_self_iff`.

Principal result: `Percent.decode_encode_inPath`.
-/

set_option autoImplicit false

namespace ManifestPublish.Percent

-- Powers of numbers are those of `Nat` itself, also where others are known.
attribute [local instance (high)] instPowNat

/-! ## Digits -/

def hexByte (n : Nat) : UInt8 := UInt8.ofNat (Hex.capitalDigit n).toNat

theorem capitalDigit_spec : ∀ n < 16,
    String.utf8EncodeChar (Hex.capitalDigit n) = [hexByte n] ∧ hexValue? (hexByte n) = some n := by
  decide

theorem flatMap_escape (b : UInt8) :
    (escape b).flatMap String.utf8EncodeChar =
      [0x25, hexByte (b.toNat / 16), hexByte (b.toNat % 16)] := by
  have hb : b.toNat < 256 := b.toNat_lt
  obtain ⟨hhigh, -⟩ := capitalDigit_spec (b.toNat / 16) (by omega)
  obtain ⟨hlow, -⟩ := capitalDigit_spec (b.toNat % 16) (by omega)
  have hpercent : String.utf8EncodeChar '%' = [0x25] := by decide
  simp [escape, Hex.capitalDigits, hpercent, hhigh, hlow]

/-! ## Reading one escape -/

theorem decode_cons_of_ne {a : UInt8} (h : a ≠ 0x25) (rest : Bytes) :
    decode (a :: rest) = a :: decode rest := by
  match rest with
  | [] => rfl
  | [_] => rfl
  | _ :: _ :: _ => rw [decode, if_neg h]

theorem decode_digits {b c : UInt8} {high low : Nat} (hb : hexValue? b = some high)
    (hc : hexValue? c = some low) (rest : Bytes) :
    decode (0x25 :: b :: c :: rest) = UInt8.ofNat (high * 16 + low) :: decode rest := by
  rw [decode, if_pos rfl, hb, hc]

/-- A percent sign without two digits stands for itself. -/
theorem decode_percent {rest : Bytes}
    (h : ∀ b c rest', rest = b :: c :: rest' → hexValue? b = none ∨ hexValue? c = none) :
    decode (0x25 :: rest) = 0x25 :: decode rest := by
  match rest with
  | [] => rfl
  | [_] => rfl
  | b :: c :: rest' =>
    rw [decode, if_pos rfl]
    rcases h b c rest' rfl with hb | hc
    · rw [hb]
    · rw [hc]
      cases hexValue? b <;> rfl

theorem decode_escape (b : UInt8) (rest : Bytes) :
    decode (0x25 :: hexByte (b.toNat / 16) :: hexByte (b.toNat % 16) :: rest) =
      b :: decode rest := by
  have hb : b.toNat < 256 := b.toNat_lt
  obtain ⟨-, hhigh⟩ := capitalDigit_spec (b.toNat / 16) (by omega)
  obtain ⟨-, hlow⟩ := capitalDigit_spec (b.toNat % 16) (by omega)
  have hvalue : b.toNat / 16 * 16 + b.toNat % 16 = b.toNat := by omega
  rw [decode_digits hhigh hlow, hvalue, UInt8.ofNat_toNat]

/-! ## Writing some bytes as escapes -/

/-- Bytes written with some of them as escapes, none of which is a percent sign or a digit. -/
inductive Escapes : Bytes → Bytes → Prop where
  | nil : Escapes [] []
  | plain (b : UInt8) {written text : Bytes} (rest : Escapes written text) :
      Escapes (b :: written) (b :: text)
  | escaped {b : UInt8} {written text : Bytes} (sign : b ≠ 0x25) (digit : hexValue? b = none)
      (rest : Escapes written text) :
      Escapes (0x25 :: hexByte (b.toNat / 16) :: hexByte (b.toNat % 16) :: written) (b :: text)

theorem Escapes.append {written text written' text' : Bytes} (h : Escapes written text)
    (h' : Escapes written' text') : Escapes (written ++ written') (text ++ text') := by
  induction h with
  | nil => exact h'
  | plain b _ ih => exact .plain b ih
  | escaped sign digit _ ih => exact .escaped sign digit ih

theorem Escapes.refl (text : Bytes) : Escapes text text := by
  induction text with
  | nil => exact .nil
  | cons b text ih => exact .plain b ih

/-- **Escapes do not change what a byte string stands for.** -/
theorem decode_of_escapes {written text : Bytes} (h : Escapes written text) :
    decode written = decode text := by
  -- On the length of the text: an escape of it takes three bytes at once.
  induction hn : text.length using Nat.strongRecOn generalizing written text with
  | ind n ih =>
    subst hn
    cases h with
    | nil => rfl
    | escaped sign digit rest =>
      rw [decode_escape, decode_cons_of_ne sign, ih _ (Nat.lt_succ_self _) rest rfl]
    | @plain b written text rest =>
      by_cases hb : b = 0x25
      · subst hb
        have hshorter := ih _ (Nat.lt_succ_self _) rest rfl
        -- Two digits in the one are two digits in the other.
        cases rest with
        | nil => rfl
        | escaped sign digit rest =>
          rw [decode_percent, hshorter, decode_percent]
          · rintro _ _ _ ⟨⟩
            exact .inl digit
          · rintro _ _ _ ⟨⟩
            exact .inl (by decide)
        | plain b rest =>
          cases rest with
          | nil => rfl
          | escaped sign digit rest =>
            rw [decode_percent, hshorter, decode_percent]
            · rintro _ _ _ ⟨⟩
              exact .inr digit
            · rintro _ _ _ ⟨⟩
              exact .inr (by decide)
          | @plain c written text rest =>
            cases hb : hexValue? b with
            | none =>
              rw [decode_percent, decode_percent, hshorter]
              · rintro _ _ _ ⟨⟩
                exact .inl hb
              · rintro _ _ _ ⟨⟩
                exact .inl hb
            | some high =>
              cases hc : hexValue? c with
              | none =>
                rw [decode_percent, decode_percent, hshorter]
                · rintro _ _ _ ⟨⟩
                  exact .inr hc
                · rintro _ _ _ ⟨⟩
                  exact .inr hc
              | some low =>
                rw [decode_digits hb hc, decode_digits hb hc, ih _ _ rest rfl]
                simp only [List.length_cons]
                omega
      · rw [decode_cons_of_ne hb, decode_cons_of_ne hb, ih _ (Nat.lt_succ_self _) rest rfl]

/-! ## Byte strings without escapes -/

/-- A byte string without escapes. -/
def Unescaped (bytes : Bytes) : Prop :=
  ∀ b c : UInt8, (hexValue? b).isSome → (hexValue? c).isSome → ¬ [0x25, b, c] <:+: bytes

theorem Unescaped.tail {a : UInt8} {bytes : Bytes} (h : Unescaped (a :: bytes)) :
    Unescaped bytes :=
  fun b c hb hc hinfix => h b c hb hc (List.infix_cons hinfix)

/-- A byte string starts with an escape, or its first byte stands for itself. -/
theorem decode_cons (a : UInt8) (rest : Bytes) :
    (∃ b c rest' v, a :: rest = 0x25 :: b :: c :: rest' ∧ (hexValue? b).isSome ∧
      (hexValue? c).isSome ∧ decode (a :: rest) = v :: decode rest') ∨
    (decode (a :: rest) = a :: decode rest ∧ ∀ b c : UInt8, (hexValue? b).isSome →
      (hexValue? c).isSome → ¬ [0x25, b, c] <+: a :: rest) := by
  by_cases ha : a = 0x25
  · subst ha
    by_cases hdigits : ∃ b c rest', rest = b :: c :: rest' ∧ (hexValue? b).isSome ∧
        (hexValue? c).isSome
    · obtain ⟨b, c, rest', rfl, hb, hc⟩ := hdigits
      obtain ⟨high, hhigh⟩ := Option.isSome_iff_exists.1 hb
      obtain ⟨low, hlow⟩ := Option.isSome_iff_exists.1 hc
      exact .inl ⟨b, c, rest', _, rfl, hb, hc, decode_digits hhigh hlow rest'⟩
    · refine .inr ⟨decode_percent ?_, ?_⟩
      · intro b c rest' hrest
        cases hb : hexValue? b with
        | none => exact .inl rfl
        | some high =>
          cases hc : hexValue? c with
          | none => exact .inr rfl
          | some low =>
            refine absurd ⟨b, c, rest', hrest, ?_, ?_⟩ hdigits
            · rw [hb]
              rfl
            · rw [hc]
              rfl
      · rintro b c hb hc ⟨rest', hrest⟩
        cases hrest
        exact hdigits ⟨b, c, rest', rfl, hb, hc⟩
  · refine .inr ⟨decode_cons_of_ne ha rest, ?_⟩
    rintro b c - - ⟨rest', hrest⟩
    cases hrest
    exact ha rfl

theorem length_decode_le (bytes : Bytes) : (decode bytes).length ≤ bytes.length := by
  induction hn : bytes.length using Nat.strongRecOn generalizing bytes with
  | ind n ih =>
    subst hn
    cases bytes with
    | nil => exact Nat.le_refl _
    | cons a rest =>
      rcases decode_cons a rest with ⟨b, c, rest', v, heq, -, -, hdecode⟩ | ⟨hdecode, -⟩
      · have hlength := congrArg List.length heq
        simp only [List.length_cons] at hlength
        have hshorter := ih rest'.length (by simp only [List.length_cons]; omega) rest' rfl
        rw [hdecode]
        simp only [List.length_cons]
        omega
      · have hshorter := ih rest.length (Nat.lt_succ_self _) rest rfl
        rw [hdecode]
        simp only [List.length_cons]
        omega

/-- **A byte string stands for itself exactly if it is without escapes.** -/
theorem decode_eq_self_iff {bytes : Bytes} : decode bytes = bytes ↔ Unescaped bytes := by
  induction hn : bytes.length using Nat.strongRecOn generalizing bytes with
  | ind n ih =>
    subst hn
    cases bytes with
    | nil =>
      refine ⟨fun _ => ?_, fun _ => rfl⟩
      intro b c _ _ hinfix
      have hlength := hinfix.length_le
      simp at hlength
    | cons a rest =>
      rcases decode_cons a rest with ⟨b, c, rest', v, heq, hb, hc, hdecode⟩ | ⟨hdecode, hfront⟩
      · -- An escape makes a byte string longer than what it stands for.
        constructor
        · intro hself
          have hshorter := length_decode_le rest'
          have hlength := congrArg List.length hself
          rw [hdecode, heq] at hlength
          simp only [List.length_cons] at hlength
          omega
        · intro hunescaped
          refine absurd ?_ (hunescaped b c hb hc)
          rw [heq]
          exact ⟨[], rest', rfl⟩
      · rw [hdecode, List.cons.injEq, ih rest.length (Nat.lt_succ_self _) rfl]
        constructor
        · rintro ⟨-, hunescaped⟩ b c hb hc hinfix
          rcases List.infix_cons_iff.1 hinfix with hprefix | hinfix
          · exact hfront b c hb hc hprefix
          · exact hunescaped b c hb hc hinfix
        · exact fun hunescaped => ⟨rfl, hunescaped.tail⟩

/-! ## Texts -/

theorem le_of_mem_tail (n v : Nat) : ∀ b ∈ Utf8.tail n v, 0x80 ≤ b.toNat := by
  induction n with
  | zero =>
    intro b hb
    cases hb
  | succ n ih =>
    intro b hb
    rcases List.mem_cons.1 hb with rfl | hb
    · have hlt : v / 64 ^ n % 64 + 0x80 < 256 := by omega
      rw [UInt8.toNat_ofNat_of_lt' hlt]
      omega
    · exact ih b hb

theorem utf8EncodeChar_cases (c : Char) :
    (c.toNat < 0x80 ∧ String.utf8EncodeChar c = [UInt8.ofNat c.toNat]) ∨
      ∀ b ∈ String.utf8EncodeChar c, 0x80 ≤ b.toNat := by
  have hbytes := Utf8.utf8EncodeChar_ofNat c.valid
  have hchar : Char.ofNat c.val.toNat = c := Char.ofNat_toNat c
  rw [hchar] at hbytes
  have hmax : c.val.toNat < 0x110000 := by
    have hvalid : c.val.toNat.isValidChar := c.valid
    unfold Nat.isValidChar at hvalid
    omega
  have hlead : ∀ lead n, 0x80 ≤ lead → lead < 256 →
      ∀ b ∈ UInt8.ofNat lead :: Utf8.tail n c.val.toNat, 0x80 ≤ b.toNat := by
    intro lead n hlow hhigh b hb
    rcases List.mem_cons.1 hb with rfl | hb
    · rw [UInt8.toNat_ofNat_of_lt' hhigh]
      exact hlow
    · exact le_of_mem_tail _ _ b hb
  split at hbytes
  · rename_i hascii
    exact .inl ⟨Nat.lt_succ_of_le hascii, hbytes⟩
  · rw [hbytes]
    right
    split
    · exact hlead _ _ (by omega) (by omega)
    split
    · exact hlead _ _ (by omega) (by omega)
    · exact hlead _ _ (by omega) (by omega)

/-- A byte of ASCII among the bytes of a text is one of its characters. -/
theorem mem_of_mem_encode {s : String} {n : Nat} (hn : n < 0x80)
    (h : UInt8.ofNat n ∈ Utf8.encode s) : Char.ofNat n ∈ s.toList := by
  obtain ⟨c, hc, hbyte⟩ := List.mem_flatMap.1 h
  have hbytes : ∀ m, m < 0x80 → (UInt8.ofNat m).toNat = m := by
    intro m hm
    have hlt : m < 256 := by omega
    exact UInt8.toNat_ofNat_of_lt' hlt
  rcases utf8EncodeChar_cases c with ⟨hascii, hchar⟩ | hbeyond
  · rw [hchar, List.mem_singleton] at hbyte
    have hnumber : n = c.toNat := by rw [← hbytes n hn, hbyte, hbytes _ hascii]
    rw [hnumber, Char.ofNat_toNat]
    exact hc
  · have hlarge := hbeyond _ hbyte
    rw [hbytes n hn] at hlarge
    omega

/-- What is escaped in a path is neither a percent sign nor a digit. -/
theorem inPath_bytes {c : Char} (h : inPath c = true) :
    ∀ b ∈ String.utf8EncodeChar c, b ≠ 0x25 ∧ hexValue? b = none := by
  have hascii : ∀ n < 0x80, inPath (Char.ofNat n) = true →
      UInt8.ofNat n ≠ 0x25 ∧ hexValue? (UInt8.ofNat n) = none := by
    decide
  have hbeyond : ∀ b : UInt8, 0x80 ≤ b.toNat → b ≠ 0x25 ∧ hexValue? b = none := by
    intro b hb
    constructor
    · rintro rfl
      exact absurd hb (by decide)
    · refine Option.eq_none_iff_forall_ne_some.2 fun d hd => ?_
      have hlt : b.toUInt32.toNat < 128 := Hex.lt_of_digitValue? hd
      rw [UInt8.toNat_toUInt32] at hlt
      omega
  intro b hb
  rcases utf8EncodeChar_cases c with ⟨hc, hbytes⟩ | hbytes
  · rw [hbytes, List.mem_singleton] at hb
    subst hb
    refine hascii c.toNat hc ?_
    rwa [Char.ofNat_toNat]
  · exact hbeyond b (hbytes b hb)

theorem escapes_encode (cs : List Char) :
    Escapes ((encode inPath cs).flatMap String.utf8EncodeChar)
      (cs.flatMap String.utf8EncodeChar) := by
  have hbytes : ∀ bytes : Bytes, (∀ b ∈ bytes, b ≠ 0x25 ∧ hexValue? b = none) →
      Escapes ((bytes.flatMap escape).flatMap String.utf8EncodeChar) bytes := by
    intro bytes hall
    induction bytes with
    | nil => exact .nil
    | cons b bytes ih =>
      rw [List.flatMap_cons, List.flatMap_append, flatMap_escape]
      obtain ⟨hsign, hdigit⟩ := hall b List.mem_cons_self
      exact .escaped hsign hdigit (ih fun c hc => hall c (List.mem_cons_of_mem b hc))
  induction cs with
  | nil => exact .nil
  | cons c cs ih =>
    rw [encode, List.flatMap_cons, List.flatMap_append, List.flatMap_cons]
    refine .append ?_ ih
    by_cases hc : inPath c = true
    · rw [encodeChar, if_pos hc]
      exact hbytes _ (inPath_bytes hc)
    · rw [encodeChar, if_neg hc, List.flatMap_singleton]
      exact .refl _

/-- **A text with what is escaped in a path stands for what the text stands for.** -/
theorem decode_encode_inPath (cs : List Char) :
    decode (Utf8.encode (String.ofList (encode inPath cs))) =
      decode (Utf8.encode (String.ofList cs)) := by
  rw [Utf8.encode, Utf8.encode, String.toList_ofList, String.toList_ofList]
  exact decode_of_escapes (escapes_encode cs)

/-! ## Parts of texts -/

/-- A part of a text is the whole or takes fewer bytes. -/
theorem eq_or_length_lt_of_sublist {part whole : List Char} (hpart : part.Sublist whole) :
    part = whole ∨ (part.flatMap String.utf8EncodeChar).length <
      (whole.flatMap String.utf8EncodeChar).length := by
  induction hpart with
  | slnil => exact .inl rfl
  | @cons part whole c hpart ih =>
    have hc : 0 < (String.utf8EncodeChar c).length := by
      rw [String.length_utf8EncodeChar]
      exact c.utf8Size_pos
    right
    rw [List.flatMap_cons, List.length_append]
    rcases ih with rfl | hlt <;> omega
  | cons_cons c hpart ih =>
    rcases ih with rfl | hlt
    · exact .inl rfl
    · right
      rw [List.flatMap_cons, List.flatMap_cons, List.length_append, List.length_append]
      omega

/-- **A part of a text stands for the whole text only if it is the whole and without escapes.** -/
theorem eq_of_decode_sublist {part whole : List Char} (hpart : part.Sublist whole)
    (h : decode (part.flatMap String.utf8EncodeChar) = whole.flatMap String.utf8EncodeChar) :
    part = whole ∧ Unescaped (whole.flatMap String.utf8EncodeChar) := by
  have hlength := length_decode_le (part.flatMap String.utf8EncodeChar)
  rw [h] at hlength
  rcases eq_or_length_lt_of_sublist hpart with rfl | hlt
  · exact ⟨rfl, decode_eq_self_iff.1 h⟩
  · omega

end ManifestPublish.Percent
