import ManifestPublish.Text.Utf8

/-!
# UTF-8 read back

The machine that reads UTF-8 loses nothing, and reads what is written as it was meant.

* `Utf8.Piece.bytes` : the bytes of a piece
* `Utf8.tail` : the last bytes of a character
* `Utf8.Pending.Covers` : a number may be that of the character that has begun
* `Utf8.Pending.Sound` : what the machine knows of the character that has begun is so

Principal results: `Utf8.bytes_pieces` (the pieces of a byte string, put together again, are the
byte string) and `Utf8.decode?_eq_some_iff` (a byte string reads as a text exactly if it is the text
written).
-/

set_option autoImplicit false

namespace ManifestPublish.Utf8

-- Powers of numbers are those of `Nat` itself, also where others are known.
attribute [local instance (high)] instPowNat

def Piece.bytes : Piece → Bytes
  | .scalar c => String.utf8EncodeChar c
  | .illFormed bytes => bytes

/-- The last `n` bytes of the character of number `v`, if it has more than these. -/
def tail : Nat → Nat → Bytes
  | 0, _ => []
  | n + 1, v => UInt8.ofNat (v / 64 ^ n % 64 + 0x80) :: tail n v

/-- A number may be that of the character that has begun. -/
structure Pending.Covers (p : Pending) (v : Nat) : Prop where
  value : v / 64 ^ (p.left + 1) = p.value
  low : p.low.toNat ≤ v / 64 ^ p.left % 64 + 0x80
  high : v / 64 ^ p.left % 64 + 0x80 ≤ p.high.toNat

/-- What the machine knows of the character that has begun is so, whatever its number may be. -/
structure Pending.Sound (p : Pending) : Prop where
  low : 0x80 ≤ p.low.toNat
  high : p.high.toNat ≤ 0xBF
  valid : ∀ v, p.Covers v → v.isValidChar
  bytes : ∀ v, p.Covers v →
    String.utf8EncodeChar (Char.ofNat v) = p.seen.reverse ++ tail (p.left + 1) v

/-- The bytes of the character that has begun, if one has. -/
def seenOf : Option Pending → Bytes
  | none => []
  | some p => p.seen.reverse

/-- What the machine knows where it stands is so. -/
def SoundAt (at? : Option Pending) : Prop := ∀ p, at? = some p → p.Sound

theorem run_cons (done : List Piece) (at? : Option Pending) (b : UInt8) (bytes : Bytes) :
    run done at? (b :: bytes) = run ((step at? b).1.reverse ++ done) (step at? b).2 bytes := by
  cases at? <;> rfl

theorem toNat_ofNat_of_valid {v : Nat} (h : v.isValidChar) : (Char.ofNat v).toNat = v := by
  rw [Char.ofNat, dif_pos h]
  rfl

/-! ## The first byte of a character -/

theorem utf8EncodeChar_ofNat {v : Nat} (h : v.isValidChar) :
    String.utf8EncodeChar (Char.ofNat v) =
      if v ≤ 0x7F then [UInt8.ofNat v]
      else if v ≤ 0x7FF then UInt8.ofNat (v / 64 % 32 + 0xC0) :: tail 1 v
      else if v ≤ 0xFFFF then UInt8.ofNat (v / 4096 % 16 + 0xE0) :: tail 2 v
      else UInt8.ofNat (v / 262144 % 8 + 0xF0) :: tail 3 v := by
  have hv : (Char.ofNat v).val.toNat = v := toNat_ofNat_of_valid h
  unfold String.utf8EncodeChar
  simp only [hv, tail, Nat.reducePow, Nat.div_one]

theorem uint8_eq_ofNat {b : UInt8} {n : Nat} (h : b.toNat = n) : b = UInt8.ofNat n := by
  rw [← h, UInt8.ofNat_toNat]

theorem utf8EncodeChar_two {b : UInt8} {v : Nat} (hb : b.toNat = v / 64 + 0xC0)
    (hlow : 0x80 ≤ v) (hhigh : v ≤ 0x7FF) :
    v.isValidChar ∧ String.utf8EncodeChar (Char.ofNat v) = b :: tail 1 v := by
  have hvalid : v.isValidChar := by
    unfold Nat.isValidChar
    omega
  refine ⟨hvalid, ?_⟩
  rw [utf8EncodeChar_ofNat hvalid, if_neg (by omega), if_pos hhigh, uint8_eq_ofNat hb,
    Nat.mod_eq_of_lt (by omega)]

theorem utf8EncodeChar_three {b : UInt8} {v : Nat} (hb : b.toNat = v / 4096 + 0xE0)
    (hlow : 0x800 ≤ v) (hhigh : v ≤ 0xFFFF) (hvalid : v.isValidChar) :
    String.utf8EncodeChar (Char.ofNat v) = b :: tail 2 v := by
  rw [utf8EncodeChar_ofNat hvalid, if_neg (by omega), if_neg (by omega), if_pos hhigh,
    uint8_eq_ofNat hb, Nat.mod_eq_of_lt (by omega)]

theorem utf8EncodeChar_four {b : UInt8} {v : Nat} (hb : b.toNat = v / 262144 + 0xF0)
    (hlow : 0x10000 ≤ v) (hhigh : v ≤ 0x10FFFF) :
    v.isValidChar ∧ String.utf8EncodeChar (Char.ofNat v) = b :: tail 3 v := by
  have hvalid : v.isValidChar := by
    unfold Nat.isValidChar
    omega
  refine ⟨hvalid, ?_⟩
  rw [utf8EncodeChar_ofNat hvalid, if_neg (by omega), if_neg (by omega), if_neg (by omega),
    uint8_eq_ofNat hb, Nat.mod_eq_of_lt (by omega)]

theorem Pending.sound_two {b : UInt8} (hlow : 0xC2 ≤ b.toNat) (hhigh : b.toNat ≤ 0xDF) :
    Pending.Sound ⟨[b], b.toNat - 0xC0, 0, 0x80, 0xBF⟩ := by
  have hbytes : ∀ v, Pending.Covers ⟨[b], b.toNat - 0xC0, 0, 0x80, 0xBF⟩ v →
      v.isValidChar ∧ String.utf8EncodeChar (Char.ofNat v) = b :: tail 1 v := by
    rintro v ⟨hvalue, -, -⟩
    simp only [Nat.reducePow, Nat.zero_add] at hvalue
    exact utf8EncodeChar_two (by omega) (by omega) (by omega)
  exact ⟨Nat.le_refl _, Nat.le_refl _, fun v hv => (hbytes v hv).1, fun v hv => (hbytes v hv).2⟩

/-- A lead byte of three bytes tells what it should, if the least byte after it rules out what has a
shorter form, and the greatest one the surrogates. -/
theorem Pending.sound_three {b low high : UInt8} {value : Nat} (hb : b.toNat = value + 0xE0)
    (hvalue : value < 0x10) (hlow : 0x80 ≤ low.toNat) (hhigh : high.toNat ≤ 0xBF)
    (hshort : value = 0 → 0xA0 ≤ low.toNat) (hsurrogate : value = 0xD → high.toNat ≤ 0x9F) :
    Pending.Sound ⟨[b], value, 1, low, high⟩ := by
  have hbytes : ∀ v, Pending.Covers ⟨[b], value, 1, low, high⟩ v →
      v.isValidChar ∧ String.utf8EncodeChar (Char.ofNat v) = b :: tail 2 v := by
    rintro v ⟨hv, hleast, hgreatest⟩
    simp only [Nat.reducePow, Nat.reduceAdd] at hv hleast hgreatest
    have hvalid : v.isValidChar := by
      unfold Nat.isValidChar
      omega
    exact ⟨hvalid, utf8EncodeChar_three (by omega) (by omega) (by omega) hvalid⟩
  exact ⟨hlow, hhigh, fun v hv => (hbytes v hv).1, fun v hv => (hbytes v hv).2⟩

/-- A lead byte of four bytes tells what it should, if the least byte after it rules out what has a
shorter form, and the greatest one what is beyond Unicode. -/
theorem Pending.sound_four {b low high : UInt8} {value : Nat} (hb : b.toNat = value + 0xF0)
    (hvalue : value ≤ 4) (hlow : 0x80 ≤ low.toNat) (hhigh : high.toNat ≤ 0xBF)
    (hshort : value = 0 → 0x90 ≤ low.toNat) (hbeyond : value = 4 → high.toNat ≤ 0x8F) :
    Pending.Sound ⟨[b], value, 2, low, high⟩ := by
  have hbytes : ∀ v, Pending.Covers ⟨[b], value, 2, low, high⟩ v →
      v.isValidChar ∧ String.utf8EncodeChar (Char.ofNat v) = b :: tail 3 v := by
    rintro v ⟨hv, hleast, hgreatest⟩
    simp only [Nat.reducePow, Nat.reduceAdd] at hv hleast hgreatest
    exact utf8EncodeChar_four (by omega) (by omega) (by omega)
  exact ⟨hlow, hhigh, fun v hv => (hbytes v hv).1, fun v hv => (hbytes v hv).2⟩

/-- What the machine makes of a lead byte is so. -/
theorem Pending.sound_ofLead? {b : UInt8} {p : Pending} (h : Pending.ofLead? b = some p) :
    p.Sound ∧ p.seen = [b] := by
  unfold Pending.ofLead? at h
  simp only [Bool.and_eq_true, decide_eq_true_eq, UInt8.le_iff_toNat_le, beq_iff_eq,
    UInt8.reduceToNat] at h
  split at h
  · rename_i hb
    cases h
    exact ⟨sound_two hb.1 hb.2, rfl⟩
  split at h
  · rename_i hb
    cases h
    subst hb
    exact ⟨sound_three rfl (by decide) (by decide) (by decide) (by decide) (by decide), rfl⟩
  split at h
  · rename_i hb
    cases h
    subst hb
    exact ⟨sound_three rfl (by decide) (by decide) (by decide) (by decide) (by decide), rfl⟩
  split at h
  · rename_i hzero hsurrogate hb
    cases h
    have hne0 : b.toNat ≠ 0xE0 := fun heq => hzero (uint8_eq_ofNat heq)
    have hneD : b.toNat ≠ 0xED := fun heq => hsurrogate (uint8_eq_ofNat heq)
    exact ⟨sound_three (by omega) (by omega) (Nat.le_refl _) (Nat.le_refl _) (by omega) (by omega),
      rfl⟩
  split at h
  · rename_i hb
    cases h
    subst hb
    exact ⟨sound_four rfl (by decide) (by decide) (by decide) (by decide) (by decide), rfl⟩
  split at h
  · rename_i hb
    cases h
    exact ⟨sound_four (by omega) (by omega) (Nat.le_refl _) (Nat.le_refl _) (by omega) (by omega),
      rfl⟩
  split at h
  · rename_i hb
    cases h
    subst hb
    exact ⟨sound_four rfl (by decide) (by decide) (by decide) (by decide) (by decide), rfl⟩
  · cases h

/-- The first byte of a character of several bytes. -/
def leadNumber (v : Nat) : Nat :=
  if v ≤ 0x7FF then v / 64 + 0xC0 else if v ≤ 0xFFFF then v / 4096 + 0xE0 else v / 262144 + 0xF0

/-- The machine knows the first byte of a character of several bytes. -/
theorem exists_ofLead? {b : UInt8} {v : Nat} (hvalid : v.isValidChar) (hlow : 0x80 ≤ v)
    (hb : b.toNat = leadNumber v) : ∃ p, Pending.ofLead? b = some p ∧ p.Covers v := by
  unfold Nat.isValidChar at hvalid
  unfold leadNumber at hb
  unfold Pending.ofLead?
  simp only [Bool.and_eq_true, decide_eq_true_eq, UInt8.le_iff_toNat_le, beq_iff_eq,
    UInt8.reduceToNat, ← UInt8.toNat_inj]
  by_cases htwo : v ≤ 0x7FF
  · rw [if_pos htwo] at hb
    rw [if_pos (by omega)]
    refine ⟨_, rfl, ?_, ?_, ?_⟩ <;> simp only [UInt8.reduceToNat, Nat.reducePow, Nat.zero_add] <;>
      omega
  rw [if_neg htwo] at hb
  by_cases hthree : v ≤ 0xFFFF
  · rw [if_pos hthree] at hb
    rw [if_neg (by omega)]
    -- The ranges of three bytes differ in what may come next.
    split
    · refine ⟨_, rfl, ?_, ?_, ?_⟩ <;>
        simp only [UInt8.reduceToNat, Nat.reducePow, Nat.reduceAdd] <;>
        omega
    split
    · refine ⟨_, rfl, ?_, ?_, ?_⟩ <;>
        simp only [UInt8.reduceToNat, Nat.reducePow, Nat.reduceAdd] <;>
        omega
    rw [if_pos (by omega)]
    refine ⟨_, rfl, ?_, ?_, ?_⟩ <;> simp only [UInt8.reduceToNat, Nat.reducePow, Nat.reduceAdd] <;>
      omega
  · rw [if_neg hthree] at hb
    rw [if_neg (by omega), if_neg (by omega), if_neg (by omega), if_neg (by omega)]
    split
    · refine ⟨_, rfl, ?_, ?_, ?_⟩ <;>
        simp only [UInt8.reduceToNat, Nat.reducePow, Nat.reduceAdd] <;>
        omega
    split
    · refine ⟨_, rfl, ?_, ?_, ?_⟩ <;>
        simp only [UInt8.reduceToNat, Nat.reducePow, Nat.reduceAdd] <;>
        omega
    rw [if_pos (by omega)]
    refine ⟨_, rfl, ?_, ?_, ?_⟩ <;> simp only [UInt8.reduceToNat, Nat.reducePow, Nat.reduceAdd] <;>
      omega

/-! ## Nothing is lost -/

/-- The machine that reads the next byte of a character still knows what is so. -/
theorem Pending.Sound.next {p : Pending} {left : Nat} {b : UInt8} (hp : p.Sound)
    (hleft : p.left = left + 1) (hlow : p.low.toNat ≤ b.toNat) (hhigh : b.toNat ≤ p.high.toNat) :
    Pending.Sound ⟨b :: p.seen, p.value * 64 + b.toNat % 64, left, 0x80, 0xBF⟩ := by
  have hrange := hp.low
  have hrange' := hp.high
  have hcovers : ∀ v,
      Pending.Covers ⟨b :: p.seen, p.value * 64 + b.toNat % 64, left, 0x80, 0xBF⟩ v →
      p.Covers v ∧ b = UInt8.ofNat (v / 64 ^ p.left % 64 + 0x80) := by
    rintro v ⟨hvalue, -, -⟩
    simp only at hvalue
    have hdiv : v / 64 ^ (p.left + 1) = v / 64 ^ p.left / 64 := by
      rw [Nat.pow_succ, Nat.div_div_eq_div_mul]
    rw [← hleft] at hvalue
    refine ⟨⟨by omega, by omega, by omega⟩, uint8_eq_ofNat (by omega)⟩
  refine ⟨Nat.le_refl _, Nat.le_refl _, fun v hv => hp.valid v (hcovers v hv).1, ?_⟩
  intro v hv
  obtain ⟨hv, hb⟩ := hcovers v hv
  rw [hp.bytes v hv, tail, ← hb, hleft, List.reverse_cons, List.append_assoc]
  rfl

/-- The character that the last byte completes. -/
theorem Pending.Sound.complete {p : Pending} {b : UInt8} (hp : p.Sound) (hleft : p.left = 0)
    (hlow : p.low.toNat ≤ b.toNat) (hhigh : b.toNat ≤ p.high.toNat) :
    String.utf8EncodeChar (Char.ofNat (p.value * 64 + b.toNat % 64)) = p.seen.reverse ++ [b] := by
  have hrange := hp.low
  have hrange' := hp.high
  have hcovers : p.Covers (p.value * 64 + b.toNat % 64) := by
    refine ⟨?_, ?_, ?_⟩ <;> rw [hleft] <;> simp only [Nat.reducePow, Nat.zero_add] <;> omega
  have hb : b = UInt8.ofNat ((p.value * 64 + b.toNat % 64) / 64 ^ 0 % 64 + 0x80) :=
    uint8_eq_ofNat (by simp only [Nat.reducePow]; omega)
  rw [hp.bytes _ hcovers, hleft, tail, tail, ← hb]

theorem lead_bytes (b : UInt8) :
    (lead b).1.flatMap Piece.bytes ++ seenOf (lead b).2 = [b] ∧ SoundAt (lead b).2 := by
  unfold lead
  split
  · rename_i hascii
    simp only [UInt8.lt_iff_toNat_lt, UInt8.reduceToNat] at hascii
    refine ⟨?_, by rintro p ⟨⟩⟩
    have hvalid : b.toNat.isValidChar := by
      unfold Nat.isValidChar
      omega
    simp [seenOf, Piece.bytes, utf8EncodeChar_ofNat hvalid, show b.toNat ≤ 0x7F by omega]
  · cases hlead : Pending.ofLead? b with
    | none => exact ⟨rfl, by rintro p ⟨⟩⟩
    | some p =>
      obtain ⟨hsound, hseen⟩ := Pending.sound_ofLead? hlead
      refine ⟨by simp [seenOf, hseen], ?_⟩
      rintro q ⟨⟩
      exact hsound

theorem step_bytes {at? : Option Pending} (hat : SoundAt at?) (b : UInt8) :
    (step at? b).1.flatMap Piece.bytes ++ seenOf (step at? b).2 = seenOf at? ++ [b] ∧
      SoundAt (step at? b).2 := by
  cases at? with
  | none => exact lead_bytes b
  | some p =>
    have hp := hat p rfl
    simp only [step, Bool.and_eq_true, decide_eq_true_eq, UInt8.le_iff_toNat_le]
    split
    · rename_i hb
      cases hleft : p.left with
      | zero =>
        refine ⟨?_, by rintro q ⟨⟩⟩
        simp [seenOf, Piece.bytes, hp.complete hleft hb.1 hb.2]
      | succ left =>
        refine ⟨by simp [seenOf], ?_⟩
        rintro q ⟨⟩
        exact hp.next hleft hb.1 hb.2
    · obtain ⟨hbytes, hsound⟩ := lead_bytes b
      refine ⟨?_, hsound⟩
      rw [List.flatMap_cons, List.append_assoc, hbytes]
      rfl

theorem bytes_run {at? : Option Pending} (hat : SoundAt at?) (done : List Piece) (bytes : Bytes) :
    (run done at? bytes).flatMap Piece.bytes =
      done.reverse.flatMap Piece.bytes ++ (seenOf at? ++ bytes) := by
  -- On the bytes: what a step completes goes over into `done`, and what it begins is seen.
  induction bytes generalizing at? done with
  | nil => cases at? <;> simp [run, seenOf, Piece.bytes]
  | cons b bytes ih =>
    obtain ⟨hbytes, hsound⟩ := step_bytes hat b
    rw [run_cons, ih hsound, List.reverse_append, List.reverse_reverse, List.flatMap_append,
      List.append_assoc, ← List.append_assoc ((step at? b).1.flatMap _), hbytes, List.append_assoc]
    rfl

/-- **Nothing is lost**: the pieces of a byte string, put together again, are the byte string. -/
theorem bytes_pieces (bytes : Bytes) : (pieces bytes).flatMap Piece.bytes = bytes := by
  unfold pieces
  rw [bytes_run (by rintro p ⟨⟩)]
  rfl

/-! ## What is written is read -/

theorem run_append (done : List Piece) (at? : Option Pending) (bytes : Bytes) :
    run done at? bytes = done.reverse ++ run [] at? bytes := by
  induction bytes generalizing at? done with
  | nil => cases at? <;> simp [run]
  | cons b bytes ih =>
    rw [run_cons, run_cons, ih, ih ((step at? b).1.reverse ++ [])]
    simp

/-- The byte of a character that comes next is one that the machine takes. -/
theorem Pending.Covers.next {p : Pending} {v : Nat} (hp : p.Sound) (hv : p.Covers v) :
    p.low.toNat ≤ (UInt8.ofNat (v / 64 ^ p.left % 64 + 0x80)).toNat ∧
      (UInt8.ofNat (v / 64 ^ p.left % 64 + 0x80)).toNat ≤ p.high.toNat ∧
      p.value * 64 + (UInt8.ofNat (v / 64 ^ p.left % 64 + 0x80)).toNat % 64 = v / 64 ^ p.left := by
  have hdiv : v / 64 ^ (p.left + 1) = v / 64 ^ p.left / 64 := by
    rw [Nat.pow_succ, Nat.div_div_eq_div_mul]
  have hvalue := hv.value
  have hlow := hv.low
  have hhigh := hv.high
  have hrange := hp.high
  have hbyte : v / 64 ^ p.left % 64 + 0x80 < 256 := by omega
  rw [UInt8.toNat_ofNat_of_lt' hbyte]
  exact ⟨hlow, hhigh, by omega⟩

/-- The machine reads the rest of a character to its end. -/
theorem run_tail {p : Pending} {v : Nat} (hp : p.Sound) (hv : p.Covers v) (rest : Bytes) :
    run [] (some p) (tail (p.left + 1) v ++ rest) = .scalar (Char.ofNat v) :: pieces rest := by
  -- On the number of bytes that are due.
  induction hleft : p.left generalizing p with
  | zero =>
    obtain ⟨hlow, hhigh, hvalue⟩ := hv.next hp
    rw [hleft] at hlow hhigh hvalue
    have hstep : step (some p) (UInt8.ofNat (v / 64 ^ 0 % 64 + 0x80)) =
        ([.scalar (Char.ofNat v)], none) := by
      simp only [step, UInt8.le_iff_toNat_le, hlow, hhigh, hleft, hvalue, decide_true,
        Bool.and_self, if_true]
      rw [Nat.pow_zero, Nat.div_one]
    rw [tail, tail, List.cons_append, List.nil_append, run_cons, hstep, run_append]
    rfl
  | succ left ih =>
    obtain ⟨hlow, hhigh, hvalue⟩ := hv.next hp
    have hsound := hp.next hleft hlow hhigh
    rw [hleft] at hlow hhigh hvalue hsound
    have hstep : step (some p) (UInt8.ofNat (v / 64 ^ (left + 1) % 64 + 0x80)) =
        ([], some ⟨UInt8.ofNat (v / 64 ^ (left + 1) % 64 + 0x80) :: p.seen, v / 64 ^ (left + 1),
          left, 0x80, 0xBF⟩) := by
      simp only [step, UInt8.le_iff_toNat_le, hlow, hhigh, hleft, hvalue, decide_true,
        Bool.and_self, if_true]
    rw [hvalue] at hsound
    rw [tail, List.cons_append, run_cons, hstep]
    refine ih hsound ⟨rfl, ?_, ?_⟩ rfl <;> simp only [UInt8.reduceToNat] <;> omega

theorem pieces_encodeChar (c : Char) (rest : Bytes) :
    pieces (String.utf8EncodeChar c ++ rest) = .scalar c :: pieces rest := by
  obtain ⟨v, hvalid, rfl⟩ : ∃ v, v.isValidChar ∧ c = Char.ofNat v :=
    ⟨c.toNat, c.valid, (Char.ofNat_toNat c).symm⟩
  by_cases hascii : v ≤ 0x7F
  · have hbyte : v < 256 := by omega
    have hv : (UInt8.ofNat v).toNat = v := UInt8.toNat_ofNat_of_lt' hbyte
    have hstep : step none (UInt8.ofNat v) = ([.scalar (Char.ofNat v)], none) := by
      simp only [step, lead, UInt8.lt_iff_toNat_lt, hv, UInt8.reduceToNat]
      rw [if_pos (by omega)]
    rw [utf8EncodeChar_ofNat hvalid, if_pos hascii, pieces, List.cons_append, run_cons, hstep,
      run_append]
    rfl
  · -- The lead byte covers the number, so what is due after it is the rest of the character.
    have hlead : leadNumber v < 256 := by
      unfold leadNumber
      unfold Nat.isValidChar at hvalid
      split
      · omega
      split <;> omega
    have hb : (UInt8.ofNat (leadNumber v)).toNat = leadNumber v := UInt8.toNat_ofNat_of_lt' hlead
    obtain ⟨p, hp, hcovers⟩ := exists_ofLead? hvalid (by omega) hb
    obtain ⟨hsound, hseen⟩ := Pending.sound_ofLead? hp
    have hstep : step none (UInt8.ofNat (leadNumber v)) = ([], some p) := by
      have hge : ¬ leadNumber v < 0x80 := by
        unfold leadNumber
        split
        · omega
        split <;> omega
      simp only [step, lead, UInt8.lt_iff_toNat_lt, hb, UInt8.reduceToNat, hge, hp, if_false]
    rw [hsound.bytes v hcovers, hseen, List.append_assoc, List.reverse_singleton, pieces,
      List.singleton_append, run_cons, hstep]
    exact run_tail hsound hcovers rest

theorem pieces_encodeChars (cs : List Char) (rest : Bytes) :
    pieces (cs.flatMap String.utf8EncodeChar ++ rest) = cs.map .scalar ++ pieces rest := by
  induction cs with
  | nil => rfl
  | cons c cs ih =>
    rw [List.flatMap_cons, List.append_assoc, pieces_encodeChar, ih]
    rfl

theorem pieces_encode (s : String) : pieces (encode s) = s.toList.map .scalar := by
  have h := pieces_encodeChars s.toList []
  have hnil : pieces [] = [] := rfl
  rwa [List.append_nil, hnil, List.append_nil] at h

theorem decode?_encode (s : String) : decode? (encode s) = some s := by
  have hchars : ∀ cs : List Char, (cs.map Piece.scalar).mapM Piece.char? = some cs := by
    intro cs
    induction cs with
    | nil => rfl
    | cons c cs ih => simp [List.mapM_cons, ih, Piece.char?]
  rw [decode?, pieces_encode, hchars, Option.map_some, String.ofList_toList]

theorem decodeLossy_encode (s : String) : decodeLossy (encode s) = s := by
  have hchars : Piece.toChar ∘ Piece.scalar = id := rfl
  rw [decodeLossy, pieces_encode, List.map_map, hchars, List.map_id, String.ofList_toList]

theorem encode_append (s t : String) : encode (s ++ t) = encode s ++ encode t := by
  rw [encode, String.toList_append, List.flatMap_append, encode, encode]

theorem encode_inj {s t : String} : encode s = encode t ↔ s = t := by
  constructor
  · intro h
    have hdecode := decode?_encode s
    rw [h, decode?_encode] at hdecode
    exact (Option.some_inj.1 hdecode).symm
  · exact congrArg encode

/-- Pieces that are characters are these characters written. -/
theorem bytes_of_mapM_char? {ps : List Piece} {cs : List Char}
    (h : ps.mapM Piece.char? = some cs) :
    ps.flatMap Piece.bytes = cs.flatMap String.utf8EncodeChar := by
  induction ps generalizing cs with
  | nil =>
    cases h
    rfl
  | cons p ps ih =>
    rw [List.mapM_cons] at h
    cases p with
    | illFormed bytes => cases h
    | scalar c =>
      cases hps : ps.mapM Piece.char? with
      | none =>
        rw [hps] at h
        cases h
      | some cs' =>
        rw [hps] at h
        cases h
        rw [List.flatMap_cons, ih hps, List.flatMap_cons]
        rfl

/-- **A byte string reads as a text exactly if it is the text written.** -/
theorem decode?_eq_some_iff {bytes : Bytes} {s : String} :
    decode? bytes = some s ↔ bytes = encode s := by
  constructor
  · intro h
    obtain ⟨cs, hcs, rfl⟩ := Option.map_eq_some_iff.1 h
    rw [← bytes_pieces bytes, bytes_of_mapM_char? hcs, encode, String.toList_ofList]
  · rintro rfl
    exact decode?_encode s

end ManifestPublish.Utf8
