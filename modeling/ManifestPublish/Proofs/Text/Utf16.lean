import ManifestPublish.Text.Utf16
import ManifestPublish.Proofs.Text.Utf8

/-!
# The code units of a text

A character is one code unit, or two of which each tells which half it is.  So code units are those
of one text at most, and can be read from their front.

* `Utf16.IsSurrogate` : the code units that are half a character

Principal results: `Utf16.charUnits_cases`, `Utf16.charUnits_pair`, `Utf16.charUnits_append_inj` and
`Utf16.decodeLossy_encode`.
-/

set_option autoImplicit false

namespace ManifestPublish.Utf16

def IsSurrogate (u : Nat) : Prop := 0xD800 ≤ u ∧ u < 0xE000

/-- A character is a code unit that is no half, or two halves in order. -/
theorem charUnits_cases (c : Char) :
    (charUnits c = [c.toNat] ∧ c.toNat < 0x10000 ∧ ¬ IsSurrogate c.toNat) ∨
    ∃ high low, charUnits c = [high, low] ∧ 0xD800 ≤ high ∧ high ≤ 0xDBFF ∧ 0xDC00 ≤ low ∧
      low ≤ 0xDFFF ∧ c.toNat = 0x10000 + (high - 0xD800) * 0x400 + (low - 0xDC00) := by
  have hvalid : c.toNat < 0xD800 ∨ 0xDFFF < c.toNat ∧ c.toNat < 0x110000 := c.valid
  by_cases hsmall : c.toNat < 0x10000
  · left
    refine ⟨by rw [charUnits, if_pos hsmall], hsmall, ?_⟩
    rintro ⟨hlow, hhigh⟩
    omega
  · right
    exact ⟨0xD800 + (c.toNat - 0x10000) / 0x400, 0xDC00 + (c.toNat - 0x10000) % 0x400,
      by rw [charUnits, if_neg hsmall], by omega, by omega, by omega, by omega, by omega⟩

theorem charUnits_ofNat {n : Nat} (hbound : n < 0x10000) (hplain : ¬ IsSurrogate n) :
    charUnits (Char.ofNat n) = [n] := by
  have hvalid : n.isValidChar := by
    rw [IsSurrogate] at hplain
    unfold Nat.isValidChar
    omega
  rw [charUnits, Utf8.toNat_ofNat_of_valid hvalid, if_pos hbound]

theorem charUnits_pair {high low : Nat} (hhigh : 0xD800 ≤ high) (hhigh' : high ≤ 0xDBFF)
    (hlow : 0xDC00 ≤ low) (hlow' : low ≤ 0xDFFF) :
    charUnits (Char.ofNat (0x10000 + (high - 0xD800) * 0x400 + (low - 0xDC00))) = [high, low] := by
  obtain ⟨n, hn⟩ : ∃ n, n = 0x10000 + (high - 0xD800) * 0x400 + (low - 0xDC00) := ⟨_, rfl⟩
  have hvalid : n.isValidChar := by
    unfold Nat.isValidChar
    omega
  have hfirst : 0xD800 + (n - 0x10000) / 0x400 = high := by omega
  have hsecond : 0xDC00 + (n - 0x10000) % 0x400 = low := by omega
  rw [← hn, charUnits, Utf8.toNat_ofNat_of_valid hvalid, if_neg (by omega), hfirst, hsecond]

/-- The first character of code units is the only one. -/
theorem charUnits_append_inj {c d : Char} {us vs : List Nat}
    (h : charUnits c ++ us = charUnits d ++ vs) : c = d ∧ us = vs := by
  obtain ⟨hc, -, hplain⟩ | ⟨high, low, hc, hhigh, hhigh', hlow, hlow', hvalue⟩ :=
      charUnits_cases c <;>
    obtain ⟨hd, -, hplain'⟩ | ⟨high', low', hd, hhigh₂, hhigh₂', hlow₂, hlow₂', hvalue'⟩ :=
      charUnits_cases d
  · rw [hc, hd] at h
    obtain ⟨hunit, hrest⟩ := List.cons.inj h
    exact ⟨Char.toNat_inj.1 hunit, hrest⟩
  · rw [hc, hd] at h
    obtain ⟨hunit, -⟩ := List.cons.inj h
    exact (hplain ⟨by omega, by omega⟩).elim
  · rw [hc, hd] at h
    obtain ⟨hunit, -⟩ := List.cons.inj h
    exact (hplain' ⟨by omega, by omega⟩).elim
  · rw [hc, hd] at h
    obtain ⟨hunit, h⟩ := List.cons.inj h
    obtain ⟨hunit', hrest⟩ := List.cons.inj h
    exact ⟨Char.toNat_inj.1 (by omega), hrest⟩

theorem charUnits_ne_nil (c : Char) : charUnits c ≠ [] := by
  obtain ⟨hc, -, -⟩ | ⟨high, low, hc, -⟩ := charUnits_cases c <;> rw [hc] <;>
    exact List.cons_ne_nil _ _

theorem flatMap_charUnits_inj {cs ds : List Char}
    (h : cs.flatMap charUnits = ds.flatMap charUnits) : cs = ds := by
  induction cs generalizing ds with
  | nil =>
    cases ds with
    | nil => rfl
    | cons d ds =>
      have hnil : charUnits d = [] := (List.append_eq_nil_iff.1 h.symm).1
      exact (charUnits_ne_nil d hnil).elim
  | cons c cs ih =>
    cases ds with
    | nil =>
      have hnil : charUnits c = [] := (List.append_eq_nil_iff.1 h).1
      exact (charUnits_ne_nil c hnil).elim
    | cons d ds =>
      rw [List.flatMap_cons, List.flatMap_cons] at h
      obtain ⟨rfl, hrest⟩ := charUnits_append_inj h
      rw [ih hrest]

/-! ## Bytes -/

theorem lt_of_mem_charUnits {c : Char} {u : Nat} (h : u ∈ charUnits c) : u < 0x10000 := by
  obtain ⟨hc, hsmall, -⟩ | ⟨high, low, hc, -, hhigh, -, hlow, -⟩ := charUnits_cases c
  · rw [hc, List.mem_singleton] at h
    omega
  · rw [hc, List.mem_cons, List.mem_singleton] at h
    omega

theorem units_bytes (order : Order) {u : Nat} (h : u < 0x10000) (rest : Bytes) :
    units order (order.bytes u ++ rest) = some u :: units order rest := by
  have hhigh : (UInt8.ofNat (u / 256)).toNat = u / 256 :=
    UInt8.toNat_ofNat_of_lt' (show _ < 256 by omega)
  have hlow : (UInt8.ofNat (u % 256)).toNat = u % 256 :=
    UInt8.toNat_ofNat_of_lt' (show _ < 256 by omega)
  have hunit : u / 256 * 256 + u % 256 = u := Nat.div_add_mod' u 256
  cases order <;>
    simp only [Order.bytes, List.cons_append, List.nil_append, units, Order.unit, hhigh, hlow,
      hunit]

theorem units_flatMap_bytes (order : Order) {us : List Nat} (h : ∀ u ∈ us, u < 0x10000) :
    units order (us.flatMap order.bytes) = us.map some := by
  induction us with
  | nil => rfl
  | cons u us ih =>
    rw [List.flatMap_cons, units_bytes order (h u List.mem_cons_self),
      ih fun v hv => h v (List.mem_cons_of_mem u hv), List.map_cons]

theorem not_isLead {u : Nat} (h : ¬ IsSurrogate u) : isLead u = false ∧ isTrail u = false := by
  rw [IsSurrogate] at h
  constructor
  · rw [isLead, Bool.and_eq_false_iff, decide_eq_false_iff_not, decide_eq_false_iff_not]
    omega
  · rw [isTrail, Bool.and_eq_false_iff, decide_eq_false_iff_not, decide_eq_false_iff_not]
    omega

theorem chars_charUnits (c : Char) (rest : List (Option Nat)) :
    chars none ((charUnits c).map some ++ rest) = c :: chars none rest := by
  obtain ⟨hc, -, hplain⟩ | ⟨high, low, hc, hhigh, hhigh', hlow, hlow', hvalue⟩ := charUnits_cases c
  · obtain ⟨hlead, htrail⟩ := not_isLead hplain
    rw [hc, List.map_singleton, List.singleton_append, chars, hlead, htrail]
    simp only [Bool.false_eq_true, if_false, Char.ofNat_toNat]
  · have hlead : isLead high = true := by
      rw [isLead, Bool.and_eq_true, decide_eq_true_eq, decide_eq_true_eq]
      omega
    have htrail : isTrail low = true := by
      rw [isTrail, Bool.and_eq_true, decide_eq_true_eq, decide_eq_true_eq]
      omega
    rw [hc, List.map_cons, List.map_singleton, List.cons_append, List.singleton_append, chars,
      hlead, if_pos rfl, chars, htrail, if_pos rfl, pairChar, ← hvalue, Char.ofNat_toNat]

theorem chars_flatMap_charUnits (cs : List Char) :
    chars none ((cs.flatMap charUnits).map some) = cs := by
  induction cs with
  | nil => rfl
  | cons c cs ih => rw [List.flatMap_cons, List.map_append, chars_charUnits, ih]

/-- **What is written in either byte order is read as it was meant.** -/
theorem decodeLossy_encode (order : Order) (s : String) :
    decodeLossy order (encode order s) = s := by
  have hbytes : encode order s = (s.toList.flatMap charUnits).flatMap order.bytes :=
    List.flatMap_assoc.symm
  have hunits : ∀ u ∈ s.toList.flatMap charUnits, u < 0x10000 := by
    intro u hu
    obtain ⟨c, -, hc⟩ := List.mem_flatMap.1 hu
    exact lt_of_mem_charUnits hc
  rw [decodeLossy, hbytes, units_flatMap_bytes order hunits, chars_flatMap_charUnits,
    String.ofList_toList]

end ManifestPublish.Utf16
