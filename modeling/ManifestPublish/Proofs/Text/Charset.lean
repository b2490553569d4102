import ManifestPublish.Text.Charset
import ManifestPublish.Proofs.Text.Utf16

/-!
# Texts read as they were written

* `Charset.Writes` : the bytes of a text, plain or behind a byte order mark

Principal results: `Charset.mark?_encode` (bytes of UTF-8 are marked only by the text itself) and
`Charset.Writes.decode`.
-/

set_option autoImplicit false

namespace ManifestPublish.Charset

/-- The character whose bytes are a byte order mark. -/
def byteOrderMark : Char := '\uFEFF'

/-- These bytes, under this name of a character set, are a text: without a mark in UTF-8, if the
text does not start with one and no name is given, or behind the mark of the encoding, under any
name. -/
inductive Writes (text : String) : Option String → Bytes → Prop where
  | plain (unmarked : text.toList.head? ≠ some byteOrderMark) :
      Writes text none (Utf8.encode text)
  | utf8 (label? : Option String) : Writes text label? ([0xEF, 0xBB, 0xBF] ++ Utf8.encode text)
  | littleEndian (label? : Option String) :
      Writes text label? ([0xFF, 0xFE] ++ Utf16.encode .littleEndian text)
  | bigEndian (label? : Option String) :
      Writes text label? ([0xFE, 0xFF] ++ Utf16.encode .bigEndian text)

/-- The mark in front of bytes that are a text in UTF-8 is its first character. -/
theorem head_of_utf8_mark {text : String} {rest : Bytes}
    (h : Utf8.encode text = 0xEF :: 0xBB :: 0xBF :: rest) :
    text.toList.head? = some byteOrderMark := by
  have hmark : String.utf8EncodeChar byteOrderMark = [0xEF, 0xBB, 0xBF] := by decide
  have hpieces := Utf8.pieces_encodeChar byteOrderMark rest
  rw [hmark, List.cons_append, List.cons_append, List.cons_append, List.nil_append, ← h,
    Utf8.pieces_encode] at hpieces
  have hhead := congrArg List.head? hpieces
  rw [List.head?_map, List.head?_cons, Option.map_eq_some_iff] at hhead
  obtain ⟨c, hc, hscalar⟩ := hhead
  cases hscalar
  exact hc

/-- No text in UTF-8 starts with a byte that starts no character. -/
theorem ne_encode_of_lead {text : String} {b : UInt8} {rest : Bytes}
    (hb : Utf8.lead b = ([.illFormed [b]], none)) : Utf8.encode text ≠ b :: rest := by
  intro h
  have hpieces := Utf8.pieces_encode text
  have hstep : Utf8.step none b = ([.illFormed [b]], none) := hb
  have hrun : Utf8.pieces (b :: rest) = .illFormed [b] :: Utf8.pieces rest := by
    rw [Utf8.pieces, Utf8.run_cons, hstep, Utf8.run_append]
    rfl
  rw [h, hrun] at hpieces
  cases htext : text.toList with
  | nil =>
    rw [htext] at hpieces
    cases hpieces
  | cons c cs =>
    rw [htext] at hpieces
    cases hpieces

/-- **Bytes of UTF-8 are marked only if the text starts with a mark.** -/
theorem mark?_encode {text : String} (h : text.toList.head? ≠ some byteOrderMark) :
    mark? (Utf8.encode text) = none := by
  unfold mark?
  split
  · rename_i rest hbytes
    exact absurd (head_of_utf8_mark hbytes) h
  · rename_i rest hbytes
    exact absurd hbytes (ne_encode_of_lead (by decide))
  · rename_i rest hbytes
    exact absurd hbytes (ne_encode_of_lead (by decide))
  · rfl

/-- **A text is read as it was written.** -/
theorem Writes.decode {text : String} {label? : Option String} {bytes : Bytes}
    (h : Writes text label? bytes) : Charset.decode label? bytes = text := by
  cases h with
  | plain unmarked =>
    rw [Charset.decode, mark?_encode unmarked]
    exact Utf8.decodeLossy_encode text
  | utf8 => exact Utf8.decodeLossy_encode text
  | littleEndian => exact Utf16.decodeLossy_encode .littleEndian text
  | bigEndian => exact Utf16.decodeLossy_encode .bigEndian text

end ManifestPublish.Charset
