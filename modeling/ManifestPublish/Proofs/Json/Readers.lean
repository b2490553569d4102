import Mathlib
import ManifestPublish.Json.Record
import ManifestPublish.Proofs.Json.Skip

/-!
# Readers and what values mean to them

* `Json.Decodes` : a reader reads the values that mean something to it, and nothing else
* `Json.IsText`, `Json.OrNull` : what a value means as a string, and as one that may be `null`

A reader is known by the meaning of values alone: neither blanks nor the spelling of a string nor
anything else of the text makes a difference to it.

Principal results: `Json.Decodes.decode_eq_ok_iff` and `Json.Decodes.decode_of_denotes`.
-/

set_option autoImplicit false

namespace ManifestPublish.Json

variable {α : Type}

/-- A reader reads the values that mean something to it, and nothing else. -/
structure Decodes (read : Reader α) (Means : Value → α → Prop) : Prop where
  /-- What is read is a value. -/
  sound : ∀ {cs rest : List Char} {a : α}, read cs = .ok (a, rest) →
    ∃ v start, Spaced cs start ∧ Written (.value v) start rest
  /-- A value is read as what it means, and refused if it means nothing. -/
  exact : ∀ {v : Value} {cs start rest : List Char}, Spaced cs start →
    Written (.value v) start rest → Follows rest →
    ∀ a left, read cs = .ok (a, left) ↔ Means v a ∧ left = rest

theorem bind_eq_ok_iff {β γ : Type} {x : Except Fault β} {f : β → Except Fault γ} {c : γ} :
    x.bind f = .ok c ↔ ∃ b, x = .ok b ∧ f b = .ok c := by
  cases x with
  | error fault => exact iff_of_false nofun (by rintro ⟨b, ⟨⟩, -⟩)
  | ok b =>
    constructor
    · intro h
      exact ⟨b, rfl, h⟩
    · rintro ⟨_, ⟨⟩, h⟩
      exact h

/-! ## Whole texts -/

section Texts

variable {read : Reader α} {Means : Value → α → Prop} {text : String} {a : α}

theorem decode_eq_ok : decode read text = .ok a ↔ decodeChars read text.toList = .ok a := by
  rw [decode]
  cases decodeChars read text.toList <;> simp [Except.mapError]

theorem decodeChars_eq_ok {cs : List Char} :
    decodeChars read cs = .ok a ↔ ∃ rest, read cs = .ok (a, rest) ∧ Spaced rest [] := by
  constructor
  · intro h
    unfold decodeChars at h
    split at h
    · cases h
    · rename_i b rest hread
      split at h
      · rename_i hend
        obtain rfl := Except.ok.inj h
        exact ⟨rest, hread, hend ▸ spaced_skipBlanks rest⟩
      · cases h
  · rintro ⟨rest, hread, hend⟩
    have hblanks : skipBlanks rest = [] := hend.skipBlanks_eq
    simp only [decodeChars, hread, hblanks]

theorem follows_nil : Follows [] := nofun

/-- **What is decoded is what the value of the text means.** -/
theorem Decodes.decode_of_denotes (h : Decodes read Means) {v : Value} (hv : Denotes v text) :
    decode read text = .ok a ↔ Means v a := by
  obtain ⟨start, rest, blanks, value, hend⟩ := hv
  have hexact := h.exact blanks value (hend.follows follows_nil)
  rw [decode_eq_ok, decodeChars_eq_ok]
  constructor
  · rintro ⟨left, hread, -⟩
    exact ((hexact a left).1 hread).1
  · intro hmeans
    exact ⟨rest, (hexact a rest).2 ⟨hmeans, rfl⟩, hend⟩

/-- **Texts that denote a value with a meaning are decoded, and no others.** -/
theorem Decodes.decode_eq_ok_iff (h : Decodes read Means) :
    decode read text = .ok a ↔ ∃ v, Denotes v text ∧ Means v a := by
  constructor
  · intro hdecode
    obtain ⟨rest, hread, hend⟩ := decodeChars_eq_ok.1 (decode_eq_ok.1 hdecode)
    obtain ⟨v, start, blanks, value⟩ := h.sound hread
    have hv : Denotes v text := ⟨start, rest, blanks, value, hend⟩
    exact ⟨v, hv, (h.decode_of_denotes hv).1 hdecode⟩
  · rintro ⟨v, hv, hmeans⟩
    exact (h.decode_of_denotes hv).2 hmeans

end Texts

/-! ## Strings -/

/-- A value is a text. -/
def IsText (v : Value) (s : String) : Prop := v = .text s

theorem readText_quote {cs rest : List Char} (h : skipBlanks cs = '"' :: rest) :
    readText cs = readString rest := by
  simp only [readText, h]

theorem readText_other {cs rest : List Char} {c : Char} (h : skipBlanks cs = c :: rest)
    (hc : c ≠ '"') : ∃ fault, readText cs = .error fault := by
  unfold readText
  split
  · rename_i heq
    exact (hc (List.cons.inj (h.symm.trans heq)).1).elim
  · exact ⟨_, rfl⟩

theorem eq_string_of_opening {v : Value} (h : '"' ∈ v.openings) : ∃ units, v = .string units := by
  cases v with
  | string units => exact ⟨units, rfl⟩
  | boolean value => cases value <;> simp [Value.openings] at h
  | null | number | array | object => simp [Value.openings] at h

/-- **Strings are read if they are texts.** -/
theorem decodes_readText : Decodes readText IsText := by
  constructor
  · intro cs rest s h
    unfold readText at h
    split at h
    · rename_i afterQuote heq
      obtain ⟨units, spelled⟩ := spelled_of_readString h
      exact ⟨.string units, _, heq ▸ spaced_skipBlanks cs, .string spelled⟩
    · cases h
  · intro v cs start rest blanks value _ s left
    have hblanks := value.skipBlanks_eq blanks
    by_cases hstring : ∃ units, v = .string units
    · obtain ⟨units, rfl⟩ := hstring
      cases value with
      | string spelled =>
        rw [readText_quote hblanks]
        constructor
        · intro h
          obtain ⟨hunits, hleft⟩ := spelled.eq_of_readString h
          exact ⟨congrArg Value.string hunits, hleft⟩
        · rintro ⟨hmeans, rfl⟩
          obtain rfl := Value.string.inj hmeans
          exact readString_spelled spelled
    · obtain ⟨c, more, rfl, hopening⟩ := value.opening
      have hquote : c ≠ '"' := by
        rintro rfl
        exact hstring (eq_string_of_opening hopening)
      obtain ⟨fault, hfault⟩ := readText_other hblanks hquote
      rw [hfault]
      refine iff_of_false nofun ?_
      rintro ⟨rfl, -⟩
      exact hstring ⟨_, rfl⟩

/-! ## Values that may be absent -/

/-- A value is `null` for none, or means something else. -/
inductive OrNull (Means : Value → α → Prop) : Value → Option α → Prop where
  | null : OrNull Means .null none
  | value {v : Value} {a : α} (notNull : v ≠ .null) (means : Means v a) :
      OrNull Means v (some a)

section Optional

variable {read : Reader α} {Means : Value → α → Prop} {cs rest : List Char}

theorem readOptional_null (h : skipBlanks cs = 'n' :: rest) :
    readOptional read cs = (readWord "ull".toList rest).map (none, ·) := by
  simp only [readOptional, h]

theorem readOptional_other {c : Char} (h : skipBlanks cs = c :: rest) (hc : c ≠ 'n') :
    readOptional read cs = (read (c :: rest)).map fun (a, left) => (some a, left) := by
  unfold readOptional
  split
  · rename_i heq
    exact (hc (List.cons.inj (h.symm.trans heq)).1).elim
  · rw [h]

theorem eq_null_of_opening {v : Value} (h : 'n' ∈ v.openings) : v = .null := by
  cases v with
  | null => rfl
  | boolean value => cases value <;> simp [Value.openings] at h
  | number | string | array | object => simp [Value.openings] at h

theorem map_some_eq_ok {x : Except Fault (α × List Char)} {a : Option α} {left : List Char} :
    (x.map fun (b, left) => (some b, left)) = .ok (a, left) ↔
      ∃ b, a = some b ∧ x = .ok (b, left) := by
  cases x with
  | error fault => simp [Except.map]
  | ok found =>
    obtain ⟨b, left'⟩ := found
    constructor
    · intro h
      obtain ⟨rfl, rfl⟩ := Prod.mk.inj (Except.ok.inj h)
      exact ⟨b, rfl, rfl⟩
    · rintro ⟨_, rfl, h⟩
      obtain ⟨rfl, rfl⟩ := Prod.mk.inj (Except.ok.inj h)
      rfl

/-- **`null` is read as none, and other values as what they mean.** -/
theorem Decodes.readOptional (h : Decodes read Means) :
    Decodes (readOptional read) (OrNull Means) := by
  constructor
  · intro cs rest a hread
    unfold Json.readOptional at hread
    split at hread
    · rename_i afterFirst heq
      cases hword : readWord "ull".toList afterFirst with
      | error fault =>
        rw [hword] at hread
        cases hread
      | ok left =>
        rw [hword] at hread
        obtain ⟨-, rfl⟩ := Prod.mk.inj (Except.ok.inj hread)
        obtain rfl := readWord_eq_ok_iff.1 hword
        exact ⟨.null, _, heq ▸ spaced_skipBlanks cs, .null⟩
    · obtain ⟨b, -, hb⟩ := map_some_eq_ok.1 hread
      obtain ⟨v, start, blanks, value⟩ := h.sound hb
      exact ⟨v, start, (spaced_skipBlanks cs).trans blanks, value⟩
  · intro v cs start rest blanks value hrest a left
    have hblanks := value.skipBlanks_eq blanks
    by_cases hnull : v = .null
    · subst hnull
      cases value with
      | null =>
        have hword : readWord "ull".toList ('u' :: 'l' :: 'l' :: rest) = .ok rest :=
          readWord_eq_ok_iff.2 rfl
        rw [readOptional_null hblanks, hword]
        constructor
        · intro heq
          obtain ⟨rfl, rfl⟩ := Prod.mk.inj (Except.ok.inj heq)
          exact ⟨.null, rfl⟩
        · rintro ⟨hmeans, rfl⟩
          cases hmeans with
          | null => rfl
          | value notNull => exact (notNull rfl).elim
    · obtain ⟨c, more, rfl, hopening⟩ := value.opening
      have hc : c ≠ 'n' := by
        rintro rfl
        exact hnull (eq_null_of_opening hopening)
      rw [readOptional_other hblanks hc, map_some_eq_ok]
      have hexact := h.exact (spaced_refl _) value hrest
      constructor
      · rintro ⟨b, rfl, hb⟩
        obtain ⟨hmeans, rfl⟩ := (hexact b left).1 hb
        exact ⟨.value hnull hmeans, rfl⟩
      · rintro ⟨hmeans, rfl⟩
        cases hmeans with
        | null => exact (hnull rfl).elim
        | value _ means => exact ⟨_, rfl, (hexact _ _).2 ⟨means, rfl⟩⟩

end Optional

end ManifestPublish.Json
