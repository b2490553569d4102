import ManifestPublish.Proofs.Json.Records
import ManifestPublish.Publish.Answer

/-!
# What answers say

A token or an identifier follows from the value that the text of an answer denotes: from the members
with the names that are wanted, whatever else there is and however it is written.

* `HasToken`, `HasId`, `HasNoId` : what the members of an object say

Principal results: `decode_of_object` and `decode_eq_ok_iff_has`.
-/

set_option autoImplicit false

namespace ManifestPublish

open Json

/-! ## What is read -/

theorem decodes_readTokenRecord :
    Decodes readTokenRecord (Holds "access_token" (OrNull IsText)) :=
  decodes_readText.readOptional.readRecord

theorem decodes_readManifestRecord :
    Decodes readManifestRecord (Holds "data" (OrNull (Holds "factSheetId" (OrNull IsText)))) :=
  decodes_readText.readOptional.readRecord.readOptional.readRecord

section Decode

variable {text : String} {token : AccessToken} {id : String}

/-- An empty token counts as absent. -/
theorem decodeToken_eq_ok_iff : decodeToken text = .ok token ↔
    token.value ≠ "" ∧ decode readTokenRecord text = .ok (some token.value) := by
  obtain ⟨value⟩ := token
  unfold decodeToken
  cases decode readTokenRecord text with
  | error fault => simp
  | ok found =>
    cases found with
    | none => simp
    | some t => by_cases ht : t = "" <;> grind

/-- An empty identifier counts as absent. -/
theorem decodeFactSheetId_eq_some_iff : decodeFactSheetId text = .ok (some id) ↔
    id ≠ "" ∧ decode readManifestRecord text = .ok (some (some id)) := by
  unfold decodeFactSheetId
  cases decode readManifestRecord text with
  | error fault => simp
  | ok found =>
    cases found with
    | none => simp
    | some held =>
      cases held with
      | none => simp
      | some i => by_cases hi : i = "" <;> grind

theorem decodeFactSheetId_eq_none_iff : decodeFactSheetId text = .ok none ↔
    decode readManifestRecord text = .ok none ∨ decode readManifestRecord text = .ok (some none) ∨
      decode readManifestRecord text = .ok (some (some "")) := by
  unfold decodeFactSheetId
  cases decode readManifestRecord text with
  | error fault => simp
  | ok found =>
    cases found with
    | none => simp
    | some held =>
      cases held with
      | none => simp
      | some i => by_cases hi : i = "" <;> simp [hi]

end Decode

/-! ## Objects -/

/-- The members of an answer say a token: one of them is it, and it is not empty. -/
def HasToken (members : List (String × Value)) (token : String) : Prop :=
  token ≠ "" ∧ valuesOf "access_token" members = [.text token]

/-- The members of an answer say an identifier, inside the data, that is not empty. -/
def HasId (members : List (String × Value)) (id : String) : Prop :=
  id ≠ "" ∧ ∃ data, valuesOf "data" members = [.record data] ∧
    valuesOf "factSheetId" data = [.text id]

/-- The members of an answer say that there is no identifier: there is no data, or none in it. -/
def HasNoId (members : List (String × Value)) : Prop :=
  valuesOf "data" members = [] ∨ valuesOf "data" members = [.null] ∨
    ∃ data, valuesOf "data" members = [.record data] ∧
      valuesOf "factSheetId" data ∈ [[], [.null], [.text ""]]

section Objects

variable {members : List (String × Value)} {text : String}

theorem decodeToken_object (h : Denotes (.record members) text) (token : AccessToken) :
    decodeToken text = .ok token ↔ HasToken members token.value := by
  rw [decodeToken_eq_ok_iff, decodes_readTokenRecord.decode_of_denotes h, holds_text_iff,
    has_record_iff]
  exact Iff.rfl

theorem holds_data_iff (hdata : ∀ items, valuesOf "data" members ≠ [.array items])
    {id : Option String} :
    Holds "data" (OrNull (Holds "factSheetId" (OrNull IsText))) (.record members) (some id) ↔
      ∃ data, valuesOf "data" members = [.record data] ∧
        Holds "factSheetId" (OrNull IsText) (.record data) id := by
  rw [holds_record_iff]
  constructor
  · rintro ⟨w, has, holds⟩
    rw [has_record_iff] at has
    obtain ⟨x, rfl⟩ | ⟨data, rfl⟩ := holds.kind
    · exact (hdata _ has).elim
    · exact ⟨data, has, holds⟩
  · rintro ⟨data, has, holds⟩
    exact ⟨.record data, has_record_iff.2 has, holds⟩

theorem decodeFactSheetId_object_some (h : Denotes (.record members) text)
    (hdata : ∀ items, valuesOf "data" members ≠ [.array items]) (id : String) :
    decodeFactSheetId text = .ok (some id) ↔ HasId members id := by
  rw [decodeFactSheetId_eq_some_iff, decodes_readManifestRecord.decode_of_denotes h,
    holds_data_iff hdata]
  simp only [holds_text_iff, has_record_iff]
  exact Iff.rfl

theorem decodeFactSheetId_object_none (h : Denotes (.record members) text)
    (hdata : ∀ items, valuesOf "data" members ≠ [.array items]) :
    decodeFactSheetId text = .ok none ↔ HasNoId members := by
  have hdecode (a) := decodes_readManifestRecord.decode_of_denotes (a := a) h
  rw [decodeFactSheetId_eq_none_iff, hdecode, hdecode, hdecode, holds_none_iff, lacks_record_iff,
    has_record_iff, holds_data_iff hdata, holds_data_iff hdata]
  simp only [holds_none_iff, holds_text_iff, lacks_record_iff, has_record_iff, HasNoId,
    List.mem_cons, List.not_mem_nil, or_false]
  grind

theorem refused_of_ne_ok {α ε : Type} {x : Except ε α} (h : ∀ a, x ≠ .ok a) :
    ∃ fault, x = .error fault := by
  cases x with
  | error fault => exact ⟨fault, rfl⟩
  | ok a => exact (h a rfl).elim

/-- **What an answer says depends on the members of the object it denotes alone**, and of these on
the wanted ones: a token or an identifier is found where they say it, none where they say so, and
everything else is refused. -/
theorem decode_of_object (h : Denotes (.record members) text) :
    (∀ token, decodeToken text = .ok token ↔ HasToken members token.value) ∧
    ((∀ token, ¬ HasToken members token) → ∃ fault, decodeToken text = .error fault) ∧
    ((∀ items, valuesOf "data" members ≠ [.array items]) →
      (∀ id, decodeFactSheetId text = .ok (some id) ↔ HasId members id) ∧
      (decodeFactSheetId text = .ok none ↔ HasNoId members) ∧
      ((∀ id, ¬ HasId members id) → ¬ HasNoId members →
        ∃ fault, decodeFactSheetId text = .error fault)) := by
  refine ⟨decodeToken_object h, ?_, ?_⟩
  · intro hno
    exact refused_of_ne_ok fun token htoken => hno _ ((decodeToken_object h token).1 htoken)
  · intro hdata
    have hsome := decodeFactSheetId_object_some h hdata
    have hnone := decodeFactSheetId_object_none h hdata
    refine ⟨hsome, hnone, fun hid hnoid => refused_of_ne_ok fun found hfound => ?_⟩
    cases found with
    | none => exact hnoid (hnone.1 hfound)
    | some id => exact hid id ((hsome id).1 hfound)

theorem denotes_escaped :
    Denotes (.record [("access_token", .text "T"),
        ("data", .record [("x", .array [.null]), ("factSheetId", .text "😀")])])
      ("\x7b \"access\\u005Ftoken\" :\"T\",\"data\":\x7b\"x\":[ null ]," ++
        "\"factSheetId\":\"\\uD83D\\uDE00\"\x7d\x7d") := by
  rw [Denotes, String.toList_append]
  refine ⟨_, [], spaced_refl _, .object (.filled ?_), spaced_refl _⟩
  refine .element (.object ⟨[' '], rfl, by simp⟩ (.append (t := ['a', 'c', 'c', 'e', 's', 's'])
      (by simp) (.unit (show IsHexDigit '0' 0 by decide) (show IsHexDigit '0' 0 by decide)
        (show IsHexDigit '5' 5 by decide) (show IsHexDigit 'F' 15 by decide)
        (.append (t := ['t', 'o', 'k', 'e', 'n']) (by simp) .close))) ⟨[' '], rfl, by simp⟩)
    (spaced_refl _) (.string (.append (t := ['T']) (by simp) .close)) (.comma (spaced_refl _) ?_)
  refine .element (.object (spaced_refl _) (.append (t := ['d', 'a', 't', 'a']) (by simp) .close)
    (spaced_refl _)) (spaced_refl _) (.object (.filled ?_)) (.close (spaced_refl _))
  refine .element (.object (spaced_refl _) (.append (t := ['x']) (by simp) .close)
      (spaced_refl _)) (spaced_refl _)
    (.array (.filled (.element .array ⟨[' '], rfl, by simp⟩ .null (.close ⟨[' '], rfl, by simp⟩))))
    (.comma (spaced_refl _) ?_)
  exact .element (.object (spaced_refl _) (.append
      (t := ['f', 'a', 'c', 't', 'S', 'h', 'e', 'e', 't', 'I', 'd']) (by simp) .close)
      (spaced_refl _)) (spaced_refl _)
    (.string (.unit (show IsHexDigit 'D' 13 by decide) (show IsHexDigit '8' 8 by decide)
      (show IsHexDigit '3' 3 by decide) (show IsHexDigit 'D' 13 by decide)
      (.unit (show IsHexDigit 'D' 13 by decide) (show IsHexDigit 'E' 14 by decide)
        (show IsHexDigit '0' 0 by decide) (show IsHexDigit '0' 0 by decide) .close)))
    (.close (spaced_refl _))

/-- The unknown member of the data makes no difference. -/
theorem decode_of_object_escaped :
    let members := [("access_token", .text "T"),
      ("data", .record [("x", .array [.null]), ("factSheetId", .text "😀")])]
    let text := "\x7b \"access\\u005Ftoken\" :\"T\",\"data\":\x7b\"x\":[ null ]," ++
      "\"factSheetId\":\"\\uD83D\\uDE00\"\x7d\x7d"
    Denotes (.record members) text ∧ (∀ items, valuesOf "data" members ≠ [.array items]) ∧
      decodeToken text = .ok ⟨"T"⟩ ∧ decodeFactSheetId text = .ok (some "😀") := by
  intro members text
  have h : Denotes (.record members) text := denotes_escaped
  have hdata : ∀ items, valuesOf "data" members ≠ [.array items] := by
    intro items heq
    cases heq
  obtain ⟨htoken, -, hid⟩ := decode_of_object h
  exact ⟨h, hdata, (htoken ⟨"T"⟩).2 ⟨by decide, rfl⟩,
    ((hid hdata).1 "😀").2 ⟨by decide, _, rfl, rfl⟩⟩

end Objects

/-! ## All texts -/

section Texts

variable {text : String}

/-- **Tokens and identifiers come from the members that are wanted, or from the one element of an
array in the place of an object.** -/
theorem decode_eq_ok_iff_has (text : String) :
    (∀ token, decodeToken text = .ok token ↔ token.value ≠ "" ∧
      ∃ v, Denotes v text ∧ v.Has "access_token" (.text token.value)) ∧
    (∀ id, decodeFactSheetId text = .ok (some id) ↔ id ≠ "" ∧
      ∃ v data, Denotes v text ∧ v.Has "data" data ∧ data.Has "factSheetId" (.text id)) ∧
    (decodeFactSheetId text = .ok none ↔
      ∃ v, Denotes v text ∧ (v.Lacks "data" ∨ v.Has "data" .null ∨
        ∃ data, v.Has "data" data ∧ (data.Lacks "factSheetId" ∨ data.Has "factSheetId" .null ∨
          data.Has "factSheetId" (.text "")))) := by
  have hdecode := fun a => @Decodes.decode_eq_ok_iff _ _ _ text a decodes_readManifestRecord
  refine ⟨fun token => ?_, fun id => ?_, ?_⟩
  · simp only [decodeToken_eq_ok_iff, decodes_readTokenRecord.decode_eq_ok_iff, holds_text_iff]
  · simp only [decodeFactSheetId_eq_some_iff, hdecode, holds_record_iff, holds_text_iff]
    grind
  · simp only [decodeFactSheetId_eq_none_iff, hdecode, holds_record_iff, holds_none_iff,
      holds_text_iff]
    grind

/-- **Arrays are taken for objects**: texts that denote no object give a token, an identifier, or
none. -/
theorem decode_element_taken :
    decodeToken "[\"X\"]" = .ok ⟨"X"⟩ ∧
    decodeFactSheetId "[[\"FS\"]]" = .ok (some "FS") ∧
    decodeFactSheetId "[null]" = .ok none ∧
    ¬ (∃ members text, text ∈ ["[\"X\"]", "[[\"FS\"]]", "[null]"] ∧
      Denotes (.object members) text) := by
  refine ⟨by cbv, by cbv, by cbv, ?_⟩
  rintro ⟨members, text, htext, start, rest, blanks, value, -⟩
  have hstart := value.skipBlanks_eq blanks
  cases value with
  | object hopened =>
    have hfirst : (skipBlanks text.toList).head? = some '\x7b' := by
      rw [hstart]
      rfl
    have hall : ∀ text ∈ ["[\"X\"]", "[[\"FS\"]]", "[null]"],
        (skipBlanks text.toList).head? ≠ some '\x7b' := by decide
    exact hall text htext hfirst

end Texts

end ManifestPublish
