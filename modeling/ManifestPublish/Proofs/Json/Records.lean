import ManifestPublish.Proofs.Json.Members

/-!
# Reading records

* `Json.Value.Lacks`, `Json.Value.Has` : whether a value has the one member of a record
* `Json.Holds` : what a value holds for it

A record is an object that has its member at most once, or an array of one element.

Principal result: `Json.Decodes.readRecord`.
-/

set_option autoImplicit false

namespace ManifestPublish.Json

variable {α : Type}

/-- An object has no member of that name. -/
def Value.Lacks (v : Value) (name : String) : Prop :=
  ∃ members, v = .record members ∧ valuesOf name members = []

/-- An object has one member of that name, or the one element of an array stands for it. -/
def Value.Has (v : Value) (name : String) (w : Value) : Prop :=
  v = .array [w] ∨ ∃ members, v = .record members ∧ valuesOf name members = [w]

/-- What a value holds for a member of that name. -/
inductive Holds (member : String) (Means : Value → Option α → Prop) : Value → Option α → Prop where
  | absent {v : Value} (lacks : v.Lacks member) : Holds member Means v none
  | present {v w : Value} {a : Option α} (has : v.Has member w) (means : Means w a) :
      Holds member Means v a

/-! ## Objects -/

/-- Members with their names as code units. -/
def unitMembers (members : List (String × Value)) : List (Units × Value) :=
  members.map fun m => (unitsOf m.1.toList, m.2)

section Objects

variable {β : Type} {wanted : String} {Means : Value → β → Prop} {raw : List (Units × Value)}
  {members : List (String × Value)} {found last : Option β}

theorem valuesOf_cons_self {v : Value} :
    valuesOf wanted ((wanted, v) :: members) = v :: valuesOf wanted members := by
  simp [valuesOf]

theorem valuesOf_cons_of_ne {name : String} {v : Value} (h : name ≠ wanted) :
    valuesOf wanted ((name, v) :: members) = valuesOf wanted members := by
  simp [valuesOf, h]

/-- What the values of the wanted members give; `found` is what it was before. -/
inductive Gives (Means : Value → β → Prop) : Option β → List Value → Option β → Prop where
  | nothing {found : Option β} : Gives Means found [] found
  | value {v : Value} {b : β} (means : Means v b) : Gives Means none [v] (some b)

theorem Collects.gives (h : Collects wanted Means found raw last) :
    ∃ members, raw = unitMembers members ∧ Gives Means found (valuesOf wanted members) last := by
  induction h with
  | done => exact ⟨[], rfl, .nothing⟩
  | @taken v a _ _ means more ih =>
    obtain ⟨members, rfl, hgives⟩ := ih
    refine ⟨(wanted, v) :: members, rfl, ?_⟩
    rw [valuesOf_cons_self]
    generalize valuesOf wanted members = values at hgives
    cases hgives with
    | nothing => exact .value means
  | @passed name v _ _ _ unwanted more ih =>
    obtain ⟨members, rfl, hgives⟩ := ih
    refine ⟨(name, v) :: members, rfl, ?_⟩
    rw [valuesOf_cons_of_ne unwanted]
    exact hgives

theorem Gives.collects (h : Gives Means found (valuesOf wanted members) last) :
    Collects wanted Means found (unitMembers members) last := by
  induction members generalizing found with
  | nil =>
    cases h with
    | nothing => exact .done
  | cons m members ih =>
    obtain ⟨name, v⟩ := m
    by_cases hname : name = wanted
    · subst hname
      rw [valuesOf_cons_self] at h
      generalize hvalues : valuesOf name members = values at h
      cases h with
      | value means => exact .taken means (ih (hvalues ▸ .nothing))
    · rw [valuesOf_cons_of_ne hname] at h
      exact .passed hname (ih h)

end Objects

section Holding

variable {member : String} {Means : Value → Option α → Prop} {a : Option α}

theorem holds_array_iff {items : List Value} :
    Holds member Means (.array items) a ↔ ∃ v, items = [v] ∧ Means v a := by
  constructor
  · intro h
    cases h with
    | absent lacks =>
      obtain ⟨members, heq, -⟩ := lacks
      cases heq
    | present has means =>
      obtain heq | ⟨members, heq, -⟩ := has
      · exact ⟨_, Value.array.inj heq, means⟩
      · cases heq
  · rintro ⟨v, rfl, means⟩
    exact .present (.inl rfl) means

theorem holds_object_iff {raw : List (Units × Value)} :
    Holds member Means (.object raw) a ↔
      ∃ last, Collects member Means none raw last ∧ a = last.join := by
  constructor
  · intro h
    cases h with
    | absent lacks =>
      obtain ⟨members, heq, nothing⟩ := lacks
      obtain rfl : raw = unitMembers members := Value.object.inj heq
      exact ⟨none, Gives.collects (nothing ▸ .nothing), rfl⟩
    | present has means =>
      obtain heq | ⟨members, heq, once⟩ := has
      · cases heq
      · obtain rfl : raw = unitMembers members := Value.object.inj heq
        exact ⟨some a, Gives.collects (once ▸ .value means), rfl⟩
  · rintro ⟨last, collects, rfl⟩
    obtain ⟨members, rfl, gives⟩ := collects.gives
    generalize hvalues : valuesOf member members = values at gives
    cases gives with
    | nothing => exact .absent ⟨members, rfl, hvalues⟩
    | value means => exact .present (.inr ⟨members, rfl, hvalues⟩) means

/-- Only arrays of one element and objects hold members. -/
theorem Holds.kind {v : Value} (h : Holds member Means v a) :
    (∃ w, v = .array [w]) ∨ ∃ members, v = .record members := by
  cases h with
  | absent lacks =>
    obtain ⟨members, heq, -⟩ := lacks
    exact .inr ⟨members, heq⟩
  | present has means =>
    obtain heq | ⟨members, heq, -⟩ := has
    · exact .inl ⟨_, heq⟩
    · exact .inr ⟨members, heq⟩

end Holding

/-! ## Arrays -/

section Arrays

variable {name : RecordName} {read : Reader α} {Means : Value → α → Prop} {a : α}
  {cs rest left : List Char}

theorem readArrayEnd_eq_ok_iff : readArrayEnd cs = .ok rest ↔ Spaced cs (']' :: rest) := by
  constructor
  · intro h
    unfold readArrayEnd at h
    split at h
    · cases h
    · rename_i heq
      obtain rfl := Except.ok.inj h
      exact heq ▸ spaced_skipBlanks cs
    · split at h <;> cases h
    · cases h
  · intro h
    simp only [readArrayEnd, h.skipBlanks_cons rfl]

theorem readElement_empty (name : RecordName) (read : Reader α) (h : skipBlanks cs = ']' :: rest) :
    ∃ fault, readElement name read cs = .error fault := by
  simp only [readElement, h]
  exact ⟨_, rfl⟩

/-- An element is read up to the end of its array. -/
theorem readElement_eq_ok_iff {c : Char} {start : List Char} (h : skipBlanks cs = c :: start)
    (hc : c ≠ ']') : readElement name read cs = .ok (a, rest) ↔
      ∃ afterValue, read (c :: start) = .ok (a, afterValue) ∧ Spaced afterValue (']' :: rest) := by
  have hread : readElement name read cs =
      (read (c :: start)).bind fun found => (readArrayEnd found.2).map (found.1, ·) := by
    unfold readElement
    split
    · rename_i heq
      cases h.symm.trans heq
    · rename_i heq
      exact (hc (List.cons.inj (h.symm.trans heq)).1).elim
    · rw [h]
      cases read (c :: start) <;> rfl
  rw [hread, bind_eq_ok_iff]
  constructor
  · rintro ⟨⟨b, afterValue⟩, hvalue, hend⟩
    cases harray : readArrayEnd afterValue with
    | error fault =>
      simp only [harray] at hend
      cases hend
    | ok left =>
      simp only [harray] at hend
      obtain ⟨rfl, rfl⟩ := Prod.mk.inj (Except.ok.inj hend)
      exact ⟨afterValue, hvalue, readArrayEnd_eq_ok_iff.1 harray⟩
  · rintro ⟨afterValue, hvalue, hend⟩
    refine ⟨(a, afterValue), hvalue, ?_⟩
    simp only [readArrayEnd_eq_ok_iff.2 hend]
    rfl

theorem Decodes.readElement_sound (h : Decodes read Means)
    (hread : readElement name read cs = .ok (a, rest)) :
    ∃ v, Written (.opened .array [([], v)]) cs rest := by
  cases hblanks : skipBlanks cs with
  | nil =>
    unfold readElement at hread
    simp only [hblanks] at hread
    cases hread
  | cons c start =>
    by_cases hempty : c = ']'
    · subst hempty
      obtain ⟨fault, hfault⟩ := readElement_empty name read hblanks
      cases hread.symm.trans hfault
    · obtain ⟨afterValue, hvalue, hend⟩ := (readElement_eq_ok_iff hblanks hempty).1 hread
      obtain ⟨v, start', blanks, value⟩ := h.sound hvalue
      have blanks' : Spaced cs start' := (hblanks ▸ spaced_skipBlanks cs).trans blanks
      exact ⟨v, .filled (.element .array blanks' value (.close hend))⟩

/-- The one element of an array is read as what it means; no other array is read. -/
theorem Decodes.readElement_exact (h : Decodes read Means) {items : List Value}
    (hopened : Written (.opened .array (items.map ([], ·))) cs rest) :
    readElement name read cs = .ok (a, left) ↔
      (∃ v, items = [v] ∧ Means v a) ∧ left = rest := by
  generalize helements : items.map (([] : Units), ·) = elements at hopened
  cases hopened with
  | empty hclosing =>
    obtain rfl := List.map_eq_nil_iff.1 helements
    obtain ⟨fault, hfault⟩ :=
      readElement_empty name read (hclosing.skipBlanks_cons rfl)
    rw [hfault]
    refine iff_of_false nofun ?_
    rintro ⟨⟨v, ⟨⟩, -⟩, -⟩
  | filled hfilled =>
    cases hfilled with
    | @element _ _ v elements _ _ start afterValue _ label blanks value more =>
      cases label with
      | array =>
        obtain ⟨v', items, rfl, hv, hitems⟩ := List.map_eq_cons_iff.1 helements
        obtain rfl : v' = v := (Prod.mk.inj hv).2
        obtain ⟨c, after, rfl, hopening⟩ := value.opening
        have hexact := h.exact (spaced_refl _) value more.follows
        rw [readElement_eq_ok_iff (value.skipBlanks_eq blanks) (plain_of_opening hopening).2.1]
        cases more with
        | close hclosing =>
          obtain rfl := List.map_eq_nil_iff.1 hitems
          constructor
          · rintro ⟨afterValue', hvalue, hend⟩
            obtain ⟨means, rfl⟩ := (hexact a afterValue').1 hvalue
            have heq := (hend.skipBlanks_cons rfl).symm.trans (hclosing.skipBlanks_cons rfl)
            exact ⟨⟨v', rfl, means⟩, (List.cons.inj heq).2⟩
          · rintro ⟨⟨_, ⟨⟩, means⟩, rfl⟩
            exact ⟨afterValue, (hexact a afterValue).2 ⟨means, rfl⟩, hclosing⟩
        | comma hcomma more =>
          constructor
          · rintro ⟨afterValue', hvalue, hend⟩
            obtain ⟨-, rfl⟩ := (hexact a afterValue').1 hvalue
            have heq := (hend.skipBlanks_cons rfl).symm.trans (hcomma.skipBlanks_cons rfl)
            cases heq
          · rintro ⟨⟨_, ⟨⟩, -⟩, -⟩
            obtain rfl : [] = elements := hitems
            cases more

end Arrays

/-! ## Records -/

section Records

variable {name : RecordName} {read : Reader (Option α)} {Means : Value → Option α → Prop}
  {a : Option α} {cs rest : List Char}

theorem readRecord_array (h : skipBlanks cs = '[' :: rest) :
    readRecord name read cs = readElement name read rest := by
  simp only [readRecord, h]

theorem readRecord_object (h : skipBlanks cs = '\x7b' :: rest) :
    readRecord name read cs =
      (readMembers name read (rest.length + 1) true none rest).map fun (found, left) =>
        (found.join, left) := by
  simp only [readRecord, h]

theorem readRecord_other (name : RecordName) (read : Reader (Option α)) {c : Char}
    (h : skipBlanks cs = c :: rest) (harray : c ≠ '[') (hobject : c ≠ '\x7b') :
    ∃ fault, readRecord name read cs = .error fault := by
  unfold readRecord
  split
  · rename_i heq
    exact (harray (List.cons.inj (h.symm.trans heq)).1).elim
  · rename_i heq
    exact (hobject (List.cons.inj (h.symm.trans heq)).1).elim
  · exact ⟨_, rfl⟩

theorem map_join_eq_ok {x : Except Fault (Option (Option α) × List Char)} :
    (x.map fun (found, left) => (found.join, left)) = .ok (a, rest) ↔
      ∃ last, x = .ok (last, rest) ∧ a = last.join := by
  cases x with
  | error fault => simp [Except.map]
  | ok found =>
    obtain ⟨last, left⟩ := found
    constructor
    · intro h
      obtain ⟨rfl, rfl⟩ := Prod.mk.inj (Except.ok.inj h)
      exact ⟨last, rfl, rfl⟩
    · rintro ⟨_, ⟨⟩, rfl⟩
      rfl

theorem eq_array_of_opening {v : Value} (h : '[' ∈ v.openings) : ∃ items, v = .array items := by
  cases v with
  | array items => exact ⟨items, rfl⟩
  | boolean value => cases value <;> simp [Value.openings] at h
  | null | number | string | object => simp [Value.openings] at h

theorem eq_object_of_opening {v : Value} (h : '\x7b' ∈ v.openings) : ∃ raw, v = .object raw := by
  cases v with
  | object raw => exact ⟨raw, rfl⟩
  | boolean value => cases value <;> simp [Value.openings] at h
  | null | number | string | array => simp [Value.openings] at h

/-- What is read as a record is a value. -/
theorem Decodes.readRecord_sound (h : Decodes read Means)
    (hread : readRecord name read cs = .ok (a, rest)) :
    ∃ v start, Spaced cs start ∧ Written (.value v) start rest := by
  cases hblanks : skipBlanks cs with
  | nil =>
    unfold Json.readRecord at hread
    simp only [hblanks] at hread
    cases hread
  | cons c more =>
    have blanks : Spaced cs (c :: more) := hblanks ▸ spaced_skipBlanks cs
    by_cases harray : c = '['
    · subst harray
      rw [readRecord_array hblanks] at hread
      obtain ⟨v, hwritten⟩ := h.readElement_sound hread
      exact ⟨.array [v], _, blanks, .array hwritten⟩
    · by_cases hobject : c = '\x7b'
      · subst hobject
        rw [readRecord_object hblanks, map_join_eq_ok] at hread
        obtain ⟨last, hmembers, -⟩ := hread
        obtain ⟨members, hwritten⟩ := h.readMembers_sound hmembers
        exact ⟨.object members, _, blanks, .object hwritten⟩
      · obtain ⟨fault, hfault⟩ := readRecord_other name read hblanks harray hobject
        cases hread.symm.trans hfault

/-- **Records are read as what they hold, and nothing else is.** -/
theorem Decodes.readRecord (h : Decodes read Means) :
    Decodes (readRecord name read) (Holds name.member Means) := by
  refine ⟨h.readRecord_sound, ?_⟩
  intro v cs start rest blanks value hrest a left
  have hblanks := value.skipBlanks_eq blanks
  by_cases harray : ∃ items, v = .array items
  · obtain ⟨items, rfl⟩ := harray
    cases value with
    | array hopened =>
      rw [readRecord_array hblanks, holds_array_iff]
      exact h.readElement_exact hopened
  · by_cases hobject : ∃ raw, v = .object raw
    · obtain ⟨raw, rfl⟩ := hobject
      cases value with
      | @object _ inside _ hopened =>
        have hmembers : Written (membersPart true raw) inside rest := hopened
        have hfuel : raw.length < inside.length + 1 :=
          Nat.lt_succ_of_lt (length_members_lt hmembers)
        rw [readRecord_object hblanks, map_join_eq_ok, holds_object_iff]
        constructor
        · rintro ⟨last, hread, rfl⟩
          obtain ⟨collects, rfl⟩ := (h.readMembers_exact hmembers hfuel).1 hread
          exact ⟨⟨last, collects, rfl⟩, rfl⟩
        · rintro ⟨⟨last, collects, rfl⟩, rfl⟩
          exact ⟨last, (h.readMembers_exact hmembers hfuel).2 ⟨collects, rfl⟩, rfl⟩
    · obtain ⟨c, more, rfl, hopening⟩ := value.opening
      have hc : c ≠ '[' := by
        rintro rfl
        exact harray (eq_array_of_opening hopening)
      have hc' : c ≠ '\x7b' := by
        rintro rfl
        exact hobject (eq_object_of_opening hopening)
      obtain ⟨fault, hfault⟩ := readRecord_other name read hblanks hc hc'
      rw [hfault]
      refine iff_of_false nofun ?_
      rintro ⟨holds, -⟩
      obtain ⟨w, heq⟩ | ⟨members, heq⟩ := holds.kind
      · exact harray ⟨_, heq⟩
      · exact hobject ⟨_, heq⟩

end Records

/-! ## What records hold -/

section OrNull

variable {member : String} {Means : Value → α → Prop} {v : Value}

theorem holds_none_iff :
    Holds member (OrNull Means) v none ↔ v.Lacks member ∨ v.Has member .null := by
  constructor
  · intro h
    cases h with
    | absent lacks => exact .inl lacks
    | present has means =>
      cases means with
      | null => exact .inr has
  · rintro (lacks | has)
    · exact .absent lacks
    · exact .present has .null

theorem holds_some_iff {a : α} :
    Holds member (OrNull Means) v (some a) ↔ ∃ w, v.Has member w ∧ w ≠ .null ∧ Means w a := by
  constructor
  · intro h
    cases h with
    | present has means =>
      cases means with
      | value notNull means => exact ⟨_, has, notNull, means⟩
  · rintro ⟨w, has, notNull, means⟩
    exact .present has (.value notNull means)

theorem holds_text_iff {s : String} :
    Holds member (OrNull IsText) v (some s) ↔ v.Has member (.text s) := by
  rw [holds_some_iff]
  constructor
  · rintro ⟨w, has, -, rfl⟩
    exact has
  · intro has
    exact ⟨_, has, nofun, rfl⟩

theorem holds_record_iff {inner : String} {Inner : Value → Option α → Prop} {a : Option α} :
    Holds member (OrNull (Holds inner Inner)) v (some a) ↔
      ∃ w, v.Has member w ∧ Holds inner Inner w a := by
  rw [holds_some_iff]
  constructor
  · rintro ⟨w, has, -, holds⟩
    exact ⟨w, has, holds⟩
  · rintro ⟨w, has, holds⟩
    refine ⟨w, has, ?_, holds⟩
    rintro rfl
    obtain ⟨w, heq⟩ | ⟨members, heq⟩ := holds.kind <;> cases heq

end OrNull

section Objects

variable {name : String} {members : List (String × Value)} {w : Value}

/-- An object has one sequence of members with texts for names at most. -/
theorem Value.record_inj {others : List (String × Value)} :
    Value.record members = .record others ↔ members = others := by
  constructor
  · intro h
    refine (List.map_inj_right ?_).1 (Value.object.inj h)
    rintro ⟨n, v⟩ ⟨n', v'⟩ heq
    obtain ⟨hname, hv⟩ := Prod.mk.inj heq
    exact Prod.ext (String.toList_inj.1 (unitsOf_inj.1 hname)) hv
  · rintro rfl
    rfl

theorem lacks_record_iff : (Value.record members).Lacks name ↔ valuesOf name members = [] := by
  constructor
  · rintro ⟨others, heq, nothing⟩
    rw [Value.record_inj.1 heq]
    exact nothing
  · intro nothing
    exact ⟨members, rfl, nothing⟩

theorem has_record_iff : (Value.record members).Has name w ↔ valuesOf name members = [w] := by
  constructor
  · rintro (heq | ⟨others, heq, once⟩)
    · cases heq
    · rw [Value.record_inj.1 heq]
      exact once
  · intro once
    exact .inr ⟨members, rfl, once⟩

end Objects

end ManifestPublish.Json
