import ManifestPublish.Proofs.Json.Readers

/-!
# Reading the members of an object

* `Json.membersPart` : what is left of an object, from its first member on or behind a member
* `Json.Collects` : what the members of an object give for the one that is wanted

The reader goes through the members one by one and keeps the wanted one.  Unwanted members are
passed over, whatever their values are; a second wanted one is refused.

Principal results: `Json.Decodes.readMembers_sound` and `Json.Decodes.readMembers_exact`.
-/

set_option autoImplicit false

namespace ManifestPublish.Json

variable {α : Type}

/-! ## The grammar of members -/

/-- What is left of an object, from its first member on or behind a member. -/
def membersPart (isFirst : Bool) (members : List (Units × Value)) : Part :=
  if isFirst then .opened .object members else .continued .object members

/-- The next name opens, behind a comma unless it is the first. -/
def NameAhead (isFirst : Bool) (cs rest : List Char) : Prop :=
  if isFirst then Spaced cs ('"' :: rest)
  else ∃ afterComma, Spaced cs (',' :: afterComma) ∧ Spaced afterComma ('"' :: rest)

/-- A member is written behind the opening quote of its name; what follows its value is left. -/
inductive Member : Units → Value → List Char → List Char → Prop where
  | written {name : Units} {v : Value} {cs afterName afterColon start rest : List Char}
      (spelled : Spelled name cs afterName) (colon : Spaced afterName (':' :: afterColon))
      (blanks : Spaced afterColon start) (value : Written (.value v) start rest) :
      Member name v cs rest

section Grammar

variable {isFirst : Bool} {name : Units} {v : Value} {members : List (Units × Value)}
  {cs rest : List Char}

theorem written_elements_cons :
    Written (.elements .object ((name, v) :: members)) cs rest ↔
      ∃ afterQuote afterValue, Spaced cs ('"' :: afterQuote) ∧
        Member name v afterQuote afterValue ∧
        Written (.continued .object members) afterValue rest := by
  constructor
  · intro h
    cases h with
    | element label blanks value more =>
      cases label with
      | object quote spelled colon => exact ⟨_, _, quote, .written spelled colon blanks value, more⟩
  · rintro ⟨afterQuote, afterValue, quote, ⟨spelled, colon, blanks, value⟩, more⟩
    exact .element (.object quote spelled colon) blanks value more

theorem written_members_nil :
    Written (membersPart isFirst []) cs rest ↔ Spaced cs ('\x7d' :: rest) := by
  cases isFirst with
  | true =>
    constructor
    · intro h
      cases h with
      | empty h => exact h
      | filled h => cases h
    · exact @Written.empty .object cs rest
  | false =>
    constructor
    · intro h
      cases h with
      | close h => exact h
      | comma h more => cases more
    · exact @Written.close .object cs rest

theorem written_members_cons :
    Written (membersPart isFirst ((name, v) :: members)) cs rest ↔
      ∃ afterQuote afterValue, NameAhead isFirst cs afterQuote ∧
        Member name v afterQuote afterValue ∧
        Written (membersPart false members) afterValue rest := by
  cases isFirst with
  | true =>
    refine Iff.trans ?_ written_elements_cons
    constructor
    · intro h
      cases h with
      | filled h => exact h
    · exact .filled
  | false =>
    constructor
    · intro h
      cases h with
      | comma h more =>
        obtain ⟨afterQuote, afterValue, quote, member, more⟩ := written_elements_cons.1 more
        exact ⟨afterQuote, afterValue, ⟨_, h, quote⟩, member, more⟩
    · rintro ⟨afterQuote, afterValue, ⟨afterComma, h, quote⟩, member, more⟩
      exact .comma h (written_elements_cons.2 ⟨afterQuote, afterValue, quote, member, more⟩)

/-! ### Lengths -/

theorem Spelled.length_lt (h : Spelled name cs rest) : rest.length < cs.length := by
  induction h with
  | close => exact Nat.lt_succ_self _
  | plain | letter | unit => simp only [List.length_cons]; omega

theorem NameAhead.length_lt (h : NameAhead isFirst cs rest) : rest.length < cs.length := by
  cases isFirst with
  | true => exact @Spaced.length_le cs _ h
  | false =>
    obtain ⟨afterComma, hcomma, hquote⟩ := h
    have := hcomma.length_le
    have := hquote.length_le
    simp only [List.length_cons] at *
    omega

theorem Written.length_le {part : Part} (h : Written part cs rest) : rest.length ≤ cs.length := by
  induction h with
  | null | booleanTrue | booleanFalse => simp only [List.length_cons]; omega
  | number h front => rw [front, List.length_append]; omega
  | string h =>
    have := h.length_lt
    rw [List.length_cons]
    omega
  | array h ih | object h ih => rw [List.length_cons]; omega
  | empty h | close h =>
    have := h.length_le
    rw [List.length_cons] at this
    omega
  | filled h ih => exact ih
  | element label blanks value more ihvalue ihmore =>
    have := blanks.length_le
    have : _ ≤ _ := Frame.length_skipLabel (skipLabel_eq_ok_iff.2 ⟨_, label⟩)
    omega
  | comma h more ih =>
    have := h.length_le
    rw [List.length_cons] at this
    omega

theorem Member.length_lt (h : Member name v cs rest) : rest.length < cs.length := by
  cases h with
  | written spelled colon blanks value =>
    have := spelled.length_lt
    have := colon.length_le
    have := blanks.length_le
    have := value.length_le
    simp only [List.length_cons] at *
    omega

theorem length_members_lt (h : Written (membersPart isFirst members) cs rest) :
    members.length < cs.length := by
  induction members generalizing isFirst cs with
  | nil =>
    have := (written_members_nil.1 h).length_le
    rw [List.length_cons] at this
    rw [List.length_nil]
    omega
  | cons m members ih =>
    obtain ⟨afterQuote, afterValue, hname, member, more⟩ := written_members_cons.1 h
    have := ih more
    have := hname.length_lt
    have := member.length_lt
    rw [List.length_cons]
    omega

end Grammar

/-! ## Up to the next name -/

section Start

variable {isFirst : Bool} {cs rest : List Char}

theorem readMemberStart_ended_iff :
    readMemberStart isFirst cs = .ok (.ended rest) ↔ Spaced cs ('\x7d' :: rest) := by
  constructor
  · intro h
    unfold readMemberStart at h
    split at h
    · cases h
    · rename_i heq
      obtain rfl := MemberStart.ended.inj (Except.ok.inj h)
      exact heq ▸ spaced_skipBlanks cs
    · split at h
      · split at h <;> cases h
      · split at h
        · split at h <;> cases h
        · cases h
  · intro h
    simp only [readMemberStart, h.skipBlanks_cons rfl]

theorem readMemberStart_first_iff :
    readMemberStart true cs = .ok (.name rest) ↔ Spaced cs ('"' :: rest) := by
  constructor
  · intro h
    unfold readMemberStart at h
    split at h
    · cases h
    · cases h
    · rename_i heq
      rw [if_pos rfl] at h
      split at h
      · rename_i hquote
        subst hquote
        obtain rfl := MemberStart.name.inj (Except.ok.inj h)
        exact heq ▸ spaced_skipBlanks cs
      · cases h
  · intro h
    simp only [readMemberStart, h.skipBlanks_cons rfl]
    rfl

theorem readMemberStart_next_iff :
    readMemberStart false cs = .ok (.name rest) ↔
      ∃ afterComma, Spaced cs (',' :: afterComma) ∧ Spaced afterComma ('"' :: rest) := by
  constructor
  · intro h
    unfold readMemberStart at h
    split at h
    · cases h
    · cases h
    · rename_i c afterComma _ heq
      rw [if_neg Bool.false_ne_true] at h
      split at h
      · rename_i hcomma
        subst hcomma
        split at h
        · cases h
        · rename_i heq'
          obtain rfl := MemberStart.name.inj (Except.ok.inj h)
          exact ⟨afterComma, heq ▸ spaced_skipBlanks cs, heq' ▸ spaced_skipBlanks afterComma⟩
        · cases h
        · cases h
      · cases h
  · rintro ⟨afterComma, hcomma, hquote⟩
    simp [readMemberStart, hcomma.skipBlanks_cons rfl, hquote.skipBlanks_cons rfl]

theorem readMemberStart_name_iff :
    readMemberStart isFirst cs = .ok (.name rest) ↔ NameAhead isFirst cs rest := by
  cases isFirst with
  | true => exact readMemberStart_first_iff
  | false => exact readMemberStart_next_iff

end Start

/-! ## The wanted member -/

/-- What members give for the one that is wanted; `found` is what it was before. -/
inductive Collects (wanted : String) (Means : Value → α → Prop) :
    Option α → List (Units × Value) → Option α → Prop where
  | done {found : Option α} : Collects wanted Means found [] found
  | taken {v : Value} {a : α} {members : List (Units × Value)} {last : Option α}
      (means : Means v a) (more : Collects wanted Means (some a) members last) :
      Collects wanted Means none ((unitsOf wanted.toList, v) :: members) last
  | passed {name : String} {v : Value} {found last : Option α} {members : List (Units × Value)}
      (unwanted : name ≠ wanted) (more : Collects wanted Means found members last) :
      Collects wanted Means found ((unitsOf name.toList, v) :: members) last

section Collects

variable {wanted name : String} {Means : Value → α → Prop} {units : Units} {v : Value} {a : α}
  {members : List (Units × Value)} {found last : Option α}

/-- The first wanted member is taken if it means something. -/
theorem collects_wanted_iff :
    Collects wanted Means none ((unitsOf wanted.toList, v) :: members) last ↔
      ∃ a, Means v a ∧ Collects wanted Means (some a) members last := by
  constructor
  · intro h
    generalize hname : unitsOf wanted.toList = units at h
    cases h with
    | taken means more => exact ⟨_, means, more⟩
    | passed unwanted more =>
      exact (unwanted (String.toList_inj.1 (unitsOf_inj.1 hname.symm))).elim
  · rintro ⟨a, means, more⟩
    exact .taken means more

theorem not_collects_again :
    ¬ Collects wanted Means (some a) ((unitsOf wanted.toList, v) :: members) last := by
  intro h
  generalize hname : unitsOf wanted.toList = units at h
  cases h with
  | passed unwanted more => exact unwanted (String.toList_inj.1 (unitsOf_inj.1 hname.symm))

theorem collects_unwanted_iff (h : name ≠ wanted) :
    Collects wanted Means found ((unitsOf name.toList, v) :: members) last ↔
      Collects wanted Means found members last := by
  constructor
  · intro hcollects
    generalize hname : unitsOf name.toList = units at hcollects
    cases hcollects with
    | taken means more => exact (h (String.toList_inj.1 (unitsOf_inj.1 hname))).elim
    | passed unwanted more => exact more
  · exact .passed h

theorem not_collects_of_noText (h : ∀ t, units ≠ unitsOf t) :
    ¬ Collects wanted Means found ((units, v) :: members) last := by
  intro hcollects
  cases hcollects with
  | taken means more => exact h _ rfl
  | passed unwanted more => exact h _ rfl

end Collects

section Members

variable {name : RecordName} {read : Reader α} {Means : Value → α → Prop} {fuel : Nat}
  {isFirst : Bool} {found last : Option α} {cs rest left : List Char}

theorem readMembers_ended (h : readMemberStart isFirst cs = .ok (.ended rest)) :
    readMembers name read (fuel + 1) isFirst found cs = .ok (found, rest) := by
  simp only [readMembers, h, bind, Except.bind]

theorem readMembers_name {afterQuote afterName afterColon : List Char} {key : String}
    (h : readMemberStart isFirst cs = .ok (.name afterQuote))
    (hkey : readString afterQuote = .ok (key, afterName))
    (hcolon : skipColon afterName = .ok afterColon) :
    readMembers name read (fuel + 1) isFirst found cs =
      if key = name.member then
        if found.isSome then .error (.here (.repeatedMember key) (skipObjectEnd afterName))
        else (read afterColon).bind fun (a, rest) => readMembers name read fuel false (some a) rest
      else (skipValue afterColon).bind (readMembers name read fuel false found) := by
  simp only [readMembers, h, hkey, hcolon, bind, Except.bind]

theorem readMembers_noText {afterQuote : List Char} {fault : Fault}
    (h : readMemberStart isFirst cs = .ok (.name afterQuote))
    (hkey : readString afterQuote = .error fault) :
    readMembers name read (fuel + 1) isFirst found cs = .error fault := by
  simp only [readMembers, h, hkey, bind, Except.bind]

/-- Members that are read end, or start with a name and a colon. -/
theorem readMembers_inv (h : readMembers name read (fuel + 1) isFirst found cs = .ok (last, rest)) :
    readMemberStart isFirst cs = .ok (.ended rest) ∨
      ∃ afterQuote key afterName afterColon,
        readMemberStart isFirst cs = .ok (.name afterQuote) ∧
        readString afterQuote = .ok (key, afterName) ∧ skipColon afterName = .ok afterColon := by
  cases hstart : readMemberStart isFirst cs with
  | error fault =>
    simp only [readMembers, hstart, bind, Except.bind] at h
    cases h
  | ok memberStart =>
    cases memberStart with
    | ended left =>
      rw [readMembers_ended hstart] at h
      obtain ⟨-, rfl⟩ := Prod.mk.inj (Except.ok.inj h)
      exact .inl rfl
    | name afterQuote =>
      cases hkey : readString afterQuote with
      | error fault =>
        rw [readMembers_noText hstart hkey] at h
        cases h
      | ok found' =>
        obtain ⟨key, afterName⟩ := found'
        cases hcolon : skipColon afterName with
        | ok afterColon => exact .inr ⟨afterQuote, key, afterName, afterColon, rfl, hkey, hcolon⟩
        | error fault =>
          simp only [readMembers, hstart, hkey, hcolon, bind, Except.bind] at h
          split at h
          · split at h <;> cases h
          · cases h

/-- **What is read as members is members.** -/
theorem Decodes.readMembers_sound (h : Decodes read Means)
    (hread : readMembers name read fuel isFirst found cs = .ok (last, rest)) :
    ∃ members, Written (membersPart isFirst members) cs rest := by
  induction fuel generalizing isFirst found cs with
  | zero => cases hread
  | succ fuel ih =>
    obtain hended | ⟨afterQuote, key, afterName, afterColon, hstart, hkey, hcolon⟩ :=
      readMembers_inv hread
    · exact ⟨[], written_members_nil.2 (readMemberStart_ended_iff.1 hended)⟩
    · rw [readMembers_name hstart hkey hcolon] at hread
      obtain ⟨units, spelled⟩ := spelled_of_readString hkey
      -- Wanted or not, a value is read and the other members follow it.
      obtain ⟨v, start, afterValue, members, blanks, value, more⟩ : ∃ v start afterValue members,
          Spaced afterColon start ∧ Written (.value v) start afterValue ∧
          Written (membersPart false members) afterValue rest := by
        split at hread
        · split at hread
          · cases hread
          · obtain ⟨⟨a, afterValue⟩, hvalue, hmore⟩ := bind_eq_ok_iff.1 hread
            obtain ⟨v, start, blanks, value⟩ := h.sound hvalue
            obtain ⟨members, more⟩ := ih hmore
            exact ⟨v, start, afterValue, members, blanks, value, more⟩
        · obtain ⟨afterValue, hvalue, hmore⟩ := bind_eq_ok_iff.1 hread
          obtain ⟨v, start, blanks, value⟩ := written_of_skipValue hvalue
          obtain ⟨members, more⟩ := ih hmore
          exact ⟨v, start, afterValue, members, blanks, value, more⟩
      exact ⟨(units, v) :: members, written_members_cons.2 ⟨afterQuote, afterValue,
        readMemberStart_name_iff.1 hstart,
        .written spelled (skipColon_eq_ok_iff.1 hcolon) blanks value, more⟩⟩

/-- What follows a member may come behind its value. -/
theorem follows_of_members {members : List (Units × Value)}
    (h : Written (membersPart false members) cs rest) : Follows cs :=
  @Written.follows .object cs rest _ h

/-- **Members are read as what they give for the wanted one.** -/
theorem Decodes.readMembers_exact (h : Decodes read Means) {members : List (Units × Value)}
    (hmembers : Written (membersPart isFirst members) cs rest) (hfuel : members.length < fuel) :
    readMembers name read fuel isFirst found cs = .ok (last, left) ↔
      Collects name.member Means found members last ∧ left = rest := by
  induction members generalizing fuel isFirst found cs with
  | nil =>
    obtain ⟨fuel, rfl⟩ := Nat.exists_eq_succ_of_ne_zero (Nat.ne_of_gt hfuel)
    rw [readMembers_ended (readMemberStart_ended_iff.2 (written_members_nil.1 hmembers))]
    constructor
    · intro heq
      obtain ⟨rfl, rfl⟩ := Prod.mk.inj (Except.ok.inj heq)
      exact ⟨.done, rfl⟩
    · rintro ⟨⟨⟩, rfl⟩
      rfl
  | cons m members ih =>
    obtain ⟨units, v⟩ := m
    obtain ⟨fuel, rfl⟩ := Nat.exists_eq_succ_of_ne_zero (Nat.ne_of_gt (Nat.zero_lt_of_lt hfuel))
    have hless : members.length < fuel := Nat.lt_of_succ_lt_succ hfuel
    obtain ⟨afterQuote, afterValue, hname, ⟨spelled, colon, blanks, value⟩, more⟩ :=
      written_members_cons.1 hmembers
    have hstart := readMemberStart_name_iff.2 hname
    have hcolon := skipColon_eq_ok_iff.2 colon
    have hrest := follows_of_members more
    cases spelled.read with
    | refused noText refusal =>
      obtain ⟨fault, hfault⟩ := refusal []
      rw [readMembers_noText hstart hfault]
      exact iff_of_false nofun fun hcollects => not_collects_of_noText noText hcollects.1
    | @text t units_eq read' =>
      have hkey : readString afterQuote = .ok (String.ofList t, _) := read' []
      obtain rfl : units = unitsOf (String.ofList t).toList := by
        rw [String.toList_ofList]
        exact units_eq
      rw [readMembers_name hstart hkey hcolon]
      by_cases hwanted : String.ofList t = name.member
      · rw [if_pos hwanted, hwanted]
        cases found with
        | some a => exact iff_of_false nofun fun hcollects => not_collects_again hcollects.1
        | none =>
          have hexact := h.exact blanks value hrest
          rw [collects_wanted_iff, if_neg (by simp), bind_eq_ok_iff]
          constructor
          · rintro ⟨⟨a, afterValue⟩, hvalue, hmore⟩
            obtain ⟨means, rfl⟩ := (hexact a afterValue).1 hvalue
            obtain ⟨collects, rfl⟩ := (ih more hless).1 hmore
            exact ⟨⟨a, means, collects⟩, rfl⟩
          · rintro ⟨⟨a, means, collects⟩, rfl⟩
            exact ⟨(a, afterValue), (hexact a afterValue).2 ⟨means, rfl⟩,
              (ih more hless).2 ⟨collects, rfl⟩⟩
      · rw [if_neg hwanted, skipValue_written blanks value hrest, collects_unwanted_iff hwanted]
        exact ih more hless

end Members

end ManifestPublish.Json
