import ManifestPublish.Text.Blank

/-!
# What is left of a text without the blanks around it

* `Blank.TrimsTo` : a text is another one with blanks around it, and that one has none at its ends

Principal result: `Blank.trimsTo_iff`, by which `Blank.trim` is the one text of which this holds.
-/

set_option autoImplicit false

namespace ManifestPublish.Blank

/-- A text is another one with blanks around it, and that one has none at its ends. -/
structure TrimsTo (text inner : String) : Prop where
  surrounded : ∃ before after : List Char, before.all isBlank ∧ after.all isBlank ∧
    text.toList = before ++ inner.toList ++ after
  head : ∀ c, inner.toList.head? = some c → isBlank c = false
  last : ∀ c, inner.toList.getLast? = some c → isBlank c = false

theorem dropWhile_of_head {cs : List Char} (h : ∀ c, cs.head? = some c → isBlank c = false) :
    cs.dropWhile isBlank = cs := by
  cases cs with
  | nil => rfl
  | cons c cs =>
    rw [List.dropWhile_cons_of_neg]
    simp [h c rfl]

theorem dropWhile_blank_append {before cs : List Char} (hbefore : before.all isBlank) :
    (before ++ cs).dropWhile isBlank = cs.dropWhile isBlank :=
  List.dropWhile_append_of_pos (List.all_eq_true.1 hbefore)

theorem trimChars_of_all {cs : List Char} (h : cs.all isBlank) : trimChars cs = [] := by
  have hstart : cs.dropWhile isBlank = [] := by
    rw [← List.append_nil cs, dropWhile_blank_append h]
    rfl
  rw [trimChars, trimStartChars, hstart]
  rfl

theorem trimChars_surrounded {before inner after : List Char} (hbefore : before.all isBlank)
    (hafter : after.all isBlank) (hhead : ∀ c, inner.head? = some c → isBlank c = false)
    (hlast : ∀ c, inner.getLast? = some c → isBlank c = false) :
    trimChars (before ++ inner ++ after) = inner := by
  cases inner with
  | nil =>
    apply trimChars_of_all
    simp only [List.all_append, hbefore, hafter, List.all_nil, Bool.and_self]
  | cons c cs =>
    have hstart : (before ++ (c :: cs) ++ after).dropWhile isBlank = (c :: cs) ++ after := by
      rw [List.append_assoc, dropWhile_blank_append hbefore]
      exact dropWhile_of_head fun d hd => hhead d hd
    have hend : ((c :: cs) ++ after).reverse.dropWhile isBlank = (c :: cs).reverse := by
      rw [List.reverse_append, dropWhile_blank_append (by rwa [List.all_reverse])]
      exact dropWhile_of_head fun d hd => hlast d (by rwa [List.head?_reverse] at hd)
    rw [trimChars, trimStartChars, hstart, trimEndChars, hend, List.reverse_reverse]

theorem trimChars_eq_self {cs : List Char} (hhead : ∀ c, cs.head? = some c → isBlank c = false)
    (hlast : ∀ c, cs.getLast? = some c → isBlank c = false) : trimChars cs = cs := by
  have h := @trimChars_surrounded [] cs [] rfl rfl hhead hlast
  rwa [List.nil_append, List.append_nil] at h

theorem trimsTo_trim (text : String) : TrimsTo text (trim text) := by
  have hhead : ∀ cs : List Char, ∀ c, (cs.dropWhile isBlank).head? = some c →
      isBlank c = false := by
    intro cs c hc
    have hnot := List.head?_dropWhile_not isBlank cs
    rw [hc] at hnot
    simpa using hnot
  obtain ⟨start, hstart⟩ : ∃ start, text.toList.dropWhile isBlank = start := ⟨_, rfl⟩
  have htrim : (trim text).toList = (start.reverse.dropWhile isBlank).reverse := by
    rw [trim, String.toList_ofList, trimChars, trimEndChars, trimStartChars, hstart]
  -- What is cut off at the end of the text is blank, and so is what is cut off at its front.
  have hcut : (start.reverse.dropWhile isBlank).reverse ++
      (start.reverse.takeWhile isBlank).reverse = start := by
    rw [← List.reverse_append, List.takeWhile_append_dropWhile, List.reverse_reverse]
  refine ⟨⟨text.toList.takeWhile isBlank, (start.reverse.takeWhile isBlank).reverse, ?_, ?_, ?_⟩,
    ?_, ?_⟩
  · exact List.all_takeWhile
  · rw [List.all_reverse]
    exact List.all_takeWhile
  · rw [htrim, List.append_assoc, hcut, ← hstart, List.takeWhile_append_dropWhile]
  · intro c hc
    rw [htrim] at hc
    -- The first character that is left is the first one after the blanks at the front.
    refine hhead text.toList c ?_
    rw [hstart, ← hcut]
    rw [List.head?_append, hc]
    rfl
  · intro c hc
    rw [htrim, List.getLast?_reverse] at hc
    exact hhead _ c hc

/-- **The trimmed form of a text is the one that has no blanks at its ends.** -/
theorem trimsTo_iff {text inner : String} : TrimsTo text inner ↔ inner = trim text := by
  constructor
  · rintro ⟨⟨before, after, hbefore, hafter, htext⟩, hhead, hlast⟩
    rw [trim, htext, trimChars_surrounded hbefore hafter hhead hlast, String.ofList_toList]
  · rintro rfl
    exact trimsTo_trim text

end ManifestPublish.Blank
