import ManifestPublish.Proofs.Url.Percent
import ManifestPublish.Url.Parser

/-!
# The segments of a path

* `Url.isStep` : the segments that stay or go up
* `Url.advance` : the path after a segment that is not the last

What the last segments of a path come to depends on those before them only through where these
lead (`Url.walkSegments_append`).  Beyond where a walk starts, a path holds segments that were
walked along and are no steps, or the empty one in which a last step ends
(`Url.mem_drop_walkSegments`).
-/

set_option autoImplicit false

namespace ManifestPublish.Url

/-! ## Cutting -/

/-- What is cut out of a text is a part of it in which nothing separates. -/
theorem sublist_of_mem_splitOnP {separates : Char → Bool} {cs piece : List Char}
    (h : piece ∈ cs.splitOnP separates) :
    piece.Sublist cs ∧ ∀ c ∈ piece, separates c = false := by
  induction cs generalizing piece with
  | nil =>
    rw [List.splitOnP_nil, List.mem_singleton] at h
    subst h
    exact ⟨List.Sublist.refl _, by simp⟩
  | cons c cs ih =>
    rw [List.splitOnP_cons_eq_if_modifyHead] at h
    by_cases hc : separates c = true
    · rw [if_pos hc] at h
      rcases List.mem_cons.1 h with rfl | h
      · exact ⟨List.nil_sublist _, by simp⟩
      · obtain ⟨hsub, hall⟩ := ih h
        exact ⟨hsub.cons c, hall⟩
    · obtain ⟨first, more, hcut⟩ := List.exists_cons_of_ne_nil (List.splitOnP_ne_nil separates cs)
      rw [if_neg hc, hcut, List.modifyHead_cons] at h
      rw [hcut] at ih
      rcases List.mem_cons.1 h with rfl | h
      · obtain ⟨hsub, hall⟩ := ih List.mem_cons_self
        refine ⟨hsub.cons_cons c, ?_⟩
        intro d hd
        rcases List.mem_cons.1 hd with rfl | hd
        · exact Bool.eq_false_iff.2 hc
        · exact hall d hd
      · obtain ⟨hsub, hall⟩ := ih (List.mem_cons_of_mem first h)
        exact ⟨hsub.cons c, hall⟩

/-! ## Walking -/

/-- The segments that stay or go up. -/
def isStep (segment : List Char) : Bool := isDoubleDot segment || isSingleDot segment

/-- A dot at the front, plain or escaped, stands for a dot. -/
theorem decode_of_dropDot? {segment rest : List Char} (h : dropDot? segment = some rest) :
    Percent.decode (segment.flatMap String.utf8EncodeChar) =
      0x2E :: Percent.decode (rest.flatMap String.utf8EncodeChar) := by
  have htwo : Percent.hexValue? 0x32 = some 2 := by decide
  have hsmall : Percent.hexValue? 0x65 = some 14 := by decide
  have hcapital : Percent.hexValue? 0x45 = some 14 := by decide
  unfold dropDot? at h
  split at h
  · cases h
    exact Percent.decode_cons_of_ne (by decide) _
  · cases h
    exact Percent.decode_digits htwo hsmall _
  · cases h
    exact Percent.decode_digits htwo hcapital _
  · cases h

/-- A segment that is a step stands for one dot or two. -/
theorem decode_of_isStep {segment : List Char} (h : isStep segment = true) :
    Percent.decode (segment.flatMap String.utf8EncodeChar) ∈ [[0x2E], [0x2E, 0x2E]] := by
  rw [isStep, Bool.or_eq_true] at h
  rcases h with hdouble | hsingle
  · unfold isDoubleDot at hdouble
    split at hdouble
    · rename_i rest hrest
      have hlast : dropDot? rest = some [] := of_decide_eq_true hdouble
      rw [decode_of_dropDot? hrest, decode_of_dropDot? hlast]
      simp [Percent.decode]
    · cases hdouble
  · have hlast : dropDot? segment = some [] := of_decide_eq_true hsingle
    rw [decode_of_dropDot? hlast]
    simp [Percent.decode]

/-- The path, held last segment first, after a segment that is not the last. -/
def advance (path : List (List Char)) (segment : List Char) : List (List Char) :=
  if isDoubleDot segment then shorten path
  else if isSingleDot segment then path
  else segment :: path

theorem walkSegments_append (path : List (List Char)) (segments : List (List Char))
    {rest : List (List Char)} (hrest : rest ≠ []) :
    walkSegments path (segments ++ rest) = walkSegments (segments.foldl advance path) rest := by
  induction segments generalizing path with
  | nil => rfl
  | cons segment segments ih =>
    have hmore : segments ++ rest ≠ [] := List.append_ne_nil_of_right_ne_nil _ hrest
    rw [List.cons_append, walkSegments, List.foldl_cons, ← ih]
    simp only [hmore, if_false]
    rfl

theorem walkSegments_of_forall {path segments : List (List Char)}
    (h : ∀ s ∈ segments, isStep s = false) :
    walkSegments path segments = path.reverse ++ segments := by
  induction segments generalizing path with
  | nil => rw [walkSegments, List.append_nil]
  | cons segment segments ih =>
    have hstep := h segment List.mem_cons_self
    rw [isStep, Bool.or_eq_false_iff] at hstep
    rw [walkSegments, hstep.1, hstep.2]
    simp only [Bool.false_eq_true, if_false]
    rw [ih fun s hs => h s (List.mem_cons_of_mem segment hs), List.reverse_cons, List.append_assoc]
    rfl

theorem mem_drop_shorten {k : Nat} {path : List (List Char)} {s : List Char}
    (h : s ∈ (shorten path).reverse.drop k) : s ∈ path.reverse.drop k := by
  cases path with
  | nil => exact h
  | cons segment path =>
    rw [shorten] at h
    split at h
    · exact h
    · rw [List.reverse_cons, List.drop_append]
      exact List.mem_append_left _ h

theorem mem_drop_cons {k : Nat} {path : List (List Char)} {s segment : List Char}
    (h : s ∈ (segment :: path).reverse.drop k) : s ∈ path.reverse.drop k ∨ s = segment := by
  rw [List.reverse_cons, List.drop_append] at h
  rcases List.mem_append.1 h with h | h
  · exact .inl h
  · exact .inr (List.mem_singleton.1 (List.mem_of_mem_drop h))

/-- **Beyond its first segments a path holds what was walked along**, unless it held it before. -/
theorem mem_drop_walkSegments {k : Nat} {path segments : List (List Char)} {s : List Char}
    (h : s ∈ (walkSegments path segments).drop k) :
    s ∈ path.reverse.drop k ∨ s = [] ∨ s ∈ segments ∧ isStep s = false := by
  induction segments generalizing path with
  | nil => exact .inl h
  | cons segment rest ih =>
    rw [walkSegments] at h
    rcases ih h with hpath | hempty | ⟨hrest, hstep⟩
    · by_cases hdouble : isDoubleDot segment = true
      · simp only [hdouble, if_true] at hpath
        by_cases hlast : rest = []
        · rw [if_pos hlast] at hpath
          rcases mem_drop_cons hpath with hpath | hempty
          · exact .inl (mem_drop_shorten hpath)
          · exact .inr (.inl hempty)
        · rw [if_neg hlast] at hpath
          exact .inl (mem_drop_shorten hpath)
      · by_cases hsingle : isSingleDot segment = true
        · simp only [hdouble, hsingle, if_true] at hpath
          by_cases hlast : rest = []
          · simp only [hlast, if_true] at hpath
            rcases mem_drop_cons hpath with hpath | hempty
            · exact .inl hpath
            · exact .inr (.inl hempty)
          · simp only [hlast, if_false] at hpath
            exact .inl hpath
        · simp only [hdouble, hsingle] at hpath
          rcases mem_drop_cons hpath with hpath | rfl
          · exact .inl hpath
          · refine .inr (.inr ⟨List.mem_cons_self, ?_⟩)
            rw [isStep, Bool.or_eq_false_iff]
            exact ⟨Bool.eq_false_iff.2 hdouble, Bool.eq_false_iff.2 hsingle⟩
    · exact .inr (.inl hempty)
    · exact .inr (.inr ⟨List.mem_cons_of_mem segment hrest, hstep⟩)

end ManifestPublish.Url
