import ManifestPublish.Proofs.File.Beside
import ManifestPublish.Proofs.File.Walk

/-!
# Trees that stand on the ground

Every change of a tree keeps every directory in a directory: a new directory is made where a walk
along names has come to nothing, which is in a directory, and what is removed is removed with all
below it.

* `FileTree.Grounded.put_leaf`, `FileTree.Grounded.put_directory` : one new entry

Principal results: `FileTree.Grounded.write`, `FileTree.Grounded.makeDirectory`,
`FileTree.Grounded.makeLink` and `FileTree.Grounded.remove`.
-/

set_option autoImplicit false

namespace ManifestPublish.FileTree

theorem grounded_empty (workingDirectory : Place) : Grounded ⟨[], workingDirectory⟩ := by
  intro name above h
  simp [isDirectory, entryAt?] at h

section Put

variable {tree : FileTree} {place other : Place} {entry : Entry}

theorem isDirectory_put_of_ne (h : other ≠ place) :
    (tree.put place entry).isDirectory other = tree.isDirectory other := by
  rw [isDirectory, isDirectory, entryAt?_put_of_ne h]

theorem entryAt?_ne_none (h : tree.isDirectory place = true) : tree.entryAt? place ≠ none := by
  intro hnone
  rw [isDirectory, hnone] at h
  cases h

theorem Grounded.put_leaf (h : tree.Grounded) (hplace : tree.isDirectory place = false)
    (hentry : entry ≠ .directory) : (tree.put place entry).Grounded := by
  have hne : place ≠ [] := by
    rintro rfl
    cases hplace
  have hsame : ∀ other, (tree.put place entry).isDirectory other = tree.isDirectory other := by
    intro other
    by_cases hother : other = place
    · subst hother
      rw [hplace]
      exact decide_eq_false (by rw [entryAt?_put_self hne]; simpa using hentry)
    · exact isDirectory_put_of_ne hother
  intro name above
  rw [hsame, hsame]
  exact h name above

theorem Grounded.put_directory (h : tree.Grounded) (hparent : tree.isDirectory place.tail = true) :
    (tree.put place .directory).Grounded := by
  have hkeeps : ∀ other, tree.isDirectory other = true →
      (tree.put place .directory).isDirectory other = true := by
    intro other hother
    by_cases hsame : other = place
    · subst hsame
      cases other with
      | nil => rfl
      | cons name above =>
        exact decide_eq_true (entryAt?_put_self (List.cons_ne_nil name above))
    · rwa [isDirectory_put_of_ne hsame]
  intro name above hdirectory
  by_cases hsame : name :: above = place
  · subst hsame
    exact hkeeps above hparent
  · rw [isDirectory_put_of_ne hsame] at hdirectory
    exact hkeeps above (h name above hdirectory)

end Put

/-! ## Where a new entry is put -/

/-- Where a walk stands, there is an entry; where it comes to nothing, it is in a directory. -/
def Stands (tree : FileTree) : Descent → Prop
  | .arrived found => tree.entryAt? found ≠ none
  | .absent missing _ => tree.isDirectory missing.tail = true
  | .blocked => True
  | .atLink directory _ _ => tree.isDirectory directory = true

section Landing

variable {tree : FileTree} {links : Nat} {place found : Place} {steps : List Bytes}

theorem stands_descend (grounded : tree.Grounded) (h : steps ≠ [] ∨ tree.entryAt? place ≠ none) :
    tree.Stands (tree.descend place steps) := by
  induction steps generalizing place with
  | nil => exact h.resolve_left fun hnil => hnil rfl
  | cons name rest ih =>
    rw [descend]
    split
    · trivial
    rename_i hinside
    have hdirectory : tree.isDirectory place = true := by simpa using hinside
    split
    · exact ih (.inr (entryAt?_ne_none hdirectory))
    split
    · exact ih (.inr (entryAt?_ne_none (grounded.tail hdirectory)))
    split
    · trivial
    cases hentry : tree.entryAt? (name :: place) with
    | none => exact hdirectory
    | some entry =>
      have hthere : tree.entryAt? (name :: place) ≠ none := by simp [hentry]
      cases entry with
      | link target => exact hdirectory
      | _ => exact ih (.inr hthere)

/-- **Where a walk through links stands, there is an entry; where it comes to nothing, it is in a
directory.** -/
theorem stands_walk (grounded : tree.Grounded) (h : steps ≠ [] ∨ tree.entryAt? place ≠ none) :
    tree.Stands (tree.walk links place steps) := by
  induction links generalizing place steps with
  | zero =>
    cases hdescend : tree.descend place steps with
    | atLink directory target rest =>
      rw [walk_zero_of_link hdescend]
      trivial
    | arrived | absent | blocked =>
      rw [walk_of_no_link (by simp [hdescend])]
      exact stands_descend grounded h
  | succ links ih =>
    cases hdescend : tree.descend place steps with
    | atLink directory target rest =>
      have hdirectory : tree.isDirectory directory = true := by
        have hstands := stands_descend grounded h
        rwa [hdescend] at hstands
      rw [walk_succ_of_link hdescend]
      split
      · -- The path of a link is walked from a directory.
        refine ih (.inr ?_)
        split
        · exact Option.some_ne_none _
        · exact entryAt?_ne_none hdirectory
      · trivial
    | arrived | absent | blocked =>
      rw [walk_of_no_link (by simp [hdescend])]
      exact stands_descend grounded h

/-- A new entry is put in a directory. -/
theorem isDirectory_landing (grounded : tree.Grounded) (hsteps : steps ≠ [])
    (h : tree.landing? links place steps = some found) (hnew : tree.entryAt? found = none) :
    tree.isDirectory found.tail = true := by
  have hstands : tree.Stands (tree.walk links place steps) := stands_walk grounded (.inl hsteps)
  unfold landing? at h
  split at h
  · rename_i other harrived
    rw [harrived] at hstands
    cases h
    exact absurd hnew hstands
  · rename_i missing habsent
    rw [habsent] at hstands
    cases h
    exact hstands
  · cases h

end Landing

/-! ## Changes -/

section Changes

variable {tree : FileTree} {place : Place} {path target : Bytes} {file : Entry}

theorem Grounded.makeDirectories (h : tree.Grounded) (done steps : List Bytes) :
    (tree.makeDirectories place done steps).Grounded := by
  induction steps generalizing tree done with
  | nil => exact h
  | cons name rest ih =>
    unfold FileTree.makeDirectories
    simp only
    split
    · rename_i found hlanding
      apply ih
      split
      · rename_i hnew
        have hsteps : done ++ [name] ≠ [] := List.concat_ne_nil name done
        exact h.put_directory
          (isDirectory_landing h hsteps hlanding (Option.isNone_iff_eq_none.1 hnew))
      · exact h
    · exact h

/-- **Making a directory keeps every directory in a directory.** -/
theorem Grounded.makeDirectory (h : tree.Grounded) (path : Bytes) :
    (tree.makeDirectory path).Grounded :=
  h.makeDirectories [] _

theorem Grounded.makeParents (h : tree.Grounded) (path : Bytes) :
    (tree.makeParents path).Grounded :=
  h.makeDirectories [] _

/-- **Writing a file keeps every directory in a directory.** -/
theorem Grounded.write (h : tree.Grounded) (path : Bytes) (hfile : file ≠ .directory) :
    (tree.write path file).Grounded := by
  have hparents := h.makeParents path
  unfold FileTree.write
  simp only
  split
  · exact hparents
  split
  · rename_i hentry
    exact hparents.put_leaf (by rw [isDirectory, hentry]; rfl) hfile
  · rename_i hentry
    exact hparents.put_leaf (by rw [isDirectory, hentry]; rfl) hfile
  · exact hparents

/-- **Making a link keeps every directory in a directory.** -/
theorem Grounded.makeLink (h : tree.Grounded) (path target : Bytes) :
    (tree.makeLink path target).Grounded := by
  have hparents := h.makeParents path
  unfold FileTree.makeLink
  simp only
  split
  · exact hparents
  split
  · rename_i hnew
    have hentry := Option.isNone_iff_eq_none.1 hnew
    exact hparents.put_leaf (by rw [isDirectory, hentry]; rfl) Entry.noConfusion
  · exact hparents

/-- The tree without what stands at a place or below it. -/
def without (tree : FileTree) (place : Place) : FileTree :=
  { tree with entries := tree.entries.filter fun e => !place.isSuffixOf e.1 }

theorem entryAt?_without (tree : FileTree) (place : Place) (name : Bytes) (above : Place) :
    (tree.without place).entryAt? (name :: above) =
      if place.isSuffixOf (name :: above) then none else tree.entryAt? (name :: above) := by
  rw [entryAt?_of_ne_nil (List.cons_ne_nil _ _), entryAt?_of_ne_nil (List.cons_ne_nil _ _), without,
    List.find?_filter]
  split
  · rename_i hsuffix
    rw [Option.map_eq_none_iff, List.find?_eq_none]
    intro e _
    by_cases he : e.1 = name :: above
    · simp [he, hsuffix]
    · simp [he]
  · rename_i hsuffix
    congr 2
    funext e
    by_cases he : e.1 = name :: above
    · simp [he, hsuffix]
    · simp [he]

/-- **Removing keeps every directory in a directory.** -/
theorem Grounded.remove (h : tree.Grounded) (path : Bytes) : (tree.remove path).Grounded := by
  unfold FileTree.remove
  split
  · exact h
  · rename_i place _
    change (tree.without place).Grounded
    intro name above hdirectory
    rw [isDirectory, entryAt?_without] at hdirectory
    split at hdirectory
    · cases hdirectory
    · rename_i hsuffix
      have habove := h name above hdirectory
      cases above with
      | nil => rfl
      | cons other more =>
        -- What is left is not below the place, and so neither is what is above it.
        have hkept : ¬ place.isSuffixOf (other :: more) = true := by
          rw [List.isSuffixOf_iff_suffix] at hsuffix ⊢
          intro hbelow
          exact hsuffix (hbelow.trans (List.suffix_cons name _))
        rw [isDirectory, entryAt?_without, if_neg hkept]
        exact habove

end Changes

end ManifestPublish.FileTree
