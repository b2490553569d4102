import ManifestPublish.File.Edit
import ManifestPublish.File.LocalFile

/-!
# One more file in a tree

A file put where nothing stood changes nothing for the paths that do not lead to it: a walk that
would have missed it ends either way.

* `FileTree.Vacant` : nothing stands at a place
* `FileTree.Meets` : what a walk makes of a new file

Principal results: `FileTree.lookup?_put`, and from it `FileTree.read_put` and
`FileTree.isFile_put`.
-/

set_option autoImplicit false

namespace ManifestPublish.FileTree

def Vacant (tree : FileTree) (place : Place) : Prop := tree.entryAt? place = none

section Entries

variable {tree : FileTree} {place other : Place} {entry : Entry}

theorem Vacant.ne_nil (h : tree.Vacant place) : place ≠ [] := by
  rintro rfl
  cases h

theorem entryAt?_of_ne_nil (h : place ≠ []) :
    tree.entryAt? place = (tree.entries.find? (·.1 = place)).map (·.2) := by
  cases place with
  | nil => exact (h rfl).elim
  | cons name above => rfl

theorem entryAt?_put_self (h : place ≠ []) :
    (tree.put place entry).entryAt? place = some entry := by
  rw [entryAt?_of_ne_nil h, put, List.find?_cons_of_pos (by simp)]
  rfl

theorem entryAt?_put_of_ne (h : other ≠ place) :
    (tree.put place entry).entryAt? other = tree.entryAt? other := by
  cases other with
  | nil => rfl
  | cons name above =>
    rw [entryAt?_of_ne_nil (List.cons_ne_nil _ _), entryAt?_of_ne_nil (List.cons_ne_nil _ _), put,
      List.find?_cons_of_neg (by simpa using Ne.symm h), List.find?_filter]
    congr 2
    funext e
    by_cases he : e.1 = name :: above
    · simp [he, h]
    · simp [he]

end Entries

section Walks

variable {tree : FileTree} {place : Place} {contents : Bytes}

/-- A file in a vacant place makes no directory and unmakes none. -/
theorem isDirectory_put (h : tree.Vacant place) (other : Place) :
    (tree.put place (.file contents)).isDirectory other = tree.isDirectory other := by
  by_cases hother : other = place
  · subst hother
    rw [isDirectory, isDirectory, entryAt?_put_self h.ne_nil, h]
    rfl
  · rw [isDirectory, isDirectory, entryAt?_put_of_ne hother]

/-- What a walk makes of a new file: it goes on as before, ends at the file, or is blocked by it
where nothing was before. -/
inductive Meets (place : Place) (after before : Descent) : Prop where
  | same (h : after = before)
  | there (h : after = .arrived place)
  | blocked (h : after = .blocked) {missing : Place} {rest : List Bytes}
      (absent : before = .absent missing rest)

theorem descend_file {tree : FileTree} (h : tree.isDirectory place = false) (steps : List Bytes) :
    tree.descend place steps = .arrived place ∨ tree.descend place steps = .blocked := by
  cases steps with
  | nil => exact .inl rfl
  | cons name rest => exact .inr (by rw [descend, if_pos h])

/-- **One walk, up to the first link.** -/
theorem descend_put (contents : Bytes) (h : tree.Vacant place) (start : Place)
    (steps : List Bytes) :
    Meets place ((tree.put place (.file contents)).descend start steps)
      (tree.descend start steps) := by
  induction steps generalizing start with
  | nil => exact .same rfl
  | cons name rest ih =>
    rw [descend, descend, isDirectory_put h]
    split
    · exact .same rfl
    split
    · exact ih start
    split
    · exact ih start.tail
    split
    · exact .same rfl
    by_cases hplace : name :: start = place
    · rw [hplace, entryAt?_put_self h.ne_nil, h]
      have hfile : (tree.put place (.file contents)).isDirectory place = false := by
        rw [isDirectory_put h, isDirectory, h]
        rfl
      obtain harrived | hblocked := descend_file hfile rest
      · exact .there harrived
      · exact .blocked hblocked rfl
    · rw [entryAt?_put_of_ne hplace]
      split
      · exact .same rfl
      · exact .same rfl
      · exact ih (name :: start)

/-- **A walk through links that does not end at a new file ends where it ended before.** -/
theorem follow_put (h : tree.Vacant place) (links : Nat) (start : Place) (steps : List Bytes)
    (hother : (tree.put place (.file contents)).follow links start steps ≠ some place) :
    (tree.put place (.file contents)).follow links start steps = tree.follow links start steps := by
  induction links generalizing start steps with
  | zero =>
    unfold follow walk at hother ⊢
    cases descend_put contents h start steps with
    | same heq => rw [heq]
    | there heq =>
      rw [heq] at hother
      exact (hother rfl).elim
    | blocked heq absent =>
      rw [heq, absent]
      rfl
  | succ links ih =>
    unfold follow walk at hother ⊢
    cases descend_put contents h start steps with
    | same heq =>
      rw [heq] at hother ⊢
      cases hdescend : tree.descend start steps with
      | arrived found => rfl
      | absent missing rest => rfl
      | blocked => rfl
      | atLink directory target rest =>
        simp only [hdescend] at hother ⊢
        split
        · rename_i hadmissible
          rw [if_pos hadmissible] at hother
          exact ih _ _ hother
        · rfl
    | there heq =>
      rw [heq] at hother
      exact (hother rfl).elim
    | blocked heq absent =>
      rw [heq, absent]
      rfl

end Walks

/-! ## Paths -/

section Paths

variable {tree : FileTree} {place : Place} {contents path : Bytes}

/-- **A path that does not lead to a new file leads where it led before.** -/
theorem lookup?_put (h : tree.Vacant place)
    (hother : (tree.put place (.file contents)).resolve? path ≠ some place) :
    (tree.put place (.file contents)).lookup? path = tree.lookup? path := by
  have hresolve : (tree.put place (.file contents)).resolve? path = tree.resolve? path := by
    unfold resolve? at hother ⊢
    split
    · rename_i hadmissible
      rw [if_pos hadmissible] at hother
      exact follow_put h _ _ _ hother
    · rfl
  rw [lookup?, lookup?, hresolve]
  rw [hresolve] at hother
  cases hfound : tree.resolve? path with
  | none => rfl
  | some found =>
    rw [hfound] at hother
    exact entryAt?_put_of_ne fun heq => hother (congrArg some heq)

theorem read_put (h : tree.Vacant place)
    (hother : (tree.put place (.file contents)).resolve? path ≠ some place) :
    (tree.put place (.file contents)).read path = tree.read path := by
  rw [read, read, lookup?_put h hother]

theorem isFile_put (h : tree.Vacant place)
    (hother : (tree.put place (.file contents)).resolve? path ≠ some place) :
    (tree.put place (.file contents)).isFile path = tree.isFile path := by
  rw [isFile, isFile, lookup?_put h hother]

theorem walk_put_self (contents : Bytes) {directory : Place} {name : Bytes}
    (hdirectory : tree.isDirectory directory) (h : tree.Vacant (name :: directory))
    (hdot : name ≠ Path.dot) (hdots : name ≠ Path.dotDot)
    (hlength : name.length ≤ Path.maxNameLength) (links : Nat) :
    (tree.put (name :: directory) (.file contents)).walk links directory [name] =
      .arrived (name :: directory) := by
  have hdescend : (tree.put (name :: directory) (.file contents)).descend directory [name] =
      .arrived (name :: directory) := by
    rw [descend, isDirectory_put h, hdirectory, if_neg (by simp), if_neg hdot, if_neg hdots,
      if_neg (Nat.not_lt.2 hlength), entryAt?_put_self h.ne_nil]
    rfl
  unfold walk
  rw [hdescend]

end Paths

end ManifestPublish.FileTree
