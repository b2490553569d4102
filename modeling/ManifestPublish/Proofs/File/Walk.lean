import ManifestPublish.File.Resolve

/-!
# Walks along paths

* `Path.IsName` : a step that is looked up in a directory
* `FileTree.Passes` : the states that a walk passes, and how many links it goes through between them
* `FileTree.Walks` : a walk ends at a place
* `FileTree.LeadsTo` : a path leads to a place, through links no more than are allowed
* `FileTree.Grounded` : every directory stands in a directory

A walk passes one state after the other (`FileTree.Passes.rest`), so a walk that comes back to where
it was, as on a cycle of links, ends nowhere (`FileTree.not_walks_of_cycle`).

Principal results: `FileTree.resolve?_eq_some_iff` (what is looked up is what a path leads to) and
`FileTree.Walks.isDirectory` (a walk ends at a directory unless its last step is a name).
-/

set_option autoImplicit false

namespace ManifestPublish

/-- A step that is looked up in a directory. -/
structure Path.IsName (name : Bytes) : Prop where
  ne_dot : name ≠ Path.dot
  ne_dotDot : name ≠ Path.dotDot
  length_le : name.length ≤ Path.maxNameLength

namespace FileTree

/-- Where a walk along a path starts that is given in a directory. -/
def origin (directory : Place) (path : Bytes) : Place :=
  if Path.isAbsolute path then [] else directory

/-- A walk along steps from a place comes to the place `found` with the steps `left`, through some
number of links. -/
inductive Passes (tree : FileTree) (found : Place) (left : List Bytes) :
    Nat → Place → List Bytes → Prop where
  | here : Passes tree found left 0 found left
  | stay {links : Nat} {place : Place} {rest : List Bytes} (inside : tree.isDirectory place = true)
      (next : Passes tree found left links place rest) :
      Passes tree found left links place (Path.dot :: rest)
  | up {links : Nat} {place : Place} {rest : List Bytes} (inside : tree.isDirectory place = true)
      (next : Passes tree found left links place.tail rest) :
      Passes tree found left links place (Path.dotDot :: rest)
  | enter {links : Nat} {place : Place} {name : Bytes} {rest : List Bytes} {entry : Entry}
      (inside : tree.isDirectory place = true) (named : Path.IsName name)
      (there : tree.entryAt? (name :: place) = some entry) (plain : ∀ target, entry ≠ .link target)
      (next : Passes tree found left links (name :: place) rest) :
      Passes tree found left links place (name :: rest)
  /-- A link is replaced by its path, which starts in the directory of the link. -/
  | link {links : Nat} {place : Place} {name target : Bytes} {rest : List Bytes}
      (inside : tree.isDirectory place = true) (named : Path.IsName name)
      (there : tree.entryAt? (name :: place) = some (.link target))
      (admissible : Path.isAdmissible target = true)
      (next : Passes tree found left links (origin place target) (Path.steps target ++ rest)) :
      Passes tree found left (links + 1) place (name :: rest)

/-- A walk along steps from a place ends at the place `found`. -/
def Walks (tree : FileTree) (links : Nat) (place : Place) (steps : List Bytes) (found : Place) :
    Prop :=
  tree.Passes found [] links place steps

/-- A path leads to a place. -/
structure LeadsTo (tree : FileTree) (path : Bytes) (found : Place) : Prop where
  admissible : Path.isAdmissible path = true
  walks : ∃ links ≤ maxLinks,
    tree.Walks links (origin tree.workingDirectory path) (Path.steps path) found

/-! ## One step -/

section Step

variable {tree : FileTree} {links : Nat} {place found : Place} {name target : Bytes}
  {rest : List Bytes} {entry : Entry}

theorem descend_dot (h : tree.isDirectory place = true) :
    tree.descend place (Path.dot :: rest) = tree.descend place rest := by
  rw [descend, if_neg (by simp [h]), if_pos rfl]

theorem descend_dotDot (h : tree.isDirectory place = true) :
    tree.descend place (Path.dotDot :: rest) = tree.descend place.tail rest := by
  have hdot : Path.dotDot ≠ Path.dot := by decide
  rw [descend, if_neg (by simp [h]), if_neg hdot, if_pos rfl]

theorem descend_absent (h : tree.isDirectory place = true) (hname : Path.IsName name)
    (hentry : tree.entryAt? (name :: place) = none) :
    tree.descend place (name :: rest) = .absent (name :: place) rest := by
  rw [descend, if_neg (by simp [h]), if_neg hname.ne_dot, if_neg hname.ne_dotDot,
    if_neg (Nat.not_lt.2 hname.length_le), hentry]

theorem descend_link (h : tree.isDirectory place = true) (hname : Path.IsName name)
    (hentry : tree.entryAt? (name :: place) = some (.link target)) :
    tree.descend place (name :: rest) = .atLink place target rest := by
  rw [descend, if_neg (by simp [h]), if_neg hname.ne_dot, if_neg hname.ne_dotDot,
    if_neg (Nat.not_lt.2 hname.length_le), hentry]

theorem descend_enter (h : tree.isDirectory place = true) (hname : Path.IsName name)
    (hentry : tree.entryAt? (name :: place) = some entry)
    (hplain : ∀ target, entry ≠ .link target) :
    tree.descend place (name :: rest) = tree.descend (name :: place) rest := by
  rw [descend, if_neg (by simp [h]), if_neg hname.ne_dot, if_neg hname.ne_dotDot,
    if_neg (Nat.not_lt.2 hname.length_le), hentry]
  cases entry with
  | link target => exact absurd rfl (hplain target)
  | _ => rfl

theorem follow_nil : tree.follow links place [] = some place := by
  rw [follow, walk_of_no_link fun _ _ _ => Descent.noConfusion]
  rfl

theorem follow_dot (h : tree.isDirectory place = true) :
    tree.follow links place (Path.dot :: rest) = tree.follow links place rest := by
  rw [follow, follow, walk_congr (descend_dot h)]

theorem follow_dotDot (h : tree.isDirectory place = true) :
    tree.follow links place (Path.dotDot :: rest) = tree.follow links place.tail rest := by
  rw [follow, follow, walk_congr (descend_dotDot h)]

theorem follow_enter (h : tree.isDirectory place = true) (hname : Path.IsName name)
    (hentry : tree.entryAt? (name :: place) = some entry)
    (hplain : ∀ target, entry ≠ .link target) :
    tree.follow links place (name :: rest) = tree.follow links (name :: place) rest := by
  rw [follow, follow, walk_congr (descend_enter h hname hentry hplain)]

/-- A walk that is blocked, or comes to nothing, ends nowhere. -/
theorem follow_eq_none {steps : List Bytes} (hplace : (tree.descend place steps).place? = none)
    (hlink : ∀ directory target rest, tree.descend place steps ≠ .atLink directory target rest) :
    tree.follow links place steps = none := by
  rw [follow, walk_of_no_link hlink, hplace]

theorem follow_link_zero (h : tree.isDirectory place = true) (hname : Path.IsName name)
    (hentry : tree.entryAt? (name :: place) = some (.link target)) :
    tree.follow 0 place (name :: rest) = none := by
  rw [follow, walk_zero_of_link (descend_link h hname hentry)]
  rfl

theorem follow_link_succ (h : tree.isDirectory place = true) (hname : Path.IsName name)
    (hentry : tree.entryAt? (name :: place) = some (.link target)) :
    tree.follow (links + 1) place (name :: rest) =
      if Path.isAdmissible target then
        tree.follow links (origin place target) (Path.steps target ++ rest)
      else none := by
  rw [follow, walk_succ_of_link (descend_link h hname hentry)]
  split <;> rfl

/-- What stands under a name, and how a walk that ends goes on from there. -/
theorem follow_name (h : tree.isDirectory place = true) (hname : Path.IsName name)
    (hfollow : tree.follow links place (name :: rest) = some found) :
    (∃ entry, tree.entryAt? (name :: place) = some entry ∧ (∀ target, entry ≠ .link target) ∧
        tree.follow links (name :: place) rest = some found) ∨
      ∃ target more, links = more + 1 ∧ tree.entryAt? (name :: place) = some (.link target) ∧
        Path.isAdmissible target = true ∧
        tree.follow more (origin place target) (Path.steps target ++ rest) = some found := by
  cases hentry : tree.entryAt? (name :: place) with
  | none =>
    have hdescend : tree.descend place (name :: rest) = .absent (name :: place) rest :=
      descend_absent h hname hentry
    rw [follow_eq_none (by rw [hdescend]; rfl) (by simp [hdescend])] at hfollow
    cases hfollow
  | some entry =>
    by_cases hlink : ∃ target, entry = .link target
    · obtain ⟨target, rfl⟩ := hlink
      cases links with
      | zero =>
        rw [follow_link_zero h hname hentry] at hfollow
        cases hfollow
      | succ more =>
        rw [follow_link_succ h hname hentry] at hfollow
        split at hfollow
        · rename_i hadmissible
          exact .inr ⟨target, more, rfl, rfl, hadmissible, hfollow⟩
        · cases hfollow
    · have hplain : ∀ target, entry ≠ .link target := fun target heq => hlink ⟨target, heq⟩
      rw [follow_enter h hname hentry hplain] at hfollow
      exact .inl ⟨entry, rfl, hplain, hfollow⟩

/-- What the first step of a walk that ends can be. -/
theorem follow_cons (h : tree.follow links place (name :: rest) = some found) :
    tree.isDirectory place = true ∧
      (name = Path.dot ∧ tree.follow links place rest = some found ∨
        name = Path.dotDot ∧ tree.follow links place.tail rest = some found ∨
        Path.IsName name) := by
  have hgoes : tree.descend place (name :: rest) ≠ .blocked := by
    intro hblocked
    rw [follow_eq_none (by rw [hblocked]; rfl) (by simp [hblocked])] at h
    cases h
  by_cases hinside : tree.isDirectory place = true
  · refine ⟨hinside, ?_⟩
    by_cases hdot : name = Path.dot
    · subst hdot
      exact .inl ⟨rfl, (follow_dot hinside).symm.trans h⟩
    by_cases hdots : name = Path.dotDot
    · subst hdots
      exact .inr (.inl ⟨rfl, (follow_dotDot hinside).symm.trans h⟩)
    · refine .inr (.inr ⟨hdot, hdots, Nat.le_of_not_lt fun hlong => hgoes ?_⟩)
      rw [descend, if_neg (by simp [hinside]), if_neg hdot, if_neg hdots, if_pos hlong]
  · exact absurd (by rw [descend, if_pos (Bool.eq_false_iff.2 hinside)]) hgoes

end Step

/-! ## Whole walks -/

section Walks

variable {tree : FileTree} {links : Nat} {place found : Place} {steps : List Bytes}

theorem walks_of_follow (h : tree.follow links place steps = some found) :
    ∃ n ≤ links, tree.Walks n place steps found := by
  -- Up to the next link there are fewer and fewer steps, and behind it fewer links are allowed.
  induction links using Nat.strongRecOn generalizing place steps with
  | ind links ihLinks =>
    induction steps generalizing place with
    | nil =>
      rw [follow_nil] at h
      cases h
      exact ⟨0, Nat.zero_le links, .here⟩
    | cons name rest ihSteps =>
      obtain ⟨hinside, ⟨rfl, hnext⟩ | ⟨rfl, hnext⟩ | hname⟩ := follow_cons h
      · obtain ⟨n, hn, hwalks⟩ := ihSteps hnext
        exact ⟨n, hn, .stay hinside hwalks⟩
      · obtain ⟨n, hn, hwalks⟩ := ihSteps hnext
        exact ⟨n, hn, .up hinside hwalks⟩
      obtain ⟨entry, hentry, hplain, hnext⟩ | ⟨target, more, rfl, hentry, hadmissible, hnext⟩ :=
        follow_name hinside hname h
      · obtain ⟨n, hn, hwalks⟩ := ihSteps hnext
        exact ⟨n, hn, .enter hinside hname hentry hplain hwalks⟩
      · obtain ⟨n, hn, hwalks⟩ := ihLinks more (Nat.lt_succ_self more) hnext
        exact ⟨n + 1, Nat.succ_le_succ hn, .link hinside hname hentry hadmissible hwalks⟩

theorem Walks.follow {n : Nat} (h : tree.Walks n place steps found) (hn : n ≤ links) :
    tree.follow links place steps = some found := by
  unfold Walks at h
  induction h generalizing links with
  | here => exact follow_nil
  | stay inside _ ih =>
    rw [follow_dot inside]
    exact ih hn
  | up inside _ ih =>
    rw [follow_dotDot inside]
    exact ih hn
  | enter inside named there plain _ ih =>
    rw [follow_enter inside named there plain]
    exact ih hn
  | link inside named there admissible _ ih =>
    obtain ⟨more, rfl⟩ := Nat.exists_eq_add_of_lt hn
    rw [follow_link_succ inside named there, if_pos admissible]
    exact ih (by omega)

/-- **What is found is where a walk ends that goes through no more links than are allowed.** -/
theorem follow_eq_some_iff :
    tree.follow links place steps = some found ↔ ∃ n ≤ links, tree.Walks n place steps found := by
  constructor
  · exact walks_of_follow
  · rintro ⟨n, hn, hwalks⟩
    exact hwalks.follow hn

/-- **What is looked up is what a path leads to.** -/
theorem resolve?_eq_some_iff {path : Bytes} :
    tree.resolve? path = some found ↔ tree.LeadsTo path found := by
  have hfollow : tree.follow maxLinks (tree.start path) (Path.steps path) = some found ↔
      ∃ n ≤ maxLinks, tree.Walks n (origin tree.workingDirectory path) (Path.steps path) found :=
    follow_eq_some_iff
  rw [resolve?]
  by_cases hadmissible : Path.isAdmissible path = true
  · rw [if_pos hadmissible, hfollow]
    exact ⟨fun h => ⟨hadmissible, h⟩, fun h => h.walks⟩
  · rw [if_neg hadmissible]
    constructor
    · rintro ⟨⟩
    · intro h
      exact absurd h.admissible hadmissible

theorem LeadsTo.unique {path : Bytes} {other : Place} (h : tree.LeadsTo path found)
    (h' : tree.LeadsTo path other) : found = other := by
  rw [← resolve?_eq_some_iff] at h h'
  exact Option.some.inj (h.symm.trans h')

end Walks

/-! ## Cycles -/

section Cycles

variable {tree : FileTree} {m n : Nat} {place turn found : Place} {steps left : List Bytes}

/-- **A walk that ends goes on from every state that it passes.** -/
theorem Passes.rest (h : tree.Passes turn left m place steps)
    (hn : tree.Walks n place steps found) :
    ∃ more, n = m + more ∧ tree.Walks more turn left found := by
  unfold Walks at *
  induction h generalizing n with
  | here => exact ⟨n, (Nat.zero_add n).symm, hn⟩
  | stay inside next ih =>
    cases hn with
    | stay _ hnext => exact ih hnext
    | enter _ named => exact absurd rfl named.ne_dot
    | link _ named => exact absurd rfl named.ne_dot
  | up inside next ih =>
    cases hn with
    | up _ hnext => exact ih hnext
    | enter _ named => exact absurd rfl named.ne_dotDot
    | link _ named => exact absurd rfl named.ne_dotDot
  | enter inside named there plain next ih =>
    cases hn with
    | stay => exact absurd rfl named.ne_dot
    | up => exact absurd rfl named.ne_dotDot
    | enter _ _ _ _ hnext => exact ih hnext
    | link _ _ hlink =>
      rw [there] at hlink
      exact absurd (Option.some.inj hlink) (plain _)
  | link inside named there admissible next ih =>
    cases hn with
    | stay => exact absurd rfl named.ne_dot
    | up => exact absurd rfl named.ne_dotDot
    | enter _ _ hother hplain =>
      rw [there] at hother
      exact absurd (Option.some.inj hother).symm (hplain _)
    | link _ _ hlink _ hnext =>
      rw [there] at hlink
      cases hlink
      obtain ⟨more, rfl, hmore⟩ := ih hnext
      exact ⟨more, by omega, hmore⟩

/-- **A walk that comes back to where it was ends nowhere**, however many links are allowed. -/
theorem not_walks_of_cycle (h : tree.Passes place steps (m + 1) place steps) :
    ¬ tree.Walks n place steps found := by
  induction n using Nat.strongRecOn with
  | ind n ih =>
    intro hwalks
    obtain ⟨more, rfl, hmore⟩ := h.rest hwalks
    exact ih more (by omega) hmore

end Cycles

/-! ## The last step -/

/-- Every directory stands in a directory. -/
def Grounded (tree : FileTree) : Prop :=
  ∀ name above, tree.isDirectory (name :: above) = true → tree.isDirectory above = true

section Last

variable {tree : FileTree} {links : Nat} {place found : Place} {steps : List Bytes}

theorem Grounded.tail (h : tree.Grounded) (hplace : tree.isDirectory place = true) :
    tree.isDirectory place.tail = true := by
  cases place with
  | nil => exact hplace
  | cons name above => exact h name above hplace

/-- **A walk ends at a directory unless its last step is a name.** -/
theorem Walks.isDirectory {step : Bytes} (h : tree.Walks links place steps found)
    (grounded : tree.Grounded) (last : steps.getLast? = some step) (unnamed : ¬ Path.IsName step) :
    tree.isDirectory found = true := by
  -- Links leave the last step as it is: a link in its place would be a name.
  unfold Walks at h
  induction h with
  | here => cases last
  | @stay _ place rest inside next ih =>
    cases rest with
    | nil =>
      cases next
      exact inside
    | cons name rest => exact ih (by rwa [List.getLast?_cons_cons] at last)
  | @up _ place rest inside next ih =>
    cases rest with
    | nil =>
      cases next
      exact grounded.tail inside
    | cons name rest => exact ih (by rwa [List.getLast?_cons_cons] at last)
  | @enter _ place name rest _ inside named there plain next ih =>
    cases rest with
    | nil =>
      cases last
      exact absurd named unnamed
    | cons name rest => exact ih (by rwa [List.getLast?_cons_cons] at last)
  | @link _ place name target rest inside named there admissible next ih =>
    cases rest with
    | nil =>
      cases last
      exact absurd named unnamed
    | cons name rest =>
      rw [List.getLast?_cons_cons] at last
      exact ih (by rw [List.getLast?_append, last, Option.some_or])

end Last

end FileTree

end ManifestPublish
