import ManifestPublish.File.Tree

/-!
# Looking up a path

* `FileTree.descend` : a walk up to the first link
* `FileTree.walk` : a walk through at most a given number of links, and what it comes to
* `FileTree.follow` : the place at which it ends
* `FileTree.resolve?` : the place of what a path names
* `FileTree.isFile` : whether that is a regular file
-/

set_option autoImplicit false

namespace ManifestPublish

/-- Where a walk stands when it can go on no further by itself. -/
inductive Descent where
  | arrived (place : Place)
  /-- Nothing stands at the place; the steps after it are left. -/
  | absent (place : Place) (rest : List Bytes)
  /-- A step from what is no directory, to a name that is too long, or through a link too many. -/
  | blocked
  /-- A link in the directory at a place; the steps after it are left. -/
  | atLink (directory : Place) (target : Bytes) (rest : List Bytes)
  deriving DecidableEq, Repr

def Descent.place? : Descent → Option Place
  | .arrived place => some place
  | _ => none

namespace FileTree

/-- Walks from a place until the steps are done, or a link or an obstacle is met. -/
def descend (tree : FileTree) : Place → List Bytes → Descent
  | place, [] => .arrived place
  | place, name :: rest =>
    if tree.isDirectory place = false then .blocked
    else if name = Path.dot then tree.descend place rest
    else if name = Path.dotDot then tree.descend place.tail rest
    else if name.length > Path.maxNameLength then .blocked
    else
      match tree.entryAt? (name :: place) with
      | none => .absent (name :: place) rest
      | some (.link target) => .atLink place target rest
      | some _ => tree.descend (name :: place) rest

/-- Walks through at most `links` links.  A link is replaced by the path it holds, taken from the
directory in which it stands. -/
def walk (tree : FileTree) : Nat → Place → List Bytes → Descent
  | links, place, steps =>
    match tree.descend place steps with
    | .arrived found => .arrived found
    | .absent missing rest => .absent missing rest
    | .blocked => .blocked
    | .atLink directory target rest =>
      match links with
      | 0 => .blocked
      | links + 1 =>
        if Path.isAdmissible target then
          let origin := if Path.isAbsolute target then [] else directory
          tree.walk links origin (Path.steps target ++ rest)
        else .blocked

/-- The place at which a walk ends. -/
def follow (tree : FileTree) (links : Nat) (place : Place) (steps : List Bytes) : Option Place :=
  (tree.walk links place steps).place?

def maxLinks : Nat := 40

/-- The place of what a path names, links followed. -/
def resolve? (tree : FileTree) (path : Bytes) : Option Place :=
  if Path.isAdmissible path then tree.follow maxLinks (tree.start path) (Path.steps path) else none

/-- The entry that a path names, links followed. -/
def lookup? (tree : FileTree) (path : Bytes) : Option Entry :=
  (tree.resolve? path).bind tree.entryAt?

/-- Whether a path names a regular file. -/
def isFile (tree : FileTree) (path : Bytes) : Bool :=
  match tree.lookup? path with
  | some (.file _) => true
  | some (.unreadable _) => true
  | _ => false

section Walk

variable {tree : FileTree} {links : Nat} {place place' directory : Place}
  {steps steps' rest : List Bytes} {target : Bytes}

theorem walk_congr (h : tree.descend place steps = tree.descend place' steps') :
    tree.walk links place steps = tree.walk links place' steps' := by
  unfold walk
  rw [h]

/-- Links alone are walked through. -/
theorem walk_of_no_link
    (h : ∀ directory target rest, tree.descend place steps ≠ .atLink directory target rest) :
    tree.walk links place steps = tree.descend place steps := by
  unfold walk
  cases hdescend : tree.descend place steps with
  | atLink directory target rest => exact absurd hdescend (h directory target rest)
  | arrived | absent | blocked => rfl

theorem walk_zero_of_link (h : tree.descend place steps = .atLink directory target rest) :
    tree.walk 0 place steps = .blocked := by
  unfold walk
  rw [h]

theorem walk_succ_of_link (h : tree.descend place steps = .atLink directory target rest) :
    tree.walk (links + 1) place steps =
      if Path.isAdmissible target then
        tree.walk links (if Path.isAbsolute target then [] else directory)
          (Path.steps target ++ rest)
      else .blocked := by
  rw [walk, h]

end Walk

end FileTree

end ManifestPublish
