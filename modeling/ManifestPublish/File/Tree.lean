import ManifestPublish.File.Path

/-!
# File trees

What a run finds on disk.

* `Entry` : what stands under a name
* `FileTree` : the entries by place, and the place from which relative paths start
* `FileTree.entryAt?` : the entry at a place
-/

set_option autoImplicit false

namespace ManifestPublish

/-- A place in a tree: the names from it up to the root, its own name first. -/
abbrev Place := List Bytes

/-- What stands under a name. -/
inductive Entry where
  | file (contents : Bytes)
  /-- A regular file whose reading fails with a system fault. -/
  | unreadable (fault : Nat)
  | directory
  /-- A device, a socket or a pipe. -/
  | special
  | link (target : Bytes)
  deriving DecidableEq, Repr

/-- The entries of a tree by place; of two for one place the first counts. -/
structure FileTree where
  entries : List (Place × Entry)
  workingDirectory : Place
  deriving DecidableEq, Repr

namespace FileTree

/-- The entry at a place.  The root is a directory. -/
def entryAt? (tree : FileTree) : Place → Option Entry
  | [] => some .directory
  | place => (tree.entries.find? (·.1 = place)).map (·.2)

/-- Whether a directory stands at a place. -/
def isDirectory (tree : FileTree) (place : Place) : Bool := tree.entryAt? place = some .directory

/-- The place at which a walk along a path starts. -/
def start (tree : FileTree) (path : Bytes) : Place :=
  if Path.isAbsolute path then [] else tree.workingDirectory

end FileTree

end ManifestPublish
