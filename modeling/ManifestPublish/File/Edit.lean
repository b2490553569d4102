import ManifestPublish.File.Resolve

/-!
# Changing a file tree

* `FileTree.write` : a regular file as given, its directories made as needed
* `FileTree.makeDirectory` : a directory, and those above it
* `FileTree.makeLink` : a symbolic link
* `FileTree.remove` : a file or link, or a directory with all below it

A change that cannot be made leaves the tree as it is.
-/

set_option autoImplicit false

namespace ManifestPublish.FileTree

/-- Puts an entry at a place, in the stead of any other. -/
def put (tree : FileTree) (place : Place) (entry : Entry) : FileTree :=
  { tree with entries := (place, entry) :: tree.entries.filter (·.1 ≠ place) }

/-- Where a walk would put a new entry, or finds one: the place of the last step, with every link
on the way followed. -/
def landing? (tree : FileTree) (links : Nat) (place : Place) (steps : List Bytes) :
    Option Place :=
  match tree.walk links place steps with
  | .arrived found => some found
  | .absent missing [] => some missing
  | _ => none

/-- Makes the directories along the steps that are missing, one after the other. -/
def makeDirectories (tree : FileTree) (place : Place) (done : List Bytes) :
    List Bytes → FileTree
  | [] => tree
  | name :: rest =>
    let done := done ++ [name]
    match tree.landing? maxLinks place done with
    | some found =>
      let tree := if (tree.entryAt? found).isNone then tree.put found .directory else tree
      tree.makeDirectories place done rest
    | none => tree

/-- Makes a directory, and those above it. -/
def makeDirectory (tree : FileTree) (path : Bytes) : FileTree :=
  tree.makeDirectories (tree.start path) [] (Path.names path)

/-- Makes the directories above the last name of a path. -/
def makeParents (tree : FileTree) (path : Bytes) : FileTree :=
  tree.makeDirectories (tree.start path) [] (Path.names path).dropLast

/-- Writes a regular file as given.  A link at its place is followed. -/
def write (tree : FileTree) (path : Bytes) (file : Entry) : FileTree :=
  let tree := tree.makeParents path
  match tree.landing? maxLinks (tree.start path) (Path.names path) with
  | none => tree
  | some place =>
    match tree.entryAt? place with
    | none => tree.put place file
    | some (.file _) => tree.put place file
    | some _ => tree

/-- The place of the last name of a path itself, no link there followed. -/
def ownPlace? (tree : FileTree) (path : Bytes) : Option Place :=
  match (Path.names path).getLast? with
  | none => none
  | some name =>
    (tree.follow maxLinks (tree.start path) (Path.names path).dropLast).map (name :: ·)

/-- Makes a link, unless something stands at its place. -/
def makeLink (tree : FileTree) (path target : Bytes) : FileTree :=
  let tree := tree.makeParents path
  match tree.ownPlace? path with
  | none => tree
  | some place => if (tree.entryAt? place).isNone then tree.put place (.link target) else tree

/-- Removes what stands at the place of a path, with all below it. -/
def remove (tree : FileTree) (path : Bytes) : FileTree :=
  match tree.ownPlace? path with
  | none => tree
  | some place => { tree with entries := tree.entries.filter fun e => !place.isSuffixOf e.1 }

end ManifestPublish.FileTree
