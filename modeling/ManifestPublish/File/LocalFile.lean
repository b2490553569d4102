import ManifestPublish.Digest.Sha256
import ManifestPublish.File.Resolve
import ManifestPublish.Publish.Error

/-!
# Local files

* `FileTree.ensureFile` : a path has to name a regular file
* `LocalFile` : a file held in full, with the name under which it is sent
* `FileTree.read` : the file that a path names
* `FileReport` : name, size and digest of a file
-/

set_option autoImplicit false

namespace ManifestPublish

/-- A file held in full (`LocalFile`). -/
structure LocalFile where
  /-- The path by which it was asked for. -/
  path : Bytes
  /-- The name under which it is sent. -/
  name : String
  contents : Bytes
  deriving DecidableEq, Repr

/-- What a report says of a file (`FileReport`). -/
structure FileReport where
  name : String
  size : Nat
  sha256 : String
  deriving DecidableEq, Repr

/-- `FileReport::from`: name, size and `LocalFile::sha256`. -/
def LocalFile.report (file : LocalFile) : FileReport :=
  ⟨file.name, file.contents.length, Sha256.hexDigest file.contents⟩

namespace FileTree

/-- `ensure_file`: fails unless a path names a regular file. -/
def ensureFile (tree : FileTree) (path : Bytes) : Except PublishError Unit :=
  if tree.isFile path then .ok () else .error (.fileNotFound path)

/-- The name under which a file is sent: the last name of its path, or the whole path. -/
def sentName (path : Bytes) : String := Path.display ((Path.fileName? path).getD path)

/-- `LocalFile::read`: the file that a path names, held in full. -/
def read (tree : FileTree) (path : Bytes) : Except PublishError LocalFile :=
  match tree.lookup? path with
  | some (.file contents) => .ok ⟨path, sentName path, contents⟩
  | some (.unreadable fault) => .error (.fileRead path (.system fault))
  | _ => .error (.fileNotFound path)

/-- A regular file is either read or fails in the reading. -/
theorem read_of_isFile {tree : FileTree} {path : Bytes} (h : tree.isFile path = true) :
    (∃ file, tree.read path = .ok file) ∨
      ∃ fault, tree.read path = .error (.fileRead path fault) := by
  unfold isFile at h
  unfold read
  cases hlookup : tree.lookup? path with
  | none =>
    rw [hlookup] at h
    cases h
  | some entry =>
    rw [hlookup] at h
    cases entry with
    | file contents => exact .inl ⟨_, rfl⟩
    | unreadable fault => exact .inr ⟨_, rfl⟩
    | directory => cases h
    | special => cases h
    | link target => cases h

end FileTree

end ManifestPublish
