import ManifestPublish.Text.Utf8

/-!
# Paths

A path is a byte string.  Slashes separate its names; nothing else in it has a meaning until the
names are looked up.

* `names` : the names between the slashes, the empty ones left out
* `steps` : what a walk along the path does, a final slash included
* `fileName?` : the last name, unless the path ends in a step upwards
* `display` : the path as text
-/

set_option autoImplicit false

namespace ManifestPublish.Path

def slash : UInt8 := 0x2F

/-- The name that stays. -/
def dot : Bytes := [0x2E]

/-- The name that goes up. -/
def dotDot : Bytes := [0x2E, 0x2E]

/-- The names of a path, from left to right. -/
def names (path : Bytes) : List Bytes := (path.splitOn slash).filter (· ≠ [])

/-- The steps of a walk along a path.  A final slash asks for a directory, as a final `.` does. -/
def steps (path : Bytes) : List Bytes :=
  if path.getLast? = some slash then names path ++ [dot] else names path

/-- Whether a walk along the path starts at the root. -/
def isAbsolute (path : Bytes) : Bool := path.head? = some slash

def maxNameLength : Nat := 255

def maxLength : Nat := 4095

/-- Paths that can be looked up at all. -/
def isAdmissible (path : Bytes) : Bool :=
  path ≠ [] && path.length ≤ maxLength && !path.contains 0

/-- The last name of a path; a path that ends by going up or has no name has none. -/
def fileName? (path : Bytes) : Option Bytes :=
  match ((names path).filter (· ≠ dot)).getLast? with
  | none => none
  | some name => if name = dotDot then none else some name

def display (path : Bytes) : String := Utf8.decodeLossy path

end ManifestPublish.Path
