import ManifestPublish.Text.Blank
import ManifestPublish.Text.Utf8

/-!
# The lines of an environment file

A line of the file goes on in the next one while a quote is open.  A `#` after a blank, outside
quotes, starts a comment.

* `Quoting` : where reading stands in a line
* `logicalLines` : the lines, joined where a quote is open and without comments

Reading ends before the first line that is not UTF-8, and before one that is never closed.
-/

set_option autoImplicit false

namespace ManifestPublish.EnvFile

/-- Where reading stands in a line. -/
inductive Quoting where
  | plain
  /-- After a blank outside quotes. -/
  | blank
  /-- After a backslash outside quotes. -/
  | escape
  | strong
  | strongEscape
  | weak
  | weakEscape
  deriving DecidableEq, Repr

/-- What opens quotes or an escape, and else leaves the line plain. -/
def Quoting.opened (c : Char) : Quoting :=
  if c = '\\' then .escape else if c = '"' then .weak else if c = '\'' then .strong else .plain

/-- Reads a character; none where a comment starts. -/
def Quoting.step? : Quoting → Char → Option Quoting
  | .blank, c => if c = '#' then none else some (opened c)
  | .plain, c =>
    if Blank.isBlank c && c ≠ '\n' && c ≠ '\r' then some .blank else some (opened c)
  | .escape, _ => some .plain
  | .weak, c => some (if c = '\\' then .weakEscape else if c = '"' then .plain else .weak)
  | .weakEscape, _ => some .weak
  | .strong, c => some (if c = '\\' then .strongEscape else if c = '\'' then .plain else .strong)
  | .strongEscape, _ => some .strong

/-- A line as far as it was read. -/
inductive LineScan where
  /-- The line may be over. -/
  | ended (quoting : Quoting) (reversed : List Char)
  /-- A comment starts. -/
  | cut (reversed : List Char)
  deriving DecidableEq, Repr

/-- Reads characters up to a comment; `done` holds those before, last one first. -/
def scanLine (quoting : Quoting) (done : List Char) : List Char → LineScan
  | [] => .ended quoting done
  | c :: cs =>
    match quoting.step? c with
    | none => .cut done
    | some quoting => scanLine quoting (c :: done) cs

/-- A line without its end; it is held last character first. -/
def dropLineEnd : List Char → List Char
  | '\n' :: '\r' :: reversed => reversed
  | '\n' :: reversed => reversed
  | reversed => reversed

/-- Whether a line is nothing but a comment. -/
def isComment (cs : List Char) : Bool := (cs.dropWhile Blank.isBlank).head? = some '#'

/-- Cuts bytes after every line feed; `current` holds the bytes of the line so far and `done` the
lines before it, both last one first. -/
def cutLines (done : List Bytes) (current : Bytes) : Bytes → List Bytes
  | [] => (if current = [] then done else current.reverse :: done).reverse
  | b :: bs =>
    if b = 0x0A then cutLines ((b :: current).reverse :: done) [] bs
    else cutLines done (b :: current) bs

/-- Joins lines while a quote is open, and takes comments off; `pending` holds what was read of a
line that goes on, last character first. -/
def joinLines (quoting : Quoting) (pending : List Char) : List Bytes → List (List Char)
  | [] => []
  | bytes :: rest =>
    match Utf8.decode? bytes with
    | none => []
    | some text =>
      if pending = [] && isComment text.toList then [] :: joinLines .plain [] rest
      else
        match scanLine quoting pending text.toList with
        | .cut reversed => reversed.reverse :: joinLines .plain [] rest
        | .ended .plain reversed =>
          (dropLineEnd reversed).reverse :: joinLines .plain [] rest
        | .ended quoting reversed => joinLines quoting reversed rest

/-- The lines of a file; a byte order mark before them is passed over. -/
def logicalLines (bytes : Bytes) : List (List Char) :=
  let bytes :=
    match bytes with
    | 0xEF :: 0xBB :: 0xBF :: rest => rest
    | bytes => bytes
  joinLines .plain [] (cutLines [] [] bytes)

end ManifestPublish.EnvFile
