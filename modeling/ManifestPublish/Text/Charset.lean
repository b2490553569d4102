import ManifestPublish.Text.SingleByte
import ManifestPublish.Text.Utf16

/-!
# The text of an answer

* `Charset` : the ways in which an answer can be written
* `Charset.ofLabel?` : the character set of a name
* `Charset.decode` : the text of a byte string; a byte order mark wins over the name that was given
-/

set_option autoImplicit false

namespace ManifestPublish

/-- The ways in which a text can be written as bytes. -/
inductive Charset where
  | utf8
  | utf16 (order : Utf16.Order)
  | singleByte (set : SingleByte)
  /-- Not to be read at all: one U+FFFD stands for everything. -/
  | refused
  deriving DecidableEq, Repr

namespace Charset

/-- The blanks around a name that do not count. -/
def isLabelBlank (c : Char) : Bool :=
  c = '\t' || c = '\n' || c = '\x0c' || c = '\r' || c = ' '

/-- A name in small letters, without the blanks around it. -/
def normalizeLabel (label : String) : String :=
  let cs := (label.toList.dropWhile isLabelBlank).reverse.dropWhile isLabelBlank
  String.ofList (cs.reverse.map Char.toLower)

def utf8Labels : List String :=
  ["unicode-1-1-utf-8", "unicode11utf8", "unicode20utf8", "utf-8", "utf8", "x-unicode20utf8"]

def littleEndianLabels : List String :=
  ["csunicode", "iso-10646-ucs-2", "ucs-2", "unicode", "unicodefeff", "utf-16", "utf-16le"]

def bigEndianLabels : List String := ["unicodefffe", "utf-16be"]

def refusedLabels : List String :=
  ["csiso2022kr", "hz-gb-2312", "iso-2022-cn", "iso-2022-cn-ext", "iso-2022-kr", "replacement"]

/-- The character set of a name.  Those of several bytes a character that are neither UTF-8 nor
UTF-16 (`gbk`, `gb18030`, `big5`, `euc-jp`, `iso-2022-jp`, `shift_jis`, `euc-kr`) and
`x-user-defined` are not known here, so a text under their names is read as UTF-8. -/
def ofLabel? (label : String) : Option Charset :=
  let label := normalizeLabel label
  if utf8Labels.contains label then some .utf8
  else if littleEndianLabels.contains label then some (.utf16 .littleEndian)
  else if bigEndianLabels.contains label then some (.utf16 .bigEndian)
  else if refusedLabels.contains label then some .refused
  else (SingleByte.ofLabel? label).map .singleByte

/-- The text of a byte string in a character set. -/
def read : Charset → Bytes → String
  | .utf8, bytes => Utf8.decodeLossy bytes
  | .utf16 order, bytes => Utf16.decodeLossy order bytes
  | .singleByte set, bytes => set.decode bytes
  | .refused, bytes => if bytes = [] then "" else String.ofList [Utf8.replacement]

/-- The character set told by a byte order mark, and the bytes after the mark. -/
def mark? : Bytes → Option (Charset × Bytes)
  | 0xEF :: 0xBB :: 0xBF :: rest => some (.utf8, rest)
  | 0xFF :: 0xFE :: rest => some (.utf16 .littleEndian, rest)
  | 0xFE :: 0xFF :: rest => some (.utf16 .bigEndian, rest)
  | _ => none

/-- The text of a byte string: as its mark tells, else as the name tells, else as UTF-8. -/
def decode (label? : Option String) (bytes : Bytes) : String :=
  match mark? bytes with
  | some (set, rest) => set.read rest
  | none => ((label?.bind ofLabel?).getD .utf8).read bytes

end Charset

end ManifestPublish
