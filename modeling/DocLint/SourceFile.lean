import DocLint.Path
import DocLint.Violation

/-!
# Source files: a text under a path

A rule sees a file as its path, its path below the root of the analysis, and its text.
`SourceFile.lineRange?` finds the bytes of a line, and `SourceFile.locateLabels` uses it to
give labels without an extent the extent of their line.
-/

namespace DocLint

open Text

/-- A file that is being checked. -/
structure SourceFile where
  /-- The path under which the file was found. -/
  path : String
  /-- The text of the file. -/
  content : String
  /-- The directory the analysis started from. -/
  root : String
deriving DecidableEq, Repr

/-- A range of bytes. -/
structure ByteRange where
  /-- The offset of the first byte. -/
  start : Nat
  /-- The offset after the last byte. -/
  stop : Nat
deriving DecidableEq, Repr

namespace SourceFile

/-- The path below the root, or the whole path if it does not lie there. -/
def relativePath (file : SourceFile) : String :=
  (Path.relativeTo? file.root file.path).getD file.path

/-- The name that the header of the file has to carry. -/
def stem (file : SourceFile) : String := Path.stem file.path

/-- Is the character a carriage return or a line feed? -/
def isLineBreak (c : Char) : Bool := c == '\n' || c == '\r'

/-- The range of the line `n`, counted from one, in pieces that start at the offset `start`.
Carriage returns at the end of a line are not part of it, and an empty last piece is no
line. -/
def rangeIn (start : Nat) : Nat → List Line → Option ByteRange
  | _, [] => none
  | 0, _ => none
  | _, [[]] => none
  | 1, piece :: _ => some ⟨start, start + byteLength (dropEndWhile isLineBreak piece)⟩
  | n + 2, piece :: more => rangeIn (start + byteLength piece + 1) (n + 1) more

/-- The bytes of a line, counted from one. -/
def lineRange? (file : SourceFile) (line : Nat) : Option ByteRange :=
  rangeIn 0 line (pieces file.content.toList)

/-- The label with the extent of its line, if it has none and the line exists. -/
def locateLabel (file : SourceFile) (label : Label) : Label :=
  if label.location.span.length = 0 then
    match file.lineRange? label.location.span.line with
    | none => label
    | some range =>
        { label with location.span.offset := range.start
                     location.span.length := range.stop - range.start }
  else label

/-- The violation with an extent for every label whose line exists. -/
def locateLabels (file : SourceFile) (v : Violation) : Violation :=
  { v with labels := v.labels.map file.locateLabel }

end SourceFile

end DocLint
