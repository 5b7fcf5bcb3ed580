import DocLint.Text.Basic

/-!
# The contents of files

Most files hold text, and a file that is asked for as a whole has to. A file that is read line
by line gives its lines up to the first one that is not text.
-/

namespace DocLint

/-- What a file holds. -/
inductive FileContent where
  /-- Text. -/
  | text (s : String)
  /-- Bytes that are no text. -/
  | raw (bytes : List UInt8)
deriving DecidableEq, Repr

/-- The text of some bytes, if they are valid UTF-8. -/
def decode? (bytes : List UInt8) : Option String := String.fromUTF8? bytes.toByteArray

namespace FileContent

/-- The content of a file with these bytes. -/
def ofBytes (bytes : List UInt8) : FileContent :=
  match decode? bytes with
  | some s => text s
  | none => raw bytes

/-- The bytes of the file. -/
def bytes : FileContent → List UInt8
  | text s => s.toUTF8.toList
  | raw bs => bs

/-- The text of the file, if it holds text. -/
def text? : FileContent → Option String
  | text s => some s
  | raw _ => none

/-- The lines of the file that stand in front of the first one that is not text. A line feed
follows each of them if there is such a line. -/
def lines : FileContent → List Line
  | text s => Text.lines s.toList
  | raw bs =>
      (((Text.splitAt 0x0A bs).map decode?).takeWhile Option.isSome).filterMap
        (·.map fun s => Text.dropReturn s.toList)

end FileContent

end DocLint
