import DocLint.Outline

/-!
# Comments found on the text of a source

The comment a file starts with and the documentation comment in front of a declaration are
looked up on the text. There a comment ends at the first end marker, even where block comments
nest.
-/

namespace DocLint.Kotlin

open Text

/-- The place of a piece of text of `length` bytes that follows the text `before`. -/
def spanAfter (before : List Char) (length : Nat) : Span where
  line := before.count '\n' + 1
  column := byteLength (before.reverse.takeWhile (· ≠ '\n')) + 1
  offset := byteLength before
  length := length

/-- The comment `text` that follows the text `before`. -/
def commentAfter (before text : List Char) : Comment where
  text := String.ofList text
  span := spanAfter before (byteLength text)

/-- The byte order mark. -/
def byteOrderMark : Char := '\uFEFF'

/-- The byte order mark and the white space in front of a source. -/
def leadingBlank (source : List Char) : List Char :=
  match source with
  | c :: rest => if c = byteOrderMark then c :: rest.takeWhile isBlank else source.takeWhile isBlank
  | [] => []

/-- The block comment that a source starts with, after a byte order mark and white space. -/
def leadingComment? (source : List Char) : Option Comment := do
  let blank := leadingBlank source
  let rest ← after? "/*".toList (source.drop blank.length)
  let (inner, _) ← cutAt "*/".toList rest
  some (commentAfter blank ("/*".toList ++ inner ++ "*/".toList))

/-- The documentation comment at the end of a text, apart from white space after it. It starts
at the last start marker, and no other comment ends inside it. -/
def trailingDoc? (text : List Char) : Option Comment := do
  let body ← before? "*/".toList (trimEnd text)
  let (before, inner) ← cutAtLast "/**".toList body
  guard (!holds "*/".toList inner)
  some (commentAfter before ("/**".toList ++ inner ++ "*/".toList))

end DocLint.Kotlin
