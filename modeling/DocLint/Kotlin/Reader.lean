import DocLint.Kotlin.Outline
import DocLint.SourceReader

/-!
# The reader of Kotlin files
-/

namespace DocLint.Kotlin

/-- The extensions of Kotlin files: sources and scripts. -/
def extensions : List String := [".kt", ".kts"]

/-- The reader of Kotlin files. Every text has an outline, so it never fails. -/
def reader : SourceReader where
  extensions := extensions
  read source := .ok (outline source)

end DocLint.Kotlin
