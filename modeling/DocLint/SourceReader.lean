import DocLint.Outline

/-!
# Readers of source files

A reader knows the extensions of the files it reads and turns their text into an outline. The
rules do not depend on how it does that, so another language is another reader.
-/

namespace DocLint

/-- Why a source could not be read. -/
inductive ReadError where
  /-- The grammar of a language could not be loaded. -/
  | language (name message : String)
  /-- There is no syntax tree. -/
  | noTree
deriving DecidableEq, Repr

/-- The error in words. -/
def ReadError.message : ReadError → String
  | language name message => "Failed to load " ++ name ++ " grammar: " ++ message
  | noTree => "Parser returned no syntax tree"

/-- A reader of source files. -/
structure SourceReader where
  /-- The extensions of the files it reads, with their dots. -/
  extensions : List String
  /-- The outline of a source. -/
  read : String → Except ReadError Outline

end DocLint
