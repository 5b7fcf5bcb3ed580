import DocLint.DocBlock.Match
import DocLint.Issue

/-!
# Checking the documentation of a function

A function without a documentation block, and one whose block does not match the grammar it
calls for, each give one issue. Its example is a block that would match.
-/

namespace DocLint

/-- What is wrong with the documentation of a function. -/
def docIssue? (f : Function) : Option Issue :=
  let issue (kind : IssueKind) : Issue :=
    { kind
      detail := some ("for function " ++ f.name)
      sample := some (DocGrammar.ofFunction f).skeleton }
  match f.doc with
  | none => some (issue .docBlockMissing)
  | some doc =>
      match (DocGrammar.ofFunction f).matchText doc.text with
      | .ok () => none
      | .error _ => some (issue .docBlockMismatch)

/-- Does the documentation of a function fit its signature and body? -/
def checkDocBlock (f : Function) : Check Bool := Check.passes (docIssue? f)

end DocLint
