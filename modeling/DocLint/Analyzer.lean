import DocLint.Directive
import DocLint.FileTree
import DocLint.Glob
import DocLint.Report
import DocLint.Rule.Check
import DocLint.SourceReader

/-!
# Analyzers: rules, settings and the files they apply to

An analyzer holds what is fixed for a run: the root directory, the rules, the readers of source
files, the patterns of paths to leave out, and the settings. `Analyzer.checkSource` runs the
rules on one file; what a rule reports is thinned out by the directives in the file and gets
the severity that the settings ask for.
-/

namespace DocLint

/-! ## Errors -/

/-- Why a run ended without a report. -/
inductive AnalysisError where
  /-- A file could not be read. -/
  | io (cause : FileError)
  /-- The directory could not be walked. -/
  | walk (path : String) (cause : FileError)
  /-- A source could not be parsed. -/
  | parse (path : String) (cause : ReadError)
  /-- No reader takes the file. -/
  | unsupported (path : String)
  /-- A pattern is not valid. -/
  | glob (cause : Glob.PatternError)
deriving DecidableEq, Repr

/-- The error in words. -/
def AnalysisError.message : AnalysisError → String
  | io cause => "IO error: " ++ cause.message
  | walk path cause =>
      "Walk error: " ++ path ++ ": IO error for operation on " ++ path ++ ": " ++ cause.message
  | parse path cause => "Parse error in " ++ path ++ ": " ++ cause.message
  | unsupported path => "No extractor registered for " ++ path
  | glob cause => "Invalid glob pattern: " ++ cause.message

/-! ## Analyzers -/

/-- What is asked of an analyzer before it is built. -/
structure AnalyzerRequest where
  /-- The directory to analyze, if it is given. -/
  root : Option String := none
  /-- The rules to run. -/
  rules : List Rule := []
  /-- The readers of source files. -/
  readers : List SourceReader := []
  /-- Patterns of paths to leave out. -/
  exclude : List String := []
  /-- The settings, if there are any. -/
  settings : Option Settings := none
  /-- Does a file that cannot be parsed end the run? -/
  failOnParseError : Option Bool := none
  /-- The home directory of the user, if it is known. -/
  home : Option String := none

/-- An analyzer. -/
structure Analyzer where
  /-- The directory to analyze, as an absolute path. -/
  root : String
  /-- The rules to run. -/
  rules : List Rule
  /-- The readers of source files. -/
  readers : List SourceReader
  /-- The patterns of paths to leave out. -/
  excludes : List Glob
  /-- The settings. -/
  settings : Settings
  /-- Does a file that cannot be parsed end the run? -/
  failOnParseError : Bool
  /-- The home directory of the user, if it is known. -/
  home : Option String := none

namespace AnalyzerRequest

/-- The directory to analyze: the one that is given, else that of the settings. A relative one
is seen from the working directory. -/
def absoluteRoot (request : AnalyzerRequest) (workingDir : String) : String :=
  Path.joinTo workingDir
    ((request.root.or (request.settings.map (·.analyzer.root))).getD ".")

/-- The patterns to leave out: those that are given and those of the settings; without any,
build output and caches. -/
def patterns (request : AnalyzerRequest) : List String :=
  match request.exclude ++ (request.settings.map (·.analyzer.exclude)).getD [] with
  | [] => ({} : AnalyzerSettings).exclude
  | patterns => patterns

/-- Build the analyzer. It fails if a pattern is not valid. -/
def build (request : AnalyzerRequest) (workingDir : String) : Except AnalysisError Analyzer := do
  let excludes ← request.patterns.mapM fun p => (Glob.parse p).mapError AnalysisError.glob
  return {
    root := request.absoluteRoot workingDir
    rules := request.rules
    readers := request.readers
    excludes
    settings := request.settings.getD {}
    failOnParseError :=
      (request.failOnParseError.or (request.settings.map (·.analyzer.failOnParseError))).getD false
    home := request.home }

end AnalyzerRequest

namespace Analyzer

/-! ## Directives and severities -/

/-- The remark on a directive that would need a reason. -/
def ignoredNote (v : Violation) : Label :=
  ⟨v.location, "allow directive ignored: this rule requires reason=\"...\""⟩

/-- What is left of a violation under the directives of a file: a directive with a reason drops
it, one without a reason drops it if the rule needs none and is noted otherwise. -/
def underDirectives (content : String) (rule : Rule) (v : Violation) : Option Violation :=
  match Directive.find? content v.location.span.line rule.name.text with
  | none => some v
  | some directive =>
      if directive.reason.isSome || !rule.requiresReason then none
      else some { v with labels := v.labels ++ [ignoredNote v] }

/-- The violation with the severity that the settings ask for. -/
def withSeverity (settings : Settings) (rule : Rule) (v : Violation) : Violation :=
  { v with severity := (settings.severity? rule.name.text).getD v.severity }

/-- What a rule reports for a file in the end. A rule that is switched off reports nothing. -/
def reported (settings : Settings) (file : SourceFile) (outline : Outline) (rule : Rule) :
    List Violation :=
  if settings.isEnabled rule.name.text then
    ((rule.check file outline).filterMap (underDirectives file.content rule)).map
      (withSeverity settings rule)
  else []

/-! ## One file -/

/-- The reader that takes a file, by its extension. -/
def readerFor (a : Analyzer) (path : String) : Option SourceReader := do
  let extension ← Path.extension? path
  a.readers.find? (·.extensions.contains ("." ++ extension))

/-- Run the rules on one file. -/
def checkSource (a : Analyzer) (path content : String) : Except AnalysisError (List Violation) :=
  match a.readerFor path with
  | none => .error (.unsupported path)
  | some reader =>
      match reader.read content with
      | .error cause => .error (.parse path cause)
      | .ok outline =>
          .ok (a.rules.flatMap (reported a.settings { path, content, root := a.root } outline))

/-! ## Leaving files out -/

/-- The directory name that a pattern is about, if it is about one: the pattern without its
`**` components, unless it has other stars or is empty. -/
def literalName? (pattern : String) : Option String :=
  let clean := Text.erase "/**".toList (Text.erase "**/".toList pattern.toList)
  if clean.isEmpty || clean.contains '*' then none else some (String.ofList clean)

/-- The text of a component. -/
def componentText : Path.Component → String
  | .root => "/"
  | .here => "."
  | .up => ".."
  | .name text => String.ofList text

/-- Is a file left out? It is if a pattern matches its path, or its path below the root, or if
the name that a pattern is about is one of its components below the root. -/
def isExcluded (a : Analyzer) (path : String) : Bool :=
  let relative := (Path.relativeTo? a.root path).getD path
  a.excludes.any (fun g => g.matches relative || g.matches path) ||
    a.excludes.any fun g =>
      (literalName? g.text).any fun name =>
        (Path.components relative).any (componentText · == name)

end Analyzer

end DocLint
