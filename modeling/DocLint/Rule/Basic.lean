import DocLint.Header.Clause
import DocLint.Settings

/-!
# Rules: their names and options

There are four rules. Each has a name and a code, either of which selects it, and a severity
it reports with unless it is given another one. A rule that reports errors can only be
silenced with a reason.
-/

namespace DocLint

/-- The rules there are. -/
inductive RuleName where
  /-- Every file starts with a header. -/
  | fileHeader
  /-- Every function has documentation that fits it. -/
  | functionDoc
  /-- Nobody calls the log of the platform. -/
  | forbiddenLogCall
  /-- No file declares too many functions. -/
  | tooManyFunctions
deriving DecidableEq, Repr

namespace RuleName

/-- All rules. -/
def all : List RuleName := [fileHeader, functionDoc, forbiddenLogCall, tooManyFunctions]

/-- The name under which a rule is configured. -/
def text : RuleName → String
  | fileHeader => "file-header"
  | functionDoc => "function-doc"
  | forbiddenLogCall => "forbidden-log-call"
  | tooManyFunctions => "too-many-functions"

/-- The short code of a rule. -/
def code : RuleName → String
  | fileHeader => "TOFIB"
  | functionDoc => "TOFUB"
  | forbiddenLogCall => "LOG001"
  | tooManyFunctions => "FUN001"

/-- What a rule asks for. -/
def description : RuleName → String
  | fileHeader => "Requires a copyright, file-name, description and author header"
  | functionDoc => "Requires a KDoc block matching each function's signature"
  | forbiddenLogCall => "Forbids android.util.Log calls; use the logging wrapper"
  | tooManyFunctions => "Limits the number of function declarations per file"

/-- The severity with which a rule reports unless another one is given. -/
def severity : RuleName → Severity
  | fileHeader => .error
  | functionDoc => .error
  | forbiddenLogCall => .warning
  | tooManyFunctions => .info

/-- The rule of a name. -/
def ofText? (name : String) : Option RuleName := all.find? (·.text = name)

/-- The rule of a name or a code. -/
def find? (name : String) : Option RuleName := all.find? fun r => r.text = name ∨ r.code = name

end RuleName

/-- A rule with its options. -/
inductive RuleOptions where
  /-- The header form, and whether broken clauses are reported one by one. -/
  | fileHeader (grammar : Header.Grammar) (perClause : Bool)
  /-- No options. -/
  | functionDoc
  /-- What to call in place of the log of the platform. -/
  | forbiddenLogCall (wrapper : String)
  /-- How many functions a file may declare. -/
  | tooManyFunctions (max : Nat)
deriving DecidableEq, Repr

/-- The rule that options belong to. -/
def RuleOptions.name : RuleOptions → RuleName
  | fileHeader _ _ => .fileHeader
  | functionDoc => .functionDoc
  | forbiddenLogCall _ => .forbiddenLogCall
  | tooManyFunctions _ => .tooManyFunctions

/-- The options of a rule that is not configured. -/
def RuleName.defaults : RuleName → RuleOptions
  | fileHeader => .fileHeader {} false
  | functionDoc => .functionDoc
  | forbiddenLogCall => .forbiddenLogCall "TLog"
  | tooManyFunctions => .tooManyFunctions 2

/-- A rule that can be run. -/
structure Rule where
  /-- The rule and its options. -/
  options : RuleOptions
  /-- The severity it reports with. -/
  severity : Severity
deriving DecidableEq, Repr

namespace Rule

/-- Which rule it is. -/
def name (r : Rule) : RuleName := r.options.name

/-- Does a directive have to give a reason to silence the rule? -/
def requiresReason (r : Rule) : Bool := r.severity = .error

/-- The rule without any configuration. -/
def default (name : RuleName) : Rule := ⟨name.defaults, name.severity⟩

/-- The options that the settings of a rule give it. Options of another type than expected
count as absent. -/
def optionsOf (name : RuleName) (table : RuleSettings) : RuleOptions :=
  match name.defaults with
  | .fileHeader grammar perClause =>
      .fileHeader
        (match table.string? "organization" with
          | some organization => { organization := some organization }
          | none => grammar)
        ((table.bool? "attribute_clauses").getD perClause)
  | .functionDoc => .functionDoc
  | .forbiddenLogCall wrapper => .forbiddenLogCall ((table.string? "wrapper").getD wrapper)
  | .tooManyFunctions max => .tooManyFunctions ((table.nat? "max_functions").getD max)

/-- The rule as a project configures it. -/
def configured (settings : Settings) (name : RuleName) : Rule :=
  ⟨optionsOf name (settings.rule name.text), name.severity⟩

end Rule

end DocLint
