import DocLint.Toml.Document
import DocLint.Violation

/-!
# Settings: what a configuration file says

A configuration is a TOML document such as

    preset = "recommended"
    fail_on = "warning"

    [analyzer]
    exclude = ["**/build/**"]

    [rules.file-header]
    organization = "Acme Widgets"

Every table under `rules` may say whether the rule is enabled and with which severity it
reports; its other keys are options of the rule. Keys that nobody asks about are ignored. A
known key with a value of the wrong type makes the whole configuration invalid.
-/

namespace DocLint

/-- The settings of a directory analysis. -/
structure AnalyzerSettings where
  /-- The directory to analyze. -/
  root : String := "."
  /-- Patterns of paths to leave out; by default build output and caches. -/
  exclude : List String := ["**/build/**", "**/.gradle/**"]
  /-- Are the ignore files of version control respected? -/
  respectIgnored : Bool := true
  /-- Does a file that cannot be parsed end the run? -/
  failOnParseError : Bool := false
deriving DecidableEq, Repr

/-- The settings of one rule. -/
structure RuleSettings where
  /-- Is the rule switched on or off? -/
  enabled : Option Bool := none
  /-- The severity with which the rule reports. -/
  severity : Option Severity := none
  /-- The options of the rule. -/
  options : List (String × Toml.Value) := []
deriving Repr

/-- The settings of a project. -/
structure Settings where
  /-- The name of a set of rules. -/
  preset : Option String := none
  /-- The least severity that makes a run fail. -/
  failOn : Option Severity := none
  /-- The settings of the analysis. -/
  analyzer : AnalyzerSettings := {}
  /-- The settings of rules, by the name of their table. -/
  rules : List (String × RuleSettings) := []
deriving Repr

/-! ## Reading -/

/-- Read a severity: its name, or a table or array that holds nothing under its name. -/
def Severity.ofToml? : Toml.Value → Option Severity
  | .string name => ofText? name
  | .table [(name, .table [])] => ofText? name
  | .table [(name, .array [])] => ofText? name
  | _ => none

/-- Read a list of strings. -/
def stringsOf? (v : Toml.Value) : Option (List String) := do
  let elements ← v.array?
  elements.mapM Toml.Value.string?

/-- The value of a field: its default if it is absent, nothing if it has the wrong type. -/
def field? {α : Type} (default : α) (read : Toml.Value → Option α) : Option Toml.Value → Option α
  | none => some default
  | some v => read v

/-- Read the settings of the analysis from its four fields. -/
def AnalyzerSettings.ofFields? (root exclude respect fail : Option Toml.Value) :
    Option AnalyzerSettings := do
  let defaults : AnalyzerSettings := {}
  return {
    root := ← field? defaults.root Toml.Value.string? root
    exclude := ← field? defaults.exclude stringsOf? exclude
    respectIgnored := ← field? defaults.respectIgnored Toml.Value.boolean? respect
    failOnParseError := ← field? defaults.failOnParseError Toml.Value.boolean? fail }

/-- Read the settings of the analysis: a table, or an array with the fields in order. -/
def AnalyzerSettings.ofToml? : Toml.Value → Option AnalyzerSettings
  | .array elements => ofFields? elements[0]? elements[1]? elements[2]? elements[3]?
  | v => do
      let entries ← v.entries?
      ofFields? (entries.lookup "root") (entries.lookup "exclude")
        (entries.lookup "respect_gitignore") (entries.lookup "fail_on_parse_error")

/-- The keys of a rule table that are not options. -/
def RuleSettings.reserved : List String := ["enabled", "severity"]

/-- Read the settings of a rule. -/
def RuleSettings.ofToml? (v : Toml.Value) : Option RuleSettings := do
  let entries ← v.entries?
  let options := entries.filter (!reserved.contains ·.1)
  guard (Toml.areSettled options)
  return {
    enabled := ← field? none (fun v => v.boolean?.map some) (entries.lookup "enabled")
    severity := ← field? none (fun v => (Severity.ofToml? v).map some) (entries.lookup "severity")
    options }

/-- Read the settings of all rules. -/
def rulesOf? (v : Toml.Value) : Option (List (String × RuleSettings)) := do
  let entries ← v.entries?
  entries.mapM fun (name, v) => do return (name, ← RuleSettings.ofToml? v)

/-- Read the settings of a document. -/
def Settings.ofEntries? (entries : List (String × Toml.Value)) : Option Settings := do
  return {
    preset := ← field? none (fun v => v.string?.map some) (entries.lookup "preset")
    failOn := ← field? none (fun v => (Severity.ofToml? v).map some) (entries.lookup "fail_on")
    analyzer := ← field? {} AnalyzerSettings.ofToml? (entries.lookup "analyzer")
    rules := ← field? [] rulesOf? (entries.lookup "rules") }

/-- Read the text of a configuration. -/
def Settings.parse? (text : String) : Option Settings := do
  Settings.ofEntries? (← Toml.parse text)

/-! ## Asking -/

namespace RuleSettings

/-- A truth value among the options. -/
def bool? (r : RuleSettings) (key : String) : Option Bool := do (← r.options.lookup key).boolean?

/-- A number among the options that is not negative. -/
def nat? (r : RuleSettings) (key : String) : Option Nat := do
  let n ← (← r.options.lookup key).integer?
  if 0 ≤ n then some n.toNat else none

/-- A text among the options. -/
def string? (r : RuleSettings) (key : String) : Option String := do
  (← r.options.lookup key).string?

end RuleSettings

namespace Settings

/-- The least severity that makes a run fail; errors if nothing is said. -/
def threshold (s : Settings) : Severity := s.failOn.getD .error

/-- The settings of a rule; a rule without a table has none. -/
def rule (s : Settings) (name : String) : RuleSettings := (s.rules.lookup name).getD {}

/-- Does a rule run? Rules run unless they are switched off. -/
def isEnabled (s : Settings) (name : String) : Bool := (s.rule name).enabled.getD true

/-- The severity a rule is to report with. -/
def severity? (s : Settings) (name : String) : Option Severity := (s.rule name).severity

/-- Order of names by code point. -/
def nameLe (a b : String) : Bool := Text.compareText a.toList b.toList != .gt

/-- The names of the tables that switch a rule on, in order. -/
def switchedOn (s : Settings) : List String :=
  ((s.rules.filter (·.2.enabled = some true)).map (·.1)).mergeSort nameLe

end Settings

end DocLint
