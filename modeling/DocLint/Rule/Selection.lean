import DocLint.Rule.Basic
import DocLint.Text.Quoted

/-!
# Rule selection: which rules a project runs

A preset names a set of rules. Settings choose a preset, the recommended one if they name
none or one that does not exist, and add every rule whose table switches it on. Rules that
are switched off stay in the selection; the analysis skips them.
-/

namespace DocLint

/-- A named set of rules. -/
inductive Preset where
  /-- Headers, documentation and log calls. -/
  | recommended
  /-- All rules. -/
  | strict
  /-- Headers and documentation. -/
  | minimal
deriving DecidableEq, Repr

namespace Preset

/-- All presets. -/
def all : List Preset := [recommended, strict, minimal]

/-- The name of a preset. -/
def text : Preset → String
  | recommended => "recommended"
  | strict => "strict"
  | minimal => "minimal"

/-- The preset of a name. -/
def ofText? (name : String) : Option Preset := all.find? (·.text = name)

/-- The rules of a preset. -/
def names : Preset → List RuleName
  | minimal => [.fileHeader, .functionDoc]
  | recommended => [.fileHeader, .functionDoc, .forbiddenLogCall]
  | strict => [.fileHeader, .functionDoc, .forbiddenLogCall, .tooManyFunctions]

/-- The rules of a preset as a project configures them. -/
def rules (p : Preset) (settings : Settings) : List Rule := p.names.map (Rule.configured settings)

/-- The preset that settings choose. -/
def chosen (settings : Settings) : Preset :=
  (settings.preset.bind ofText?).getD recommended

end Preset

/-- The rule with a name or a code, as a project configures it. -/
def Rule.find? (settings : Settings) (name : String) : Option Rule :=
  (RuleName.find? name).map (Rule.configured settings)

/-- Rules to run, and what to warn of. -/
structure Selection where
  /-- The rules. -/
  rules : List Rule
  /-- The warnings. -/
  warnings : List String
deriving DecidableEq, Repr

namespace Selection

/-- The tables that switch on a rule which the preset does not have under that name. -/
def extraNames (settings : Settings) : List String :=
  settings.switchedOn.filter (!((Preset.chosen settings).names.map RuleName.text).contains ·)

/-- The warning of a name that no rule has. -/
def unknownRule (name : String) : String := "Unknown rule: " ++ name

/-- The warning of a preset that does not exist. -/
def presetWarnings (settings : Settings) : List String :=
  match settings.preset with
  | none => []
  | some name =>
      if (Preset.ofText? name).isSome then []
      else ["Unknown preset " ++ Text.quoted name ++ ", using recommended"]

/-- The rules with these names. Names that no rule has are warned of. -/
def ofNames (settings : Settings) (names : List String) : Selection where
  rules := names.filterMap (Rule.find? settings)
  warnings := (names.filter fun name => (Rule.find? settings name).isNone).map unknownRule

/-- The rules that settings select. -/
def ofSettings (settings : Settings) : Selection :=
  let extra := ofNames settings (extraNames settings)
  { rules := (Preset.chosen settings).rules settings ++ extra.rules
    warnings := presetWarnings settings ++ extra.warnings }

end Selection

end DocLint
