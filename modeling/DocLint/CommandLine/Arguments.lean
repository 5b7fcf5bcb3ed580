import DocLint.Rule.Selection

/-!
# Command-line arguments

The first argument that is no option names the command. Options may stand anywhere, in a long
or a short form, with their value after an equals sign, in the next argument or, in the short
form, right behind the letter; letters of options without a value may share a dash. After `--`
nothing is an option any more.

Arguments are read from left to right and the first one that is wrong ends the reading, as does
the first one that asks for help or for the version.
-/

namespace DocLint.CommandLine

/-- How a report is printed. -/
inductive OutputFormat where
  /-- A paragraph for each violation and a summary. -/
  | text
  /-- The whole report as JSON. -/
  | json
  /-- A line for each violation. -/
  | compact
  /-- The marked source of each violation and a summary. -/
  | pretty
deriving DecidableEq, Repr

namespace OutputFormat

/-- All formats. -/
def all : List OutputFormat := [text, json, compact, pretty]

/-- The name of a format. -/
def name : OutputFormat → String
  | text => "text"
  | json => "json"
  | compact => "compact"
  | pretty => "pretty"

/-- The format of a name. -/
def ofName? (s : String) : Option OutputFormat := all.find? (·.name = s)

end OutputFormat

/-- The options. -/
inductive Flag where
  /-- Say more in the log. -/
  | verbose
  /-- The settings file. -/
  | config
  /-- How the report is printed. -/
  | format
  /-- The only rules to run. -/
  | rules
  /-- A pattern of paths to leave out. -/
  | exclude
  /-- The set of rules. -/
  | preset
  /-- The least severity that makes the run fail. -/
  | failOn
  /-- Write over an existing file. -/
  | force
  /-- Ask for help. -/
  | help
  /-- Ask for the version. -/
  | version
deriving DecidableEq, Repr

namespace Flag

/-- The long form, without its dashes. -/
def long : Flag → String
  | verbose => "verbose"
  | config => "config"
  | format => "format"
  | rules => "rules"
  | exclude => "exclude"
  | preset => "preset"
  | failOn => "fail-on"
  | force => "force"
  | help => "help"
  | version => "version"

/-- The letter of the short form. -/
def short? : Flag → Option Char
  | verbose => some 'v'
  | config => some 'c'
  | format => some 'f'
  | exclude => some 'e'
  | help => some 'h'
  | version => some 'V'
  | _ => none

/-- Does the option have a value? -/
def takesValue : Flag → Bool
  | config | format | rules | exclude | preset | failOn => true
  | verbose | force | help | version => false

/-- The options that come in front of the command. -/
def ofProgram : List Flag := [verbose, config, help, version]

/-- The options of every command. -/
def ofEveryCommand : List Flag := [verbose, config, help]

/-- The options of a check. -/
def ofCheck : List Flag := ofEveryCommand ++ [format, rules, exclude, preset, failOn]

end Flag

/-- Why the reading ends without a command. -/
inductive Stop where
  /-- Help is asked for. -/
  | help
  /-- The version is asked for. -/
  | version
  /-- The arguments are wrong. -/
  | usage
deriving DecidableEq, Repr

/-- What the arguments say so far. -/
structure Choices where
  /-- Is the log to say more? -/
  verbose : Bool := false
  /-- The settings file. -/
  config : Option String := none
  /-- How the report is printed. -/
  format : Option OutputFormat := none
  /-- The only rules to run, separated by commas. -/
  rules : Option String := none
  /-- Patterns of paths to leave out. -/
  exclude : List String := []
  /-- The set of rules. -/
  preset : Option String := none
  /-- The least severity that makes the run fail. -/
  failOn : Option Severity := none
  /-- Is an existing file written over? -/
  force : Bool := false
  /-- The path to work on. -/
  path : Option String := none
deriving DecidableEq, Repr

namespace Choices

/-- Take a choice that can be made once and has a valid value. -/
def once {α β : Type} (old new : Option α) (result : β) : Except Stop β :=
  if old.isNone && new.isSome then .ok result else .error .usage

/-- Take a choice that can be made once. -/
def onceOn {β : Type} (old : Bool) (result : β) : Except Stop β :=
  if old then .error .usage else .ok result

/-- Take an option without a value. -/
def takeFlag (c : Choices) : Flag → Except Stop Choices
  | .help => .error .help
  | .version => .error .version
  | .verbose => onceOn c.verbose { c with verbose := true }
  | .force => onceOn c.force { c with force := true }
  | _ => .error .usage

/-- A path that may be given: not the empty one. -/
def pathOf? (value : String) : Option String := if value.isEmpty then none else some value

/-- Take an option with its value. -/
def takeValue (c : Choices) (flag : Flag) (value : String) : Except Stop Choices :=
  match flag with
  | .config => once c.config (pathOf? value) { c with config := some value }
  | .format =>
      let format := OutputFormat.ofName? value
      once c.format format { c with format }
  | .rules => once c.rules (some value) { c with rules := some value }
  | .exclude => .ok { c with exclude := c.exclude ++ [value] }
  | .preset =>
      once c.preset ((Preset.ofText? value).map Preset.text) { c with preset := some value }
  | .failOn =>
      let failOn := Severity.ofText? value
      once c.failOn failOn { c with failOn }
  | _ => .error .usage

/-- Take an argument that is no option, where one is expected. -/
def takePath (c : Choices) (expected : Bool) (value : String) : Except Stop Choices :=
  if expected then once c.path (pathOf? value) { c with path := some value }
  else .error .usage

end Choices

/-! ## Options -/

/-- Does an argument have the form of an option? -/
def looksLikeOption (arg : String) : Bool :=
  match arg.toList with
  | '-' :: _ :: _ => true
  | _ => false

/-- What an argument with options leads to: all of it is taken, or the last option waits for its
value. -/
inductive Reading where
  /-- All options are taken. -/
  | complete (choices : Choices)
  /-- An option has its value in the next argument. -/
  | waiting (choices : Choices) (flag : Flag)

/-- Read an option in its long form, after the dashes. -/
def readLong (allowed : List Flag) (c : Choices) (body : List Char) : Except Stop Reading :=
  let name := body.takeWhile (· ≠ '=')
  match allowed.find? (·.long.toList = name), body.drop name.length with
  | none, _ => .error .usage
  | some flag, '=' :: value =>
      if flag.takesValue then .complete <$> c.takeValue flag (String.ofList value)
      else .error .usage
  | some flag, _ =>
      if flag.takesValue then .ok (.waiting c flag) else .complete <$> c.takeFlag flag

/-- Read options in their short form, after the dash. -/
def readShort (allowed : List Flag) (c : Choices) : List Char → Except Stop Reading
  | [] => .ok (.complete c)
  | letter :: rest =>
      match allowed.find? (·.short? = some letter) with
      | none => .error .usage
      | some flag =>
          if flag.takesValue then
            match rest with
            | [] => .ok (.waiting c flag)
            | '=' :: value => .complete <$> c.takeValue flag (String.ofList value)
            | value => .complete <$> c.takeValue flag (String.ofList value)
          else
            match c.takeFlag flag with
            | .error stop => .error stop
            | .ok c => readShort allowed c rest

/-- Read an argument that has the form of an option. -/
def readOption (allowed : List Flag) (c : Choices) (arg : String) : Except Stop Reading :=
  match arg.toList with
  | '-' :: '-' :: body => readLong allowed c body
  | '-' :: letters => readShort allowed c letters
  | _ => .error .usage

/-! ## Arguments -/

/-- Read the options in front of a command, and give what is left from the command on. -/
def readProgram : Choices → List String → Except Stop (Choices × List String)
  | c, [] => .ok (c, [])
  | c, arg :: rest =>
      if arg = "--" then .error .usage
      else if looksLikeOption arg then
        match readOption Flag.ofProgram c arg with
        | .error stop => .error stop
        | .ok (.complete c) => readProgram c rest
        | .ok (.waiting c flag) =>
            match rest with
            | [] => .error .usage
            | value :: more =>
                if looksLikeOption value then .error .usage
                else match c.takeValue flag value with
                  | .error stop => .error stop
                  | .ok c => readProgram c more
      else .ok (c, arg :: rest)

/-- Read the arguments of a command. -/
def readCommand (allowed : List Flag) (path : Bool) : Choices → List String → Except Stop Choices
  | c, [] => .ok c
  | c, arg :: rest =>
      if arg = "--" then rest.foldlM (·.takePath path) c
      else if looksLikeOption arg then
        match readOption allowed c arg with
        | .error stop => .error stop
        | .ok (.complete c) => readCommand allowed path c rest
        | .ok (.waiting c flag) =>
            match rest with
            | [] => .error .usage
            | value :: more =>
                if looksLikeOption value then .error .usage
                else match c.takeValue flag value with
                  | .error stop => .error stop
                  | .ok c => readCommand allowed path c more
      else match c.takePath path arg with
        | .error stop => .error stop
        | .ok c => readCommand allowed path c rest

/-! ## Commands -/

/-- What a check is asked to do. -/
structure CheckRequest where
  /-- The directory or file to check. -/
  path : String
  /-- The settings file to use. -/
  config : Option String := none
  /-- How the report is printed. -/
  format : OutputFormat := .text
  /-- The only rules to run, separated by commas. -/
  rules : Option String := none
  /-- Patterns of paths to leave out. -/
  exclude : List String := []
  /-- The set of rules, in place of that of the settings. -/
  preset : Option String := none
  /-- The least severity that makes the run fail, in place of that of the settings. -/
  failOn : Option Severity := none
deriving DecidableEq, Repr

/-- A command. -/
inductive Command where
  /-- Check sources. -/
  | check (request : CheckRequest)
  /-- List the rules. -/
  | listRules
  /-- Write a settings file to start from. -/
  | init (force : Bool)
deriving DecidableEq, Repr

/-- The check that choices ask for. -/
def Choices.checkRequest (program own : Choices) : CheckRequest where
  path := own.path.getD "."
  config := own.config.or program.config
  format := own.format.getD .text
  rules := own.rules
  exclude := own.exclude
  preset := own.preset
  failOn := own.failOn

/-- The names of the commands. -/
def commandNames : List String := ["check", "list-rules", "init", "help"]

/-- Read the arguments of `help`: nothing, or the name of one command. -/
def readHelp : List String → Stop
  | [] => .help
  | [name] => if commandNames.contains name then .help else .usage
  | _ => .usage

/-- Read the arguments of a program. -/
def Command.parse (args : List String) : Except Stop Command := do
  match ← readProgram {} args with
  | (program, name :: rest) =>
      match name with
      | "check" => return .check (program.checkRequest (← readCommand Flag.ofCheck true {} rest))
      | "list-rules" =>
          let _ ← readCommand Flag.ofEveryCommand false {} rest
          return .listRules
      | "init" =>
          return .init (← readCommand (Flag.ofEveryCommand ++ [.force]) false {} rest).force
      | "help" => .error (readHelp rest)
      | _ => .error .usage
  | (_, []) => .error .usage

end DocLint.CommandLine
