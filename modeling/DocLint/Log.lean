import DocLint.Text.Quoted

/-!
# Logs: what a run tells while it works

A computation that may write to the log gives its value and the lines it wrote, in order. The
lines are kept even if the value is an error. What a line says may come from the user, so
characters that a terminal takes for commands are escaped where it is written.
-/

namespace DocLint

/-- How much a line of the log matters. -/
inductive LogLevel where
  /-- Progress. -/
  | info
  /-- Something to look at. -/
  | warning
deriving DecidableEq, Repr

/-- The name of a level in the log. -/
def LogLevel.text : LogLevel → String
  | info => "INFO"
  | warning => "WARN"

/-- A line of the log. -/
structure LogLine where
  /-- How much it matters. -/
  level : LogLevel
  /-- What it says. -/
  message : String
deriving DecidableEq, Repr

/-- The code points below 128 that a terminal takes for commands: bell, backspace, form feed,
escape and delete. -/
def terminalCodes : List Nat := [0x07, 0x08, 0x0C, 0x1B, 0x7F]

/-- A character as it is written to the log. -/
def loggedChar (c : Char) : List Char :=
  if terminalCodes.contains c.toNat then
    ['\\', 'x', Nat.digitChar (c.toNat / 16), Nat.digitChar (c.toNat % 16)]
  else if 0x80 ≤ c.toNat && c.toNat ≤ 0x9F then Text.codeEscape c
  else [c]

/-- The line as it is written. -/
def LogLine.text (line : LogLine) : String :=
  line.level.text ++ " " ++ String.ofList (line.message.toList.flatMap loggedChar)

/-- A value with the lines that were written on the way to it. -/
structure Logged (α : Type) where
  /-- The lines, the first one first. -/
  log : List LogLine
  /-- The value. -/
  value : α

namespace Logged

/-- The same lines with another value. -/
def map {α β : Type} (f : α → β) (x : Logged α) : Logged β := ⟨x.log, f x.value⟩

/-- The same value after more lines. -/
def after {α : Type} (lines : List LogLine) (x : Logged α) : Logged α := ⟨lines ++ x.log, x.value⟩

end Logged

end DocLint
