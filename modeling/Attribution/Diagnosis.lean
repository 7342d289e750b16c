import Attribution.Text.Split

/-!
What is told about an error: its own text, and the texts of its causes from the outside in.
-/

namespace Attribution

/-- An error's text followed by the texts of its causes. -/
structure Diagnosis where
  text : String
  causes : List String
  deriving DecidableEq, Repr

namespace Diagnosis

def ofText (text : String) : Diagnosis := ⟨text, []⟩

/-- An error whose text already ends with its cause. -/
def caused (before cause : String) : Diagnosis := ⟨before ++ cause, [cause]⟩

/-- Adds a cause unless what has been said contains it. -/
def mention (said cause : String) : String :=
  if Text.occursIn cause.toList said.toList then said else said ++ ": " ++ cause

/-- The whole story in one line. -/
def chain (diagnosis : Diagnosis) : String :=
  diagnosis.causes.foldl mention diagnosis.text

end Diagnosis

/-- How urgent a log line is. -/
inductive LogLevel where
  | error
  | warn
  | info
  | debug
  | trace
  deriving DecidableEq, Repr

namespace LogLevel

def name : LogLevel → String
  | error => "ERROR"
  | warn => "WARN"
  | info => "INFO"
  | debug => "DEBUG"
  | trace => "TRACE"

/-- The level of that name, in either case. -/
def parse? (text : String) : Option LogLevel :=
  [error, warn, info, debug, trace].find? fun level => level.name == text.toUpper

end LogLevel

/-- A line of the log. -/
structure LogLine where
  level : LogLevel
  text : String
  deriving DecidableEq, Repr

/-- Keeps a result's value; a failure is only logged. -/
def keepOrLog {ε α : Type} (level : LogLevel) (diagnose : ε → Diagnosis) :
    Except ε α → Option α × List LogLine
  | .ok value => (some value, [])
  | .error failure => (none, [⟨level, (diagnose failure).chain⟩])

end Attribution
