import ErSchema.Schema.Diagnostic
import ErSchema.Text.Quoted
import ErSchema.Validation.Report

/-!
# Log entries

What is worth a line in a log although it does not end the work.  An entry is written as its level,
a fixed message and named values.
-/

set_option autoImplicit false

namespace ErSchema

/-- An entry of a log. -/
inductive LogEntry where
  /-- A schema was loaded in spite of a problem. -/
  | schemaWarning (diagnostic : Schema.Diagnostic)
  /-- A schema could not be processed. -/
  | schemaFailed (path : String)
  /-- A rule failed to run. -/
  | ruleFailed (fault : Fault)
  deriving DecidableEq, Repr

/-- An entry as one line. -/
def LogEntry.text : LogEntry → String
  | .schemaWarning diagnostic => "WARN Schema warning diagnostic=" ++ diagnostic.text
  | .schemaFailed path => "WARN Schema failed path=" ++ path
  | .ruleFailed fault =>
    "ERROR Rule failed to run rule=" ++ fault.rule ++ " err=" ++ Text.Quoted.encode fault.cause

/-- How much of a log is shown. -/
inductive LogLevel where
  | off
  | error
  | warn
  | info
  | debug
  | trace
  deriving DecidableEq, Repr

namespace LogLevel

/-- The names of the levels. -/
def all : List (String × LogLevel) :=
  [("off", .off), ("error", .error), ("warn", .warn), ("info", .info), ("debug", .debug),
    ("trace", .trace)]

/-- The level that a text names, in any mixture of ASCII case. -/
def ofText? (text : String) : Option LogLevel :=
  all.lookup text.toLower

/-- Whether entries of a level are shown under a limit. -/
def admits (limit level : LogLevel) : Bool :=
  level.ctorIdx ≤ limit.ctorIdx

end LogLevel

/-- The level of an entry. -/
def LogEntry.level : LogEntry → LogLevel
  | .schemaWarning _ | .schemaFailed _ => .warn
  | .ruleFailed _ => .error

/-- What a validation leaves in the log: the fault that ended it, if there was one. -/
def LogEntry.ofValidation : Except Fault Report → List LogEntry
  | .ok _ => []
  | .error fault => [.ruleFailed fault]

/-- What loading a schema leaves in the log: the warnings about a schema that was accepted. -/
def LogEntry.ofWarnings (warnings : List Schema.Diagnostic) : List LogEntry :=
  warnings.map .schemaWarning

end ErSchema
