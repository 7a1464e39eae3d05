import ErSchema.Rendering
import ErSchema.Validation.Mode

/-!
# Command-line arguments

A command line names the schemas to process and sets options.  An option is given by a long name or,
except for one, by a letter, and takes one value: the next argument, or what follows the equals sign
or the letter.  Two dashes end the options.

The value of an option that is a separate argument is checked when the next option, schema or end
of the command line is reached; an unknown option before that is reported first.
-/

set_option autoImplicit false

namespace ErSchema.CommandLine

/-- What a command line asks for. -/
structure Arguments where
  inputs : List String := []
  engine : Option LayoutEngine := none
  format : Option OutputFormat := none
  mode : Mode := .basic
  outDir : Option String := none
  config : Option String := none
  logLevel : String := "info"
  deriving DecidableEq, Repr, Inhabited

/-- An option with a value. -/
inductive Setting where
  | engine
  | format
  | mode
  | outDir
  | config
  | logLevel
  deriving DecidableEq, Repr

/-- A request for information. -/
inductive Request where
  | help
  | version
  deriving DecidableEq, Repr

/-- What the name of an option stands for: a setting or a request. -/
inductive Flag where
  | setting (setting : Setting)
  | request (request : Request)
  deriving DecidableEq, Repr

/-- Why a command line is not run. -/
inductive UsageError where
  /-- Information is asked for instead of a run. -/
  | requested (request : Request)
  | noInputs
  | unknownOption (text : String)
  | missingValue (setting : Setting)
  | badValue (setting : Setting) (message : String)
  | repeatedOption (setting : Setting)
  | unexpectedValue (request : Request)
  deriving DecidableEq, Repr

/-- The long names of the options. -/
def longOptions : List (String × Flag) :=
  [("engine", .setting .engine), ("format", .setting .format), ("mode", .setting .mode),
    ("out-dir", .setting .outDir), ("config", .setting .config), ("log-level", .setting .logLevel),
    ("help", .request .help), ("version", .request .version)]

/-- The letters of the options. -/
def shortOptions : List (Char × Flag) :=
  [('e', .setting .engine), ('f', .setting .format), ('m', .setting .mode),
    ('o', .setting .outDir), ('c', .setting .config), ('h', .request .help),
    ('V', .request .version)]

/-- The arguments read so far. -/
structure Progress where
  arguments : Arguments := {}
  /-- The options that were given a value. -/
  given : List Setting := []
  /-- An option whose value is not checked yet, and its value unless it is still to come. -/
  pending : Option (Setting × Option String) := none

namespace Progress

/-- Stores the value of an option. -/
def store (arguments : Arguments) (setting : Setting) (value : String) :
    Except String Arguments :=
  match setting with
  | .engine => return { arguments with engine := some (← LayoutEngine.ofText value) }
  | .format => return { arguments with format := some (← OutputFormat.ofText value) }
  | .mode => return { arguments with mode := ← Mode.ofText value }
  | .outDir => return { arguments with outDir := some value }
  | .config => return { arguments with config := some value }
  | .logLevel => return { arguments with logLevel := value }

/-- Gives an option its value.  No option may be given twice. -/
def give (progress : Progress) (setting : Setting) (value : String) : Except UsageError Progress :=
  if progress.given.contains setting then
    throw (.repeatedOption setting)
  else
    match store progress.arguments setting value with
    | .ok arguments => return { progress with arguments, given := setting :: progress.given }
    | .error message => throw (.badValue setting message)

/-- Checks the value that is not checked yet. -/
def settle (progress : Progress) : Except UsageError Progress :=
  match progress.pending with
  | none => return progress
  | some (setting, none) => throw (.missingValue setting)
  | some (setting, some value) => { progress with pending := none }.give setting value

/-- Reads an option, with a value if one is attached to it. -/
def readFlag (progress : Progress) (flag : Flag) (attached : Option String) :
    Except UsageError Progress :=
  match flag, attached with
  | .request request, some _ => throw (.unexpectedValue request)
  | .request request, none => do
    let _ ← progress.settle
    throw (.requested request)
  | .setting setting, some value => do
    let progress ← progress.settle
    progress.give setting value
  | .setting setting, none => do
    let progress ← progress.settle
    return { progress with pending := some (setting, none) }

/-- Reads what follows the two dashes of a long option. -/
def readLong (progress : Progress) (text : List Char) : Except UsageError Progress :=
  let name := text.takeWhile (· ≠ '=')
  let attached :=
    match text.drop name.length with
    | _ :: value => some (String.ofList value)
    | [] => none
  match longOptions.lookup (String.ofList name) with
  | some flag => progress.readFlag flag attached
  | none => throw (.unknownOption (String.ofList ('-' :: '-' :: name)))

/-- The value that is attached to the letter of an option, without the equals sign before it. -/
def attachedToLetter : List Char → Option String
  | [] => none
  | '=' :: value => some (String.ofList value)
  | value => some (String.ofList value)

/-- Reads what follows the dash of a short option. -/
def readShort (progress : Progress) (letter : Char) (text : List Char) :
    Except UsageError Progress :=
  match shortOptions.lookup letter with
  | some (.setting setting) => progress.readFlag (.setting setting) (attachedToLetter text)
  | some (.request request) => progress.readFlag (.request request) none
  | none => throw (.unknownOption (String.ofList ['-', letter]))

/-- Reads an argument that is no option: the value of the option before it, or an input. -/
def readPlain (progress : Progress) (text : String) : Except UsageError Progress :=
  match progress.pending with
  | some (setting, none) => return { progress with pending := some (setting, some text) }
  | _ => do
    let progress ← progress.settle
    return { progress with
      arguments :=
        { progress.arguments with inputs := progress.arguments.inputs ++ [text] } }

/-- Reads one argument. -/
def read (progress : Progress) (text : String) : Except UsageError Progress :=
  match text.toList with
  | '-' :: '-' :: name => progress.readLong name
  | '-' :: letter :: rest => progress.readShort letter rest
  | _ => progress.readPlain text

/-- Reads all arguments; those after two dashes are inputs. -/
def readAll (progress : Progress) : List String → Except UsageError Progress
  | [] => progress.settle
  | "--" :: inputs => do
    let progress ← progress.settle
    return { progress with
      arguments := { progress.arguments with inputs := progress.arguments.inputs ++ inputs } }
  | text :: rest => do (← progress.read text).readAll rest

end Progress

/-- The arguments of a command line, given without the name of the program. -/
def Arguments.ofList (texts : List String) : Except UsageError Arguments := do
  let progress ← ({} : Progress).readAll texts
  if progress.arguments.inputs.isEmpty then throw .noInputs
  return progress.arguments

end ErSchema.CommandLine
