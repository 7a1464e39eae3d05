import ErSchema.CommandLine.Run
import ErSchema.CommandLine.Usage

/-!
# The program

The outermost layer: it reads the command line and its surroundings, runs, and prints.  Its exit
code is 0 when every schema was processed or information was asked for, 1 when a schema or the
whole run failed, and 2 when the command line is wrong.
-/

set_option autoImplicit false

namespace ErSchema.Program

open CommandLine

/-- The number of an operating system error, which is reported with either sign. -/
def errorNumber (code : UInt32) : Nat :=
  (if code < 0x80000000 then code else 0 - code).toNat

/-- The file error that stands for a failure of the operating system. -/
def fileError : IO.Error → FileError
  | .noFileOrDirectory _ _ _ => .notFound
  | .inappropriateType _ code details =>
    if errorNumber code = 21 then .isADirectory
    else if errorNumber code = 20 then .notADirectory
    else .other details
  | .invalidArgument _ code details =>
    if errorNumber code = 36 then .nameTooLong else .other details
  | .permissionDenied _ code details =>
    .other (details ++ " (os error " ++ toString (errorNumber code) ++ ")")
  | error => .other (toString error)

/-- Runs a file operation on a path that the operating system can be given. -/
def attempt {α : Type} (path : String) (operation : IO α) : IO (Except FileError α) := do
  if path.toList.contains (Char.ofNat 0) then
    return .error .nulInPath
  else
    try
      return .ok (← operation)
    catch error =>
      return .error (fileError error)

/-- The text in bytes that were read. -/
def textOf (bytes : ByteArray) : Except FileError String :=
  match String.fromUTF8? bytes with
  | some text => .ok text
  | none => .error .notText

/-- Access to the files of the operating system. -/
def fileAccess : FileAccess IO where
  isFile path := do
    match ← attempt path (System.mkFilePath [path]).metadata with
    | .ok status => return status.type == .file
    | .error _ => return false
  readText path := do
    return (← attempt path (IO.FS.readBinFile path)) >>= textOf
  write path bytes := attempt path (IO.FS.writeBinFile path bytes)

/-- The directory for the user's configuration: the one that the environment names, which must be
absolute, or a directory in the user's home. -/
def userDirectory : IO (Option String) := do
  let base ←
    match ← IO.getEnv "XDG_CONFIG_HOME" with
    | some directory => if Path.isAbsolute directory then pure (some directory) else home
    | none => home
  return base.map (Path.join · "eerkit")
where
  home : IO (Option String) := do
    match ← IO.getEnv "HOME" with
    | some directory =>
      return if directory.isEmpty then none else some (Path.join directory ".config")
    | none => return none

/-- Where this run looks for its configuration. -/
def surroundings : IO Surroundings := do
  return {
    workingDirectory := (← IO.currentDir).toString
    configVariable := ← IO.getEnv configVariableName
    userDirectory := ← userDirectory }

/-- Prints an error as it is shown on a terminal. -/
def printError (error : ProcessingError) : IO Unit :=
  for notice in error.notices do
    for line in notice.lines do
      IO.eprintln line

/-- How much is logged.  A level that is not known is announced and replaced. -/
def logLevel (arguments : Arguments) : IO LogLevel := do
  match LogLevel.ofText? arguments.logLevel with
  | some level => return level
  | none =>
    IO.eprintln ("Invalid log level: " ++ arguments.logLevel ++ ". Using 'warn' instead.")
    return .warn

/-- Runs a command line that was understood, and answers the exit code. -/
def execute (arguments : Arguments) : IO UInt32 := do
  let limit ← logLevel arguments
  let outcome ← run fileAccess (← surroundings) arguments
  IO.print outcome.transcript.output
  IO.eprint outcome.transcript.errorOutput
  for entry in outcome.transcript.log do
    if limit.admits entry.level then IO.eprintln entry.text
  match outcome.result with
  | .error error =>
    printError (.config error)
    return 1
  | .ok [] => return 0
  | .ok failures =>
    for failure in failures do
      IO.eprintln ("Failed to process schema " ++ failure.path)
      printError failure.error
    return 1

/-- Answers a command line that is not run, with its exit code. -/
def refuse (error : UsageError) : IO UInt32 := do
  match error with
  | .requested _ =>
    IO.println error.message
    return 0
  | _ =>
    IO.eprintln error.message
    return 2

end ErSchema.Program

/-- Processes the schemas that the command line names. -/
def main (texts : List String) : IO UInt32 :=
  match ErSchema.CommandLine.Arguments.ofList texts with
  | .ok arguments => ErSchema.Program.execute arguments
  | .error error => ErSchema.Program.refuse error
