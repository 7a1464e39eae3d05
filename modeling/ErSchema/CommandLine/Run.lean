import ErSchema.CommandLine.Arguments
import ErSchema.FileSystem.Access
import ErSchema.Notice
import ErSchema.Path

/-!
# Running a command line

A run finds its configuration and then processes the schemas one after the other.  Each schema is
validated, and its diagram is written as a DOT file and, in another format, as an image.  A schema
that fails is recorded, and the run goes on with the next.
-/

set_option autoImplicit false

namespace ErSchema.CommandLine

/-- Where a run looks for its configuration, apart from the command line. -/
structure Surroundings where
  /-- The absolute path of the working directory. -/
  workingDirectory : String
  /-- The path in the environment variable for configuration files, if it is set. -/
  configVariable : Option String
  /-- The directory for the user's configuration, if there is one. -/
  userDirectory : Option String
  deriving DecidableEq, Repr

/-- The environment variable that names a configuration file. -/
def configVariableName : String := "EERKIT_CONFIG"

/-- The name of the configuration file of a working directory. -/
def localConfigName : String := "eerkit.toml"

/-- The name of the user's configuration file. -/
def userConfigName : String := "config.toml"

/-- A place where a configuration file may be. -/
structure Candidate where
  path : String
  /-- Whether the user named the file, which then has to exist. -/
  isExplicit : Bool
  deriving DecidableEq, Repr

/-- The places of configuration files, the most important first: the command line, the environment
variable, the working directory and the user's directory. -/
def candidates (surroundings : Surroundings) (flag : Option String) : List Candidate :=
  (flag.map (⟨·, true⟩)).toList ++
    (surroundings.configVariable.map (⟨·, true⟩)).toList ++
    [⟨Path.join surroundings.workingDirectory localConfigName, false⟩] ++
    (surroundings.userDirectory.map fun directory =>
      ⟨Path.join directory userConfigName, false⟩).toList

/-- A schema that could not be processed. -/
structure Failure where
  path : String
  error : ProcessingError
  deriving DecidableEq, Repr

/-- What a run prints and logs. -/
structure Transcript where
  output : String := ""
  errorOutput : String := ""
  log : List LogEntry := []
  deriving DecidableEq, Repr, Inhabited

/-- One transcript after another. -/
def Transcript.append (first second : Transcript) : Transcript :=
  ⟨first.output ++ second.output, first.errorOutput ++ second.errorOutput, first.log ++ second.log⟩

/-- What a run leaves behind besides files: its transcript, and its failures or the error that kept
it from starting. -/
structure Outcome where
  result : Except ConfigError (List Failure)
  transcript : Transcript

/-- The path of the file that a schema gives rise to. -/
def outputPath (input : String) (outDir : Option String) (extension : String) : String :=
  let file := Path.withExtension ((Path.fileName? input).getD input) extension
  match outDir with
  | some directory => Path.join directory file
  | none => Path.withFileName input file

/-- The lines that tell about the report on a schema: the counts always, and the whole report when
it holds a problem. -/
def announce (path : String) (report : Report) : Transcript where
  output := path ++ ": " ++ report.summary ++ "\n"
  errorOutput := if report.isSuccess then "" else path ++ ":\n" ++ report.text ++ "\n"

section Run

variable {m : Type → Type} [Monad m] (files : FileAccess m)

/-- The first candidate that is a file.  A file that the user named must exist. -/
def locate : List Candidate → m (Except ConfigError (Option String))
  | [] => return .ok none
  | candidate :: rest => do
    if ← files.isFile candidate.path then
      return .ok (some candidate.path)
    else if candidate.isExplicit then
      return .error (.notFound candidate.path)
    else
      locate rest

/-- The configuration in a file. -/
def readConfig (path : String) : m (Except ConfigError Config) := do
  match ← files.readText path with
  | .error error => return .error (.unreadable path error)
  | .ok source => return Config.ofToml path source

/-- The configuration of a run, or the defaults where there is no file. -/
def loadConfig (surroundings : Surroundings) (flag : Option String) :
    m (Except ConfigError Config) := do
  match ← locate files (candidates surroundings flag) with
  | .error error => return .error error
  | .ok none => return .ok {}
  | .ok (some path) => readConfig files path

section Batch

variable (program : LayoutProgram) (config : Config)

/-- Writes the diagram of a schema as a DOT file and, in another format, as an image. -/
def writeDiagram (outDir : Option String) (path dot : String) :
    m (Except ProcessingError Unit) := do
  match ← files.write (outputPath path outDir OutputFormat.dot.extension) dot.toUTF8 with
  | .error error => return .error (.file error)
  | .ok () =>
    if config.format = .dot then
      return .ok ()
    else
      match config.renderBy program dot with
      | .error error => return .error error
      | .ok image =>
        let written ← files.write (outputPath path outDir config.format.extension) image
        return written.mapError .file

/-- Processes the schema at a path. -/
def processFile (mode : Mode) (outDir : Option String) (path : String) :
    m (Except ProcessingError Unit × Transcript) := do
  match ← files.readText path with
  | .error error => return (.error (.file error), {})
  | .ok source =>
    match processSchema config.style mode source with
    | .error error => return (.error error, {})
    | .ok processed =>
      let transcript := { announce path processed.report with log := processed.log }
      return (← writeDiagram files program config outDir path processed.dot, transcript)

/-- Processes one input, and records it when it fails. -/
def processInput (arguments : Arguments) (input : String) : m (List Failure × Transcript) := do
  let path := Path.withExtension input Schema.fileExtension
  match ← processFile files program config arguments.mode arguments.outDir path with
  | (.ok (), transcript) => return ([], transcript)
  | (.error error, transcript) =>
    return ([⟨path, error⟩], transcript.append { log := [.schemaFailed path] })

/-- Processes inputs one after the other. -/
def processInputs (arguments : Arguments) : List String → m (List Failure × Transcript)
  | [] => return ([], {})
  | input :: rest => do
    let (failures, transcript) ← processInput files program config arguments input
    let (laterFailures, laterTranscript) ← processInputs arguments rest
    return (failures ++ laterFailures, transcript.append laterTranscript)

end Batch

/-- The configuration of a run, with what the command line changes in it. -/
def Arguments.amend (arguments : Arguments) (config : Config) : Config :=
  { config with
    engine := arguments.engine.getD config.engine
    format := arguments.format.getD config.format }

/-- Runs a command line, with a layout program if the system has one. -/
def run (surroundings : Surroundings) (arguments : Arguments)
    (program : LayoutProgram := .unavailable) : m Outcome := do
  match ← loadConfig files surroundings arguments.config with
  | .error error => return ⟨.error error, {}⟩
  | .ok config =>
    let (failures, transcript) ←
      processInputs files program (arguments.amend config) arguments arguments.inputs
    return ⟨.ok failures, transcript⟩

end Run

end ErSchema.CommandLine
