import ErSchema.CommandLine.Arguments
import ErSchema.Schema.Load

/-!
# Information on the command line

What is printed for a command line that is not run: the help text, the version, or what is wrong
with the arguments.  A request for information is met on the standard output and counts as a
success; a mistake is reported on the error output.
-/

set_option autoImplicit false

namespace ErSchema.CommandLine

/-- The version of the program. -/
def programVersion : String := "0.1.0"

/-- The long name of a setting. -/
def Setting.longName : Setting → String
  | .engine => "--engine"
  | .format => "--format"
  | .mode => "--mode"
  | .outDir => "--out-dir"
  | .config => "--config"
  | .logLevel => "--log-level"

/-- The long name of a request. -/
def Request.longName : Request → String
  | .help => "--help"
  | .version => "--version"

/-- How the program is called. -/
def usageLine : String := "Usage: er-schema [OPTIONS] <INPUTS>..."

/-- The help text. -/
def helpText : String :=
  String.intercalate "\n"
    ["Validate entity-relationship schemas and draw them",
      "",
      usageLine,
      "",
      "Arguments:",
      "  <INPUTS>...  Schema documents; the extension ." ++ Schema.fileExtension ++
        " may be omitted",
      "",
      "Options:",
      "  -e, --engine <ENGINE>        Layout engine: " ++
        String.intercalate ", " (LayoutEngine.all.map LayoutEngine.text),
      "  -f, --format <FORMAT>        Output format: " ++
        String.intercalate ", " (OutputFormat.all.map OutputFormat.extension),
      "  -m, --mode <MODE>            Rules to run: basic (the default), strict",
      "  -o, --out-dir <OUT_DIR>      Directory of the generated files",
      "  -c, --config <CONFIG>        Configuration file",
      "      --log-level <LOG_LEVEL>  How much is logged, info by default",
      "  -h, --help                   Print help",
      "  -V, --version                Print version"]

/-- What a request for information is answered with. -/
def Request.answer : Request → String
  | .help => helpText
  | .version => "er-schema " ++ programVersion

/-- The wording of a usage error. -/
def UsageError.message : UsageError → String
  | .requested request => request.answer
  | .noInputs => "error: no schema is given\n\n" ++ usageLine
  | .unknownOption text => "error: unexpected argument '" ++ text ++ "'\n\n" ++ usageLine
  | .missingValue setting => "error: a value is required for '" ++ setting.longName ++ "'"
  | .badValue setting message =>
    "error: invalid value for '" ++ setting.longName ++ "': " ++ message
  | .repeatedOption setting => "error: '" ++ setting.longName ++ "' is given more than once"
  | .unexpectedValue request => "error: '" ++ request.longName ++ "' takes no value"

end ErSchema.CommandLine
