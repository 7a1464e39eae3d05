import ErSchema.Config
import ErSchema.Diagram
import ErSchema.Log
import ErSchema.Schema.Load
import ErSchema.Validation.Mode

/-!
# Processing a schema

A schema is loaded, validated, drawn and rendered.  Problems that validation finds are part of its
report and do not stop the work; everything else that goes wrong is an error of one of five sorts.
-/

set_option autoImplicit false

namespace ErSchema

/-- Why a schema is not processed. -/
inductive ProcessingError where
  | file (error : FileError)
  | config (error : ConfigError)
  /-- The text of the schema, `source`, is kept to show where the problems are. -/
  | load (error : Schema.LoadError) (source : String)
  | validation (fault : Fault)
  | rendering (error : RenderError)
  deriving DecidableEq, Repr

/-- The wording of an error. -/
def ProcessingError.message : ProcessingError → String
  | .file error => "I/O error: " ++ error.message
  | .config error => error.message
  | .load error _ => error.message
  | .validation fault => fault.message
  | .rendering error => error.message

/-- What becomes of a schema: its report, its diagram, and what is logged on the way. -/
structure Processed where
  report : Report
  dot : String
  log : List LogEntry
  deriving DecidableEq, Repr

/-- Loads, validates and draws the schema in a source text. -/
def processSchema (style : Style) (mode : Mode) (source : String) :
    Except ProcessingError Processed := do
  let (model, warnings) ← (Schema.load source).mapError (.load · source)
  let report ← (model.validate mode.rules).mapError .validation
  return ⟨report, model.dot style, LogEntry.ofWarnings warnings⟩

/-- The bytes of a diagram in the format of a configuration. -/
def Config.renderBy (config : Config) (program : LayoutProgram) (dot : String) :
    Except ProcessingError ByteArray :=
  (ErSchema.renderBy program dot config.engine config.format).mapError .rendering

/-- A diagram in the format of a configuration, without a layout program. -/
def Config.render (config : Config) (dot : String) : Except ProcessingError String :=
  (ErSchema.render dot config.engine config.format).mapError .rendering

end ErSchema
