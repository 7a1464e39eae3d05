import ErSchema.FileSystem.Error
import ErSchema.Rendering
import ErSchema.Shape
import ErSchema.Style

/-!
# Configuration

A configuration chooses the layout engine, the output format and the style of diagrams.  It is read
from a TOML file with two tables, in which everything may be left out.
-/

set_option autoImplicit false

namespace ErSchema

/-- The choices of a run. -/
structure Config where
  engine : LayoutEngine := .neato
  format : OutputFormat := .png
  style : Style := {}
  deriving DecidableEq, Repr, Inhabited

/-- A configuration file that cannot be used. -/
inductive ConfigError where
  | notFound (path : String)
  | unreadable (path : String) (error : FileError)
  /-- The text of the file, `source`, is kept to show where the fault is. -/
  | invalid (path : String) (fault : SourceFault) (source : String)
  deriving DecidableEq, Repr

/-- The wording of a configuration error. -/
def ConfigError.message : ConfigError → String
  | .notFound path => "Configuration file " ++ path ++ " does not exist"
  | .unreadable path error =>
    "Failed to read configuration file " ++ path ++ ": " ++ error.message
  | .invalid path fault _ => "Invalid configuration file " ++ path ++ ": " ++ fault.message

namespace Config

open Shape

/-- A layout engine. -/
def engineDecoder : Decoder LayoutEngine :=
  alternative (LayoutEngine.all.map fun engine => (engine.text, engine))

/-- An output format. -/
def formatDecoder : Decoder OutputFormat :=
  alternative (OutputFormat.all.map fun format => (format.extension, format))

/-- The table of the engine and the format; `base` supplies what is left out. -/
def renderDecoder (base : Config) : Decoder Config :=
  record "RenderConfig"
    [field "engine" .defaulted engineDecoder fun engine config => { config with engine },
      field "format" .defaulted formatDecoder fun format config => { config with format }]
    base

/-- The table of the style. -/
def styleDecoder : Decoder Style :=
  record "StyleConfig"
    [field "entity_fill" .defaulted text fun entityFill style => { style with entityFill },
      field "attribute_fill" .defaulted text
        fun attributeFill style => { style with attributeFill },
      field "relationship_fill" .defaulted text
        fun relationshipFill style => { style with relationshipFill },
      field "specialization_fill" .defaulted text
        fun specializationFill style => { style with specializationFill },
      field "overlap" .defaulted text fun overlap style => { style with overlap }]
    {}

/-- A whole configuration. -/
def decoder : Decoder Config :=
  record "AppConfig"
    [field "render" .defaulted (renderDecoder {})
        fun render config => { config with engine := render.engine, format := render.format },
      field "style" .defaulted styleDecoder fun style config => { config with style }]
    {}

/-- The configuration in the text of the file at `path`. -/
def ofToml (path source : String) : Except ConfigError Config :=
  (Shape.read decoder source).mapError fun fault => .invalid path fault source

end Config

end ErSchema
