import ErSchema.FileSystem.Error
import ErSchema.Unicode.Lowercase

/-!
# Rendering

A diagram is laid out by an engine and rendered in a format.  The DOT format is the text itself.
Images are made by layout programs outside of this library: `renderBy` renders with any such
program, and `render` without one, when image formats are refused.
-/

set_option autoImplicit false

namespace ErSchema

/-- The program that lays out a diagram. -/
inductive LayoutEngine where
  /-- Layers. -/
  | dot
  /-- Springs. -/
  | neato
  /-- Forces. -/
  | fdp
  /-- Forces, for large graphs. -/
  | sfdp
  /-- Circles. -/
  | circo
  /-- Rays. -/
  | twopi
  deriving DecidableEq, Repr, Inhabited

namespace LayoutEngine

/-- All engines, in the order in which messages list them. -/
def all : List LayoutEngine :=
  [.dot, .neato, .fdp, .sfdp, .circo, .twopi]

/-- The name of an engine. -/
def text : LayoutEngine → String
  | .dot => "dot"
  | .neato => "neato"
  | .fdp => "fdp"
  | .sfdp => "sfdp"
  | .circo => "circo"
  | .twopi => "twopi"

/-- The engine that a text names, in any case, or the wording of the error. -/
def ofText (text : String) : Except String LayoutEngine :=
  match all.find? (·.text == Unicode.lowercase text) with
  | some engine => .ok engine
  | none => .error ("Unknown engine: " ++ text ++ ". Valid options: " ++
      String.intercalate ", " (all.map LayoutEngine.text))

end LayoutEngine

/-- The form in which a diagram is written. -/
inductive OutputFormat where
  /-- The DOT text itself. -/
  | dot
  | png
  | svg
  | pdf
  deriving DecidableEq, Repr, Inhabited

namespace OutputFormat

/-- All formats, in the order in which messages list them. -/
def all : List OutputFormat :=
  [.dot, .png, .svg, .pdf]

/-- The extension of the files of a format, which is also its name. -/
def extension : OutputFormat → String
  | .dot => "dot"
  | .png => "png"
  | .svg => "svg"
  | .pdf => "pdf"

/-- The format that a text names, in any case, or the wording of the error.  The DOT format has a
second name. -/
def ofText (text : String) : Except String OutputFormat :=
  let name := Unicode.lowercase text
  if name = "gv" then
    .ok .dot
  else
    match all.find? (·.extension == name) with
    | some format => .ok format
    | none => .error ("Unknown format: " ++ text ++ ". Valid options: " ++
        String.intercalate ", " (all.map OutputFormat.extension))

end OutputFormat

/-- Why there is no image of a diagram. -/
inductive RenderError where
  /-- The layout program cannot be run, or does not take the diagram. -/
  | failed (engine : LayoutEngine) (error : FileError)
  /-- There is no layout program. -/
  | unsupported (format : OutputFormat)
  deriving DecidableEq, Repr

/-- The wording of a failure to render. -/
def RenderError.message : RenderError → String
  | .failed engine error => "Graphviz `" ++ engine.text ++ "` failed: " ++ error.message
  | .unsupported format =>
    "Rendering to " ++ format.extension ++ " requires the `graphviz` feature"

/-- What a layout program makes of a diagram: the bytes of an image, or an error. -/
abbrev LayoutProgram := String → LayoutEngine → OutputFormat → Except RenderError ByteArray

/-- The layout program of a system that has none. -/
def LayoutProgram.unavailable : LayoutProgram :=
  fun _ _ format => .error (.unsupported format)

/-- The bytes of a diagram in a format. -/
def renderBy (program : LayoutProgram) (dot : String) (engine : LayoutEngine)
    (format : OutputFormat) : Except RenderError ByteArray :=
  if format = .dot then .ok dot.toUTF8 else program dot engine format

/-- A diagram in a format, without a layout program. -/
def render (dot : String) (_engine : LayoutEngine) (format : OutputFormat) :
    Except RenderError String :=
  if format = .dot then .ok dot else .error (.unsupported format)

end ErSchema
