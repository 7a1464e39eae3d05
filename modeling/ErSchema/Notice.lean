import ErSchema.Processing

/-!
# Notices

A notice is a problem in the form in which a terminal shows it: with a code, a remedy and, where
there is a source text, the places in that text.  A schema that fails to load gives one notice for
each of its diagnostics, every other error gives one notice.
-/

set_option autoImplicit false

namespace ErSchema

/-- A place in a source text with a remark. -/
structure NoticeLabel where
  offset : Nat
  length : Nat
  text : String
  isPrimary : Bool
  deriving DecidableEq, Repr

/-- A problem as it is shown. -/
structure Notice where
  code : Option String
  message : String
  severity : Option Schema.Severity
  help : Option String
  source : Option String
  /-- Places in the source text, if any are known. -/
  labels : List NoticeLabel
  deriving DecidableEq, Repr

/-- A place as it is shown. -/
def NoticeLabel.ofSpan (span : Span) (text : String) (isPrimary : Bool) : NoticeLabel :=
  ⟨span.start, span.length, text, isPrimary⟩

/-- A diagnostic as it is shown. -/
def Notice.ofDiagnostic (source : String) (diagnostic : Schema.Diagnostic) : Notice where
  code := diagnostic.code?.map Schema.Code.text
  message := diagnostic.message
  severity := some diagnostic.severity
  help := some diagnostic.help
  source := some source
  labels := diagnostic.labels.map fun label => .ofSpan label.span label.text label.isPrimary

/-- A configuration error as it is shown.  Of a file that is not TOML, or cannot be kept, only the
fault itself is shown. -/
def Notice.ofConfigError (error : ConfigError) : Notice where
  code := some "eerkit::config"
  message :=
    match error with
    | .notFound _ | .unreadable _ _ | .invalid _ (.misshapen _) _ => error.message
    | .invalid _ fault _ => fault.message
  severity := none
  help :=
    match error with
    | .notFound _ => some "check the `--config` flag and the EERKIT_CONFIG environment variable"
    | _ => none
  source :=
    match error with
    | .invalid _ _ source => some source
    | _ => none
  labels :=
    match error with
    | .invalid _ fault _ => (fault.span?.map fun span => .ofSpan span "here" true).toList
    | _ => []

/-- An error without a source text, as it is shown. -/
def Notice.plain (code message : String) (help : Option String) : Notice :=
  ⟨some code, message, none, help, none, []⟩

/-- A place as one line: the bytes it covers and the remark. -/
def NoticeLabel.line (label : NoticeLabel) : String :=
  "  at bytes " ++ toString label.offset ++ " to " ++ toString (label.offset + label.length) ++
    ": " ++ label.text

/-- A notice as lines of text: the problem, its places and the remedy. -/
def Notice.lines (notice : Notice) : List String :=
  let severity := notice.severity.getD .error
  let code := (notice.code.map fun code => "[" ++ code ++ "]").getD ""
  [severity.text ++ code ++ ": " ++ notice.message] ++ notice.labels.map NoticeLabel.line ++
    (notice.help.map ("  help: " ++ ·)).toList

/-- The notices of an error. -/
def ProcessingError.notices (error : ProcessingError) : List Notice :=
  match error with
  | .load loadError source => loadError.diagnostics.map (.ofDiagnostic source)
  | .config configError => [.ofConfigError configError]
  | .file _ => [.plain "eerkit::io" error.message none]
  | .validation _ => [.plain "eerkit::validation" error.message none]
  | .rendering _ =>
    [.plain "eerkit::render" error.message
      (some "install Graphviz, or use `--format dot` to only write the DOT file")]

end ErSchema
