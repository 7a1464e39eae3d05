import ErSchema.Model.Handle
import ErSchema.Shape

/-!
# Diagnostics

A diagnostic is one problem of a schema document.  It has a severity, a message and labels that
point into the source text, the primary one first; an error also has a code.  A document with an
error is refused with all its diagnostics; warnings alone are logged.
-/

set_option autoImplicit false

namespace ErSchema.Schema

/-- How bad a problem is. -/
inductive Severity where
  | error
  | warning
  deriving DecidableEq, Repr

/-- A severity as text. -/
def Severity.text : Severity → String
  | .error => "error"
  | .warning => "warning"

/-- The classes of errors. -/
inductive Code where
  /-- The document is not TOML or has a wrong shape. -/
  | malformed
  /-- A name refers to no entity. -/
  | undefined
  /-- Two declarations have the same name. -/
  | duplicate
  /-- A specialization has no parent. -/
  | orphan
  /-- An identifying relationship has nothing to identify. -/
  | idle
  deriving DecidableEq, Repr

/-- A code as text. -/
def Code.text : Code → String
  | .malformed => "E001"
  | .undefined => "E100"
  | .duplicate => "E101"
  | .orphan => "E200"
  | .idle => "E201"

/-- What a code means, which is also the text of the primary label. -/
def Code.meaning : Code → String
  | .malformed => "malformed schema document"
  | .undefined => "undefined entity"
  | .duplicate => "duplicate definition"
  | .orphan => "specialization without parent"
  | .idle => "no weak entity to identify"

/-- How an error of a class can be mended. -/
def Code.help : Code → String
  | .malformed => "see the eerkit-loader README for the document layout"
  | .undefined => "declare it with an [[entity]] table"
  | .duplicate => "entities and relationships share one namespace"
  | .orphan => "add a `parent` naming the superclass entity"
  | .idle => "link a weak entity that no other identifying relationship identifies"

/-- The class of a construction error. -/
def Code.ofConstruction : ConstructionError → Code
  | .missingParent => .orphan
  | .unknownEntity _ => .undefined
  | .unidentifiedWeakEntity _ => .idle

/-- A place in the source text with a remark. -/
structure Label where
  span : Span
  text : String
  isPrimary : Bool
  deriving DecidableEq, Repr

/-- A problem of a schema document. -/
inductive Diagnostic where
  /-- The document cannot be read. -/
  | malformed (fault : SourceFault)
  /-- A reference to an entity that is not declared; the name is in entity form. -/
  | undeclared (name : String) (span : Span)
  /-- A name that was declared before, at `first`. -/
  | duplicate (name : String) (span first : Span)
  /-- A part that the model refuses. -/
  | construction (error : ConstructionError) (span : Option Span)
  /-- A name of which nothing is left. -/
  | emptyName (span : Span)
  deriving DecidableEq, Repr

namespace Diagnostic

/-- The code of an error. -/
def code? : Diagnostic → Option Code
  | .malformed _ => some .malformed
  | .undeclared _ _ => some .undefined
  | .duplicate _ _ _ => some .duplicate
  | .construction error _ => some (.ofConstruction error)
  | .emptyName _ => none

/-- Everything with a code is an error. -/
def severity (diagnostic : Diagnostic) : Severity :=
  if diagnostic.code?.isSome then .error else .warning

/-- Whether a diagnostic is an error. -/
def isError (diagnostic : Diagnostic) : Bool :=
  diagnostic.severity = .error

/-- The wording of a problem. -/
def message : Diagnostic → String
  | .malformed fault => fault.message
  | .undeclared name _ => "entity `" ++ name ++ "` is not declared"
  | .duplicate name _ _ => "`" ++ name ++ "` is defined multiple times"
  | .construction error _ => error.message
  | .emptyName _ => "name has no letters or digits"

/-- The place of a problem. -/
def span? : Diagnostic → Option Span
  | .malformed fault => fault.span?
  | .undeclared _ span | .duplicate _ span _ | .emptyName span => some span
  | .construction _ span => span

/-- The remark at the place of a problem. -/
def remark (diagnostic : Diagnostic) : String :=
  (diagnostic.code?.map Code.meaning).getD "normalizes to an empty name"

/-- Further places that belong to a problem. -/
def otherLabels : Diagnostic → List Label
  | .duplicate _ _ first => [⟨first, "first defined here", false⟩]
  | _ => []

/-- All labels, the primary one first. -/
def labels (diagnostic : Diagnostic) : List Label :=
  (diagnostic.span?.map fun span => ⟨span, diagnostic.remark, true⟩).toList ++
    diagnostic.otherLabels

/-- How a problem can be mended. -/
def help (diagnostic : Diagnostic) : String :=
  (diagnostic.code?.map Code.help).getD "the diagram node for it will have an empty label"

/-- A diagnostic on one line, without its labels. -/
def text (diagnostic : Diagnostic) : String :=
  diagnostic.severity.text ++
    ((diagnostic.code?.map fun code => "[" ++ code.text ++ "]").getD "") ++ ": " ++
    diagnostic.message

end Diagnostic

/-- The refusal of a document, with everything that was noticed, in order. -/
structure LoadError where
  diagnostics : List Diagnostic
  deriving DecidableEq, Repr

/-- The first diagnostic and the number of the others. -/
def LoadError.message (error : LoadError) : String :=
  match error.diagnostics with
  | [] => ""
  | [only] => only.text
  | first :: others => first.text ++ " (+" ++ toString others.length ++ " more)"

end ErSchema.Schema
