import ErSchema.Schema.Elaboration
import ErSchema.Schema.Layout

/-!
# Loading schemas

Loading reads a source text as a schema document and elaborates it.
-/

set_option autoImplicit false

namespace ErSchema.Schema

/-- The extension of files that hold schema documents. -/
def fileExtension : String := "dbcs"

/-- The model that a source text describes, with the warnings about it. -/
def load (source : String) : Except LoadError (Model × List Diagnostic) :=
  match Shape.read Layout.document source with
  | .ok document => document.elaborate
  | .error fault => .error ⟨[.malformed fault]⟩

end ErSchema.Schema
