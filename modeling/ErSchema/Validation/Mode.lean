import ErSchema.Unicode.Lowercase
import ErSchema.Validation.Report

/-!
# Validation modes

A mode is a named list of rules.
-/

set_option autoImplicit false

namespace ErSchema

/-- Which rules are run. -/
inductive Mode where
  /-- Keys, participants and identification. -/
  | basic
  /-- The basic rules, the members of specializations and the kinds of keys. -/
  | strict
  deriving DecidableEq, Repr, Inhabited

namespace Mode

/-- The rules of the basic mode. -/
def basicRules : List Rule :=
  [.entityKey, .relationshipDegree, .weakEntityIdentification]

/-- The rules of a mode, in the order in which they run. -/
def rules : Mode → List Rule
  | .basic => basicRules
  | .strict => basicRules ++ [.specializationMembers, .keyAttributeKind]

/-- The name of a mode. -/
def text : Mode → String
  | .basic => "basic"
  | .strict => "strict"

/-- The mode that a text names, in any case, or the wording of the error. -/
def ofText (text : String) : Except String Mode :=
  match Unicode.lowercase text with
  | "basic" => .ok .basic
  | "strict" => .ok .strict
  | _ => .error ("Unknown mode: " ++ text ++ ". Valid options: basic, strict")

end Mode

end ErSchema
