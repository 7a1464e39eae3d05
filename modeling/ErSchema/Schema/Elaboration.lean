import ErSchema.Model.Construction
import ErSchema.Schema.Declaration
import ErSchema.Schema.Diagnostic

/-!
# From documents to models

Elaboration turns the declarations of a document into a model: first all entities, then the
specializations, then the relationships, so that a reference may come before the declaration it
refers to.  A declaration with a problem is skipped, and elaboration goes on, so that all problems
are found at once.

Entities and relationships share their names.  A name counts as declared from its first declaration
on, even if that declaration is skipped for another reason.
-/

set_option autoImplicit false

namespace ErSchema.Schema

/-- How far elaboration has come. -/
structure Elaboration where
  model : Model
  /-- The place of the first declaration of every name. -/
  declared : List (String × Span)
  /-- The entities by name. -/
  index : List (String × EntityId)
  /-- What was noticed so far, in order. -/
  diagnostics : List Diagnostic

mutual

/-- The attribute that a declaration describes. -/
def AttributeDeclaration.toAttribute : AttributeDeclaration → Attribute
  | ⟨name, kind, isKey, components⟩ =>
    (Attribute.ofName kind name isKey).addComponents (toAttributes components)

/-- The attributes that declarations describe. -/
def toAttributes : List AttributeDeclaration → List Attribute
  | [] => []
  | first :: rest => first.toAttribute :: toAttributes rest

end

namespace Elaboration

/-- The start: an empty model. -/
def start (document : Document) : Elaboration :=
  ⟨.empty document.name document.description document.authors, [], [], []⟩

/-- Notes diagnostics. -/
def note (state : Elaboration) (diagnostics : List Diagnostic) : Elaboration :=
  { state with diagnostics := state.diagnostics ++ diagnostics }

/-- What is noticed about a declared name: that it is empty, and that it was declared before. -/
def nameProblems (state : Elaboration) (name : String) (span : Span) : List Diagnostic :=
  (if name.isEmpty then [.emptyName span] else []) ++
    ((state.declared.lookup name).map (.duplicate name span)).toList

/-- Declares a name, and tells whether it was free. -/
def declare (state : Elaboration) (name : String) (span : Span) : Bool × Elaboration :=
  let noted := state.note (state.nameProblems name span)
  if (state.declared.lookup name).isNone then
    (true, { noted with declared := noted.declared ++ [(name, span)] })
  else
    (false, noted)

/-- The entity that a name refers to. -/
def resolve (state : Elaboration) (reference : WrittenName) : Except Diagnostic EntityId :=
  let name := Name.ofEntity reference.value
  match state.index.lookup name with
  | some id => .ok id
  | none => .error (.undeclared name reference.span)

/-- Adds a declared entity. -/
def addEntity (state : Elaboration) (declaration : EntityDeclaration) : Elaboration :=
  let entity := (Entity.ofName declaration.kind declaration.name.value).addAttributes
    (toAttributes declaration.attributes)
  match state.declare entity.name declaration.name.span with
  | (false, state) => state
  | (true, state) =>
    let (id, model) := state.model.addEntity entity
    { state with model, index := state.index ++ [(entity.name, id)] }

/-- The references that resolve, and the diagnostics of those that do not. -/
def resolveAll (state : Elaboration) (references : List WrittenName) :
    List EntityId × List Diagnostic :=
  (references.filterMap fun reference => (state.resolve reference).toOption,
    references.filterMap fun reference =>
      match state.resolve reference with
      | .ok _ => none
      | .error diagnostic => some diagnostic)

/-- The parent of a declared specialization: none when no parent is declared. -/
def parent? (state : Elaboration) (declaration : SpecializationDeclaration) :
    Except Diagnostic (Option EntityId) :=
  match declaration.parent with
  | none => .ok none
  | some reference => (state.resolve reference).map some

/-- Attaches a specialization whose parent is settled. -/
def attach (state : Elaboration) (declaration : SpecializationDeclaration)
    (specialization : Specialization) : Elaboration :=
  let (derived, problems) := state.resolveAll declaration.derived
  let state := state.note problems
  let specialization :=
    { specialization with
      role := Specialization.roleOfText declaration.role
      isTotal := declaration.isTotal
      derived }
  match state.model.specialize specialization with
  | .ok model => { state with model }
  | .error error => state.note [.construction error (declaration.parent.map Spanned.span)]

/-- Adds a declared specialization.  One without a parent is reported at its first derived entity.
-/
def addSpecialization (state : Elaboration) (declaration : SpecializationDeclaration) :
    Elaboration :=
  match state.parent? declaration with
  | .error diagnostic => state.note [diagnostic]
  | .ok parent =>
    match Specialization.ofParent? declaration.kind parent with
    | .ok specialization => state.attach declaration specialization
    | .error error => state.note [.construction error (declaration.derived.head?.map Spanned.span)]

/-- The link that a declaration describes.  A link without a participant is kept as it is. -/
def toLink (state : Elaboration) (declaration : LinkDeclaration) : Except Diagnostic Link :=
  match declaration.entity with
  | none => .ok (.ofRole none declaration.constraint declaration.role)
  | some reference =>
    (state.resolve reference).map fun id =>
      .ofRole (some id) declaration.constraint declaration.role

/-- The diagnostics of the links whose participant is not declared. -/
def linkProblems (state : Elaboration) (declarations : List LinkDeclaration) : List Diagnostic :=
  declarations.filterMap fun declaration =>
    match state.toLink declaration with
    | .ok _ => none
    | .error diagnostic => some diagnostic

/-- Adds a declared relationship, unless a link refers to an entity that is not declared. -/
def addRelationship (state : Elaboration) (declaration : RelationshipDeclaration) : Elaboration :=
  let relationship := Relationship.ofName declaration.kind declaration.name.value
    (declaration.links.filterMap fun link => (state.toLink link).toOption)
    (toAttributes declaration.attributes)
  match state.declare relationship.name declaration.name.span with
  | (false, state) => state
  | (true, state) =>
    let problems := state.linkProblems declaration.links
    if problems.isEmpty then
      match state.model.addRelationship relationship with
      | .ok (_, model) => { state with model }
      | .error error => state.note [.construction error (some declaration.name.span)]
    else
      state.note problems

/-- The state after all declarations. -/
def run (document : Document) : Elaboration :=
  let state := document.entities.foldl addEntity (start document)
  let state := document.specializations.foldl addSpecialization state
  document.relationships.foldl addRelationship state

/-- The model together with the warnings, or all diagnostics when one of them is an error. -/
def finish (state : Elaboration) : Except LoadError (Model × List Diagnostic) :=
  if state.diagnostics.any Diagnostic.isError then
    .error ⟨state.diagnostics⟩
  else
    .ok (state.model, state.diagnostics)

end Elaboration

/-- The model that a document describes, with the warnings about it. -/
def Document.elaborate (document : Document) : Except LoadError (Model × List Diagnostic) :=
  (Elaboration.run document).finish

end ErSchema.Schema
