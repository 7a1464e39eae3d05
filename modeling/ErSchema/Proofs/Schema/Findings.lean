import ErSchema.Proofs.Assembly
import ErSchema.Proofs.Lookup
import ErSchema.Proofs.Run
import ErSchema.Schema.Elaboration

/-!
# What elaboration notices

Elaboration goes through the declarations of a document in one order: entities, specializations,
relationships.  The list of what is noticed about one declaration is written down here as a function
of the state that the declaration meets, and `Document.findings` puts these lists one after the
other.

Every declaration adds its own list to the end of the diagnostics and touches nothing that was
noticed before.  So an error, once noticed, stays, and the findings alone decide the outcome
(`elaborate_of_hasError`, `elaborate_of_not_hasError`).
-/

set_option autoImplicit false

namespace ErSchema.Schema

/-- The form in which written names are compared. -/
def formal (name : WrittenName) : String :=
  Name.ofEntity name.value

/-- The entity that a declaration describes, without specializations. -/
def EntityDeclaration.toEntity (declaration : EntityDeclaration) : Entity :=
  (Entity.ofName declaration.kind declaration.name.value).addAttributes
    (toAttributes declaration.attributes)

/-- A declared entity has the formal form of its name. -/
@[simp] theorem EntityDeclaration.name_toEntity (declaration : EntityDeclaration) :
    declaration.toEntity.name = formal declaration.name :=
  Entity.name_addAttributes _ _

/-- A declared entity has the kind that was declared. -/
@[simp] theorem EntityDeclaration.kind_toEntity (declaration : EntityDeclaration) :
    declaration.toEntity.kind = declaration.kind :=
  Entity.kind_addAttributes _ _

/-- A declared entity has no specializations yet. -/
@[simp] theorem EntityDeclaration.specializations_toEntity (declaration : EntityDeclaration) :
    declaration.toEntity.specializations = [] :=
  Entity.specializations_addAttributes _ _

/-- A declared entity has the attributes that were declared. -/
@[simp] theorem EntityDeclaration.attributes_toEntity (declaration : EntityDeclaration) :
    declaration.toEntity.attributes = toAttributes declaration.attributes :=
  Entity.attributes_addAttributes _ _

/-- Declared attributes are made one by one. -/
theorem toAttributes_eq_map (declarations : List AttributeDeclaration) :
    toAttributes declarations = declarations.map AttributeDeclaration.toAttribute := by
  induction declarations with
  | nil => rw [toAttributes, List.map_nil]
  | cons first rest ih => rw [toAttributes, ih, List.map_cons]

/-- An attribute is flagged as a key when it was declared as one. -/
@[simp] theorem AttributeDeclaration.isKey_toAttribute (declaration : AttributeDeclaration) :
    declaration.toAttribute.isKey = declaration.isKey := by
  cases declaration
  rw [AttributeDeclaration.toAttribute, Attribute.isKey_addComponents, Attribute.ofName]

/-- The key of the described entity is the first declared attribute with the key flag. -/
theorem EntityDeclaration.keyPosition_toEntity (declaration : EntityDeclaration) :
    declaration.toEntity.keyPosition =
      declaration.attributes.findIdx? AttributeDeclaration.isKey := by
  rw [toEntity, Entity.keyPosition_addAttributes, toAttributes_eq_map, List.findIdx?_map]
  simp [Entity.ofName, Function.comp_def]

/-- The specialization that a declaration describes, once its references are handles. -/
def SpecializationDeclaration.withHandles (declaration : SpecializationDeclaration)
    (parent : EntityId) (derived : List EntityId) : Specialization where
  kind := declaration.kind
  parent := parent
  role := Specialization.roleOfText declaration.role
  isTotal := declaration.isTotal
  derived := derived

/-- The relationship that a declaration describes, once its links are built. -/
def RelationshipDeclaration.withLinks (declaration : RelationshipDeclaration) (links : List Link) :
    Relationship :=
  .ofName declaration.kind declaration.name.value links (toAttributes declaration.attributes)

/-! ## Lists with errors -/

/-- Whether there is an error among diagnostics. -/
def HasError (diagnostics : List Diagnostic) : Prop :=
  ∃ diagnostic ∈ diagnostics, diagnostic.severity = .error

/-- There is an error in two lists of diagnostics when there is one in either. -/
@[simp] theorem hasError_append {first second : List Diagnostic} :
    HasError (first ++ second) ↔ HasError first ∨ HasError second := by
  simp only [HasError, List.mem_append, or_and_right, exists_or]

/-- No diagnostics hold no error. -/
@[simp] theorem not_hasError_nil : ¬ HasError [] := by
  rintro ⟨_, mem, _⟩
  cases mem

/-- One diagnostic is an error when its severity says so. -/
@[simp] theorem hasError_singleton {diagnostic : Diagnostic} :
    HasError [diagnostic] ↔ diagnostic.severity = .error := by
  simp [HasError]

/-- Without an error all diagnostics are warnings. -/
theorem severity_of_not_hasError {diagnostics : List Diagnostic} (none : ¬ HasError diagnostics)
    {diagnostic : Diagnostic} (mem : diagnostic ∈ diagnostics) :
    diagnostic.severity = .warning := by
  cases severe : diagnostic.severity with
  | warning => rfl
  | error => exact absurd ⟨diagnostic, mem, severe⟩ none

/-- The check at the end of elaboration looks for an error. -/
theorem any_isError_iff {diagnostics : List Diagnostic} :
    diagnostics.any Diagnostic.isError = true ↔ HasError diagnostics := by
  simp [HasError, Diagnostic.isError]

/-- What is noticed when the model is asked for a part. -/
def refusal {α : Type} (outcome : Except ConstructionError α) (span : Option Span) :
    List Diagnostic :=
  match outcome with
  | .ok _ => []
  | .error error => [.construction error span]

/-- Every refusal is an error. -/
theorem hasError_refusal {α : Type} {outcome : Except ConstructionError α} {span : Option Span} :
    HasError (refusal outcome span) ↔ ∃ error, outcome = .error error := by
  cases outcome with
  | ok value => simp [refusal]
  | error error => simp [refusal, Diagnostic.severity, Diagnostic.code?]

namespace Elaboration

variable {state : Elaboration}

/-! ## Notes -/

/-- Noting diagnostics leaves the model as it is. -/
@[simp] theorem model_note (state : Elaboration) (diagnostics : List Diagnostic) :
    (state.note diagnostics).model = state.model := rfl

/-- Noting diagnostics leaves the index as it is. -/
@[simp] theorem index_note (state : Elaboration) (diagnostics : List Diagnostic) :
    (state.note diagnostics).index = state.index := rfl

/-- New diagnostics are noted behind the old ones. -/
@[simp] theorem diagnostics_note (state : Elaboration) (diagnostics : List Diagnostic) :
    (state.note diagnostics).diagnostics = state.diagnostics ++ diagnostics := rfl

/-! ## Names -/

/-- The names that were declared so far. -/
def names (state : Elaboration) : List String :=
  state.declared.map Prod.fst

/-- A free name is declared with its place, and what is noticed about it is noted. -/
theorem declare_of_free {name : String} (free : name ∉ state.names) (span : Span) :
    state.declare name span =
      (true,
        { state with
          declared := state.declared ++ [(name, span)]
          diagnostics := state.diagnostics ++ state.nameProblems name span }) := by
  simp [declare, note, lookup_eq_none_iff_notMem.2 free]

/-- A name that was declared before is noted and nothing else. -/
theorem declare_of_taken {name : String} (taken : name ∈ state.names) (span : Span) :
    state.declare name span = (false, state.note (state.nameProblems name span)) := by
  cases found : state.declared.lookup name with
  | none => exact absurd taken (lookup_eq_none_iff_notMem.1 found)
  | some first => simp [declare, found]

/-- Only a name that was declared before is an error; an empty name is a warning. -/
theorem hasError_nameProblems {name : String} {span : Span} :
    HasError (state.nameProblems name span) ↔ name ∈ state.names := by
  have warning : ¬ HasError (if name.isEmpty then [.emptyName span] else []) := by
    split <;> simp [Diagnostic.severity, Diagnostic.code?]
  rw [nameProblems, hasError_append, or_iff_right warning]
  cases found : state.declared.lookup name with
  | none =>
    have free : name ∉ state.names := lookup_eq_none_iff_notMem.1 found
    simp [free]
  | some first =>
    have taken : name ∈ state.names := by
      apply Decidable.of_not_not
      intro free
      rw [lookup_eq_none_iff_notMem.2 free] at found
      cases found
    simp [taken, Diagnostic.severity, Diagnostic.code?]

/-! ## Findings about one declaration -/

/-- What is noticed about an entity. -/
def entityFindings (state : Elaboration) (declaration : EntityDeclaration) : List Diagnostic :=
  state.nameProblems (formal declaration.name) declaration.name.span

/-- What is noticed about a specialization: that it has no parent, that the parent is not declared,
or else every derived entity that is not declared, and a refusal by the model. -/
def specializationFindings (state : Elaboration) (declaration : SpecializationDeclaration) :
    List Diagnostic :=
  match declaration.parent with
  | none => [.construction .missingParent (declaration.derived.head?.map Spanned.span)]
  | some reference =>
    match state.resolve reference with
    | .error diagnostic => [diagnostic]
    | .ok parent =>
      let (derived, problems) := state.resolveAll declaration.derived
      problems ++
        refusal (state.model.specialize (declaration.withHandles parent derived))
          (some reference.span)

/-- The links of a relationship whose participants are declared. -/
def linksOf (state : Elaboration) (declaration : RelationshipDeclaration) : List Link :=
  declaration.links.filterMap fun link => (state.toLink link).toOption

/-- What is noticed about a relationship: the problems of its name, and when the name is free, every
participant that is not declared, and when all are, a refusal by the model. -/
def relationshipFindings (state : Elaboration) (declaration : RelationshipDeclaration) :
    List Diagnostic :=
  state.nameProblems (formal declaration.name) declaration.name.span ++
    if formal declaration.name ∈ state.names then
      []
    else if (state.linkProblems declaration.links).isEmpty then
      refusal (state.model.addRelationship (declaration.withLinks (state.linksOf declaration)))
        (some declaration.name.span)
    else
      state.linkProblems declaration.links

/-! ## What a declaration does to the diagnostics -/

/-- An entity is added to the model and to the index when its name could be declared. -/
theorem addEntity_eq (state : Elaboration) (declaration : EntityDeclaration) :
    state.addEntity declaration =
      match state.declare declaration.toEntity.name declaration.name.span with
      | (false, state) => state
      | (true, state) =>
        { state with
          model := (state.model.addEntity declaration.toEntity).2
          index := state.index ++
            [(declaration.toEntity.name, ⟨state.model.entities.length⟩)] } := rfl

/-- An entity with a free name is added to the model and can be referred to from then on. -/
theorem addEntity_of_free {declaration : EntityDeclaration}
    (free : formal declaration.name ∉ state.names) :
    state.addEntity declaration =
      { model := (state.model.addEntity declaration.toEntity).2
        declared := state.declared ++ [(formal declaration.name, declaration.name.span)]
        index := state.index ++
          [(formal declaration.name, ⟨state.model.entities.length⟩)]
        diagnostics := state.diagnostics ++ state.entityFindings declaration } := by
  rw [addEntity_eq, declaration.name_toEntity, declare_of_free free]
  rfl

/-- An entity with a name that was declared before is only noted. -/
theorem addEntity_of_taken {declaration : EntityDeclaration}
    (taken : formal declaration.name ∈ state.names) :
    state.addEntity declaration = state.note (state.entityFindings declaration) := by
  rw [addEntity_eq, declaration.name_toEntity, declare_of_taken taken]
  rfl

/-- Handling an entity notes what is found about it. -/
theorem diagnostics_addEntity (state : Elaboration) (declaration : EntityDeclaration) :
    (state.addEntity declaration).diagnostics =
      state.diagnostics ++ state.entityFindings declaration := by
  by_cases taken : formal declaration.name ∈ state.names
  · rw [addEntity_of_taken taken, diagnostics_note]
  · rw [addEntity_of_free taken]

/-- A specialization whose references are settled is given to the model. -/
theorem addSpecialization_of_parent {declaration : SpecializationDeclaration}
    {reference : WrittenName} (given : declaration.parent = some reference) {parent : EntityId}
    (resolved : state.resolve reference = .ok parent) :
    state.addSpecialization declaration =
      { state with
        model := state.model.orKeep (state.model.specialize
          (declaration.withHandles parent (state.resolveAll declaration.derived).1))
        diagnostics := state.diagnostics ++ state.specializationFindings declaration } := by
  simp only [addSpecialization, parent?, given, resolved, Except.map, Specialization.ofParent?,
    attach, specializationFindings, Specialization.ofParent, model_note, Option.map_some,
    SpecializationDeclaration.withHandles]
  split <;> rename_i accepted <;>
    simp [accepted, refusal, Model.orKeep, note]

/-- A specialization whose parent is missing or not declared is only noted. -/
theorem addSpecialization_of_orphan {declaration : SpecializationDeclaration}
    (orphan : ∀ reference parent, declaration.parent = some reference →
      state.resolve reference ≠ .ok parent) :
    state.addSpecialization declaration =
      state.note (state.specializationFindings declaration) := by
  cases given : declaration.parent with
  | none =>
    simp [addSpecialization, parent?, specializationFindings, given, Specialization.ofParent?]
  | some reference =>
    cases resolved : state.resolve reference with
    | ok parent => exact absurd resolved (orphan reference parent given)
    | error diagnostic =>
      simp [addSpecialization, parent?, specializationFindings, given, resolved, Except.map]

/-- Everything that a specialization can do: something is noticed, and the model may take it. -/
theorem addSpecialization_cases (state : Elaboration) (declaration : SpecializationDeclaration) :
    ∃ next,
      state.addSpecialization declaration =
        { state with
          model := next
          diagnostics := state.diagnostics ++ state.specializationFindings declaration } ∧
      (next = state.model ∨ ∃ added, state.model.specialize added = .ok next) := by
  by_cases settled : ∃ reference parent, declaration.parent = some reference ∧
    state.resolve reference = .ok parent
  · obtain ⟨reference, parent, given, resolved⟩ := settled
    refine ⟨_, addSpecialization_of_parent given resolved, ?_⟩
    cases accepted : state.model.specialize
      (declaration.withHandles parent (state.resolveAll declaration.derived).1) with
    | error error => exact .inl rfl
    | ok next => exact .inr ⟨_, accepted⟩
  · refine ⟨state.model, addSpecialization_of_orphan ?_, .inl rfl⟩
    intro reference parent given resolved
    exact settled ⟨reference, parent, given, resolved⟩

/-- Handling a specialization notes what is found about it. -/
theorem diagnostics_addSpecialization (state : Elaboration)
    (declaration : SpecializationDeclaration) :
    (state.addSpecialization declaration).diagnostics =
      state.diagnostics ++ state.specializationFindings declaration := by
  obtain ⟨next, same, -⟩ := addSpecialization_cases state declaration
  rw [same]

/-- A relationship is added to the model when its name could be declared and its links have no
problems. -/
theorem addRelationship_eq (state : Elaboration) (declaration : RelationshipDeclaration) :
    state.addRelationship declaration =
      match state.declare (formal declaration.name) declaration.name.span with
      | (false, state) => state
      | (true, state') =>
        if (state'.linkProblems declaration.links).isEmpty then
          match state'.model.addRelationship
            (declaration.withLinks (state.linksOf declaration)) with
          | .ok (_, model) => { state' with model }
          | .error error => state'.note [.construction error (some declaration.name.span)]
        else
          state'.note (state'.linkProblems declaration.links) := rfl

/-- A relationship with a name that was declared before is only noted. -/
theorem addRelationship_of_taken {declaration : RelationshipDeclaration}
    (taken : formal declaration.name ∈ state.names) :
    state.addRelationship declaration = state.note (state.relationshipFindings declaration) := by
  rw [addRelationship_eq, declare_of_taken taken, relationshipFindings, if_pos taken,
    List.append_nil]

/-- A relationship with a free name has its name declared, and it is given to the model when its
participants are declared. -/
theorem addRelationship_of_free {declaration : RelationshipDeclaration}
    (free : formal declaration.name ∉ state.names) :
    state.addRelationship declaration =
      { state with
        model :=
          if (state.linkProblems declaration.links).isEmpty then
            state.model.orKeep ((state.model.addRelationship
              (declaration.withLinks (state.linksOf declaration))).map Prod.snd)
          else
            state.model
        declared := state.declared ++ [(formal declaration.name, declaration.name.span)]
        diagnostics := state.diagnostics ++ state.relationshipFindings declaration } := by
  rw [addRelationship_eq, declare_of_free free, relationshipFindings, if_neg free]
  -- declaring a name changes neither the index nor the model
  change (if (state.linkProblems declaration.links).isEmpty then _ else _) = _
  split
  case isTrue =>
    cases accepted : state.model.addRelationship
      (declaration.withLinks (state.linksOf declaration)) with
    | ok issued => simp [refusal, Model.orKeep, Except.map]
    | error error => simp [refusal, Model.orKeep, Except.map, note]
  case isFalse => simp [note, linkProblems, toLink, resolve]

/-- Everything that a relationship with a free name can do: its name is declared, something is
noticed, and the model may take it. -/
theorem addRelationship_cases {declaration : RelationshipDeclaration}
    (free : formal declaration.name ∉ state.names) :
    ∃ next,
      state.addRelationship declaration =
        { state with
          model := next
          declared := state.declared ++ [(formal declaration.name, declaration.name.span)]
          diagnostics := state.diagnostics ++ state.relationshipFindings declaration } ∧
      (next = state.model ∨ ∃ id, state.model.addRelationship
        (declaration.withLinks (state.linksOf declaration)) = .ok (id, next)) := by
  refine ⟨_, addRelationship_of_free free, ?_⟩
  split
  case isTrue =>
    cases accepted : state.model.addRelationship
      (declaration.withLinks (state.linksOf declaration)) with
    | error error => exact .inl rfl
    | ok issued => exact .inr ⟨issued.1, rfl⟩
  case isFalse => exact .inl rfl

/-- Handling a relationship notes what is found about it. -/
theorem diagnostics_addRelationship (state : Elaboration)
    (declaration : RelationshipDeclaration) :
    (state.addRelationship declaration).diagnostics =
      state.diagnostics ++ state.relationshipFindings declaration := by
  by_cases taken : formal declaration.name ∈ state.names
  · rw [addRelationship_of_taken taken, diagnostics_note]
  · rw [addRelationship_of_free taken]

/-! ## Findings about a document -/

/-- What is noticed about declarations that are handled one after the other. -/
def findingsAlong {α : Type} (add : Elaboration → α → Elaboration)
    (findings : Elaboration → α → List Diagnostic) (state : Elaboration) :
    List α → List Diagnostic
  | [] => []
  | declaration :: rest =>
    findings state declaration ++ findingsAlong add findings (add state declaration) rest

/-- When every declaration adds its findings, all of them together add theirs. -/
theorem diagnostics_foldl {α : Type} {add : Elaboration → α → Elaboration}
    {findings : Elaboration → α → List Diagnostic}
    (adds : ∀ state declaration,
      (add state declaration).diagnostics = state.diagnostics ++ findings state declaration)
    (state : Elaboration) (declarations : List α) :
    (declarations.foldl add state).diagnostics =
      state.diagnostics ++ findingsAlong add findings state declarations := by
  induction declarations generalizing state with
  | nil => simp [findingsAlong]
  | cons declaration rest ih =>
    rw [List.foldl_cons, ih, adds, findingsAlong, List.append_assoc]

/-- The state when all entities are handled. -/
def afterEntities (document : Document) : Elaboration :=
  document.entities.foldl addEntity (start document)

/-- The state when all entities and specializations are handled. -/
def afterSpecializations (document : Document) : Elaboration :=
  document.specializations.foldl addSpecialization (afterEntities document)

/-- The state at the end comes from handling the relationships last. -/
theorem run_eq (document : Document) :
    run document = document.relationships.foldl addRelationship (afterSpecializations document) :=
  rfl

end Elaboration

open Elaboration

/-- Everything that is noticed about a document, in the order in which it is noticed. -/
def Document.findings (document : Document) : List Diagnostic :=
  findingsAlong addEntity entityFindings (start document) document.entities ++
    findingsAlong addSpecialization specializationFindings (afterEntities document)
      document.specializations ++
    findingsAlong addRelationship relationshipFindings (afterSpecializations document)
      document.relationships

/-- Elaboration keeps all findings. -/
theorem diagnostics_run (document : Document) :
    (run document).diagnostics = document.findings := by
  rw [run_eq, diagnostics_foldl diagnostics_addRelationship, afterSpecializations,
    diagnostics_foldl diagnostics_addSpecialization, afterEntities,
    diagnostics_foldl diagnostics_addEntity]
  rfl

/-- A document with an error among its findings is refused with all of them. -/
theorem elaborate_of_hasError {document : Document} (error : HasError document.findings) :
    document.elaborate = .error ⟨document.findings⟩ := by
  rw [Document.elaborate, finish, diagnostics_run, if_pos (any_isError_iff.2 error)]

/-- A document without an error among its findings is accepted with all of them. -/
theorem elaborate_of_not_hasError {document : Document} (none : ¬ HasError document.findings) :
    document.elaborate = .ok ((run document).model, document.findings) := by
  rw [Document.elaborate, finish, diagnostics_run, if_neg (mt any_isError_iff.1 none)]

end ErSchema.Schema
