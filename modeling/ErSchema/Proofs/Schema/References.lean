import ErSchema.Proofs.Schema.Invariant
import ErSchema.Proofs.Schema.Reachability
import Mathlib.Data.List.Flatten

/-!
# Which undeclared references are reported

Elaboration looks references up in the entities that were added before, and it stops looking at a
declaration in three cases: a specialization has no parent, its parent is not declared, or the name
of a relationship was declared before.  `Document.consulted` lists the references that are looked
up, without regard to elaboration.  Each of them that is not declared has one diagnostic, in order,
and there is no other diagnostic of this kind; the references in the three cases stay hidden.

Nothing is assumed about the document, so the invariant `Indexed` must hold of states with errors as
well: the index has the names of all declared entities, also of those that are declared again, and
all its handles were issued by the model.
-/

set_option autoImplicit false

namespace ErSchema.Schema

/-! ## References -/

/-- The references of a specialization: its parent and its derived entities. -/
def SpecializationDeclaration.references (declaration : SpecializationDeclaration) :
    List WrittenName :=
  declaration.parent.toList ++ declaration.derived

/-- The references of a relationship: the participants of its links. -/
def RelationshipDeclaration.references (declaration : RelationshipDeclaration) :
    List WrittenName :=
  declaration.links.filterMap LinkDeclaration.entity

/-- All references to entities in a document. -/
def Document.references (document : Document) : List WrittenName :=
  document.specializations.flatMap SpecializationDeclaration.references ++
    document.relationships.flatMap RelationshipDeclaration.references

/-- The references of a specialization that are looked up: the derived entities only when the parent
is declared. -/
def SpecializationDeclaration.consulted (names : List String)
    (declaration : SpecializationDeclaration) : List WrittenName :=
  match declaration.parent with
  | none => []
  | some reference =>
    if formal reference ∈ names then reference :: declaration.derived else [reference]

/-- The references of a document that are looked up: those of a relationship only when its name was
not declared before. -/
def Document.consulted (document : Document) : List WrittenName :=
  document.specializations.flatMap (·.consulted document.entityNames) ++
    document.relationships.zipIdx.flatMap fun (declaration, position) =>
      if formal declaration.name ∈
          document.entityNames ++ document.relationshipNames.take position then
        []
      else
        declaration.references

/-- The diagnostics of the references that are not among some names. -/
def undefinedAmong (names : List String) (references : List WrittenName) : List Diagnostic :=
  (references.filter (formal · ∉ names)).map fun reference =>
    .undeclared (formal reference) reference.span

/-- Whether a diagnostic is about a reference that is not declared. -/
def Diagnostic.isUndefined (diagnostic : Diagnostic) : Bool :=
  diagnostic.code? = some .undefined

/-- The references of two lists are reported one list after the other. -/
theorem undefinedAmong_append (names : List String) (first second : List WrittenName) :
    undefinedAmong names (first ++ second) =
      undefinedAmong names first ++ undefinedAmong names second := by
  unfold undefinedAmong
  rw [List.filter_append, List.map_append]

/-- The references of several items are reported item by item. -/
theorem undefinedAmong_flatMap {α : Type} (names : List String) (items : List α)
    (references : α → List WrittenName) :
    undefinedAmong names (items.flatMap references) =
      items.flatMap fun item => undefinedAmong names (references item) := by
  unfold undefinedAmong
  rw [List.filter_flatMap, List.map_flatMap]

/-- The reports of references are about references and nothing else. -/
theorem filter_undefinedAmong (names : List String) (references : List WrittenName) :
    (undefinedAmong names references).filter Diagnostic.isUndefined =
      undefinedAmong names references := by
  apply List.filter_eq_self.2
  intro diagnostic mem
  obtain ⟨reference, -, rfl⟩ := List.mem_map.1 mem
  rfl

/-- The problems of items are the diagnostics of their references when an item fails exactly for a
reference that is not declared. -/
theorem problems_eq_undefinedAmong {α β : Type} {names : List String}
    {outcome : α → Except Diagnostic β} {reference? : α → Option WrittenName}
    (known : ∀ item, (∀ reference, reference? item = some reference → formal reference ∈ names) →
      ∃ value, outcome item = .ok value)
    (unknown : ∀ item reference, reference? item = some reference → formal reference ∉ names →
      outcome item = .error (.undeclared (formal reference) reference.span))
    (items : List α) :
    problems outcome items = undefinedAmong names (items.filterMap reference?) := by
  have without : ∀ item, (∀ reference, reference? item = some reference →
      formal reference ∈ names) → ∀ rest, problems outcome (item :: rest) =
        problems outcome rest := by
    intro item declared rest
    obtain ⟨value, done⟩ := known item declared
    exact List.filterMap_cons_none (by rw [done])
  induction items with
  | nil => rfl
  | cons item rest ih =>
    cases given : reference? item with
    | none =>
      rw [without item (by simp [given]), ih, List.filterMap_cons_none given]
    | some reference =>
      rw [List.filterMap_cons_some given]
      by_cases declared : formal reference ∈ names
      · have settled : ∀ other, reference? item = some other → formal other ∈ names := by
          intro other same
          rw [given] at same
          cases same
          exact declared
        rw [without item settled, ih]
        simp [undefinedAmong, declared]
      · have failed := unknown item reference given declared
        have first : problems outcome (item :: rest) =
            .undeclared (formal reference) reference.span :: problems outcome rest :=
          List.filterMap_cons_some (by rw [failed])
        rw [first, ih]
        simp [undefinedAmong, declared]

/-! ## The index of elaboration -/

/-- How names and index stand when entities with the names `entities` and relationships with the
names `relationships` were handled, whatever was wrong with them. -/
structure Indexed (entities relationships : List String) (state : Elaboration) : Prop where
  keys : ∀ name, name ∈ state.index.map Prod.fst ↔ name ∈ entities
  names : ∀ name, name ∈ state.names ↔ name ∈ entities ++ relationships
  issued : ∀ entry ∈ state.index, ∃ entity, state.model.entity? entry.2 = some entity

namespace Indexed

/-- At the start nothing has been handled, and the index is empty. -/
theorem start (document : Document) : Indexed [] [] (.start document) where
  keys _ := Iff.rfl
  names _ := Iff.rfl
  issued _ mem := absurd mem List.not_mem_nil

section State

variable {entities relationships : List String} {state : Elaboration}
  (indexed : Indexed entities relationships state)

include indexed

/-- A reference to a declared entity is resolved to a handle that the model issued. -/
theorem resolve_of_mem {reference : WrittenName} (declared : formal reference ∈ entities) :
    ∃ id entity, state.resolve reference = .ok id ∧ state.model.entity? id = some entity := by
  cases found : state.index.lookup (formal reference) with
  | none =>
    rw [lookup_eq_none_iff_notMem, indexed.keys] at found
    exact absurd declared found
  | some id =>
    obtain ⟨before, after, split, -⟩ := List.lookup_eq_some_iff.1 found
    have entry : (formal reference, id) ∈ state.index := by simp [split]
    obtain ⟨entity, issued⟩ := indexed.issued _ entry
    refine ⟨id, entity, ?_, issued⟩
    rw [formal] at found
    simp only [Elaboration.resolve, found]

/-- A reference to an entity that was not handled is not resolved, and reported at its place. -/
theorem resolve_of_notMem {reference : WrittenName} (absent : formal reference ∉ entities) :
    state.resolve reference = .error (.undeclared (formal reference) reference.span) := by
  rw [← indexed.keys] at absent
  exact Elaboration.resolve_of_notMem absent

/-- Of some references, those are reported that are not among the entities handled so far. -/
theorem problems_resolve (references : List WrittenName) :
    problems state.resolve references = undefinedAmong entities references := by
  have same : problems state.resolve references =
      undefinedAmong entities (references.filterMap some) := by
    apply problems_eq_undefinedAmong
    · intro reference declared
      obtain ⟨id, -, resolved, -⟩ := indexed.resolve_of_mem (declared reference rfl)
      exact ⟨id, resolved⟩
    · intro reference other given absent
      cases given
      exact indexed.resolve_of_notMem absent
  rwa [List.filterMap_some] at same

/-- The problems of the links of a relationship are its references that are not declared. -/
theorem linkProblems_eq_undefinedAmong (declaration : RelationshipDeclaration) :
    state.linkProblems declaration.links = undefinedAmong entities declaration.references := by
  rw [linkProblems_eq]
  apply problems_eq_undefinedAmong
  · intro link declared
    unfold Elaboration.toLink
    cases given : link.entity with
    | none => exact ⟨_, rfl⟩
    | some reference =>
      obtain ⟨id, -, resolved, -⟩ := indexed.resolve_of_mem (declared reference given)
      simp only [resolved]
      exact ⟨_, rfl⟩
  · intro link reference given absent
    simp only [Elaboration.toLink, given, indexed.resolve_of_notMem absent]
    rfl

/-- A reference is resolved to nothing but a handle that the model issued. -/
theorem issued_of_resolve {reference : WrittenName} {id : EntityId}
    (resolved : state.resolve reference = .ok id) :
    ∃ entity, state.model.entity? id = some entity := by
  by_cases declared : formal reference ∈ entities
  · obtain ⟨same, entity, found, issued⟩ := indexed.resolve_of_mem declared
    rw [resolved] at found
    cases found
    exact ⟨entity, issued⟩
  · rw [indexed.resolve_of_notMem declared] at resolved
    cases resolved

/-- A specialization whose parent was resolved has no handle that the model does not know. -/
theorem unknownEntity?_eq_none {reference : WrittenName} {parent : EntityId}
    (resolved : state.resolve reference = .ok parent) (declaration : SpecializationDeclaration) :
    state.model.unknownEntity? (declaration.withHandles parent
      (state.resolveAll declaration.derived).1) = none := by
  rw [Model.unknownEntity?, List.find?_eq_none]
  intro id mem
  have issued : ∃ entity, state.model.entity? id = some entity := by
    rcases List.mem_append.1 mem with listed | own
    · obtain ⟨name, -, found⟩ := List.mem_filterMap.1 listed
      cases outcome : state.resolve name with
      | error diagnostic =>
        rw [outcome] at found
        cases found
      | ok same =>
        rw [outcome] at found
        cases found
        exact indexed.issued_of_resolve outcome
    · rw [List.mem_singleton.1 own]
      exact indexed.issued_of_resolve resolved
  obtain ⟨entity, issued⟩ := issued
  simp [issued]

end State

/-! ## One declaration -/

/-- Handling an entity makes its name known, whether it was declared before or not. -/
theorem addEntity {entities : List String} {state : Elaboration}
    (indexed : Indexed entities [] state) (declaration : EntityDeclaration) :
    Indexed (entities ++ [formal declaration.name]) [] (state.addEntity declaration) := by
  have names : ∀ name, name ∈ state.names ↔ name ∈ entities := by
    intro name
    rw [indexed.names, List.append_nil]
  by_cases taken : formal declaration.name ∈ state.names
  · have known : ∀ name, name ∈ entities ++ [formal declaration.name] ↔ name ∈ entities := by
      intro name
      rw [List.mem_append, List.mem_singleton, or_iff_left_iff_imp]
      rintro rfl
      exact (names _).1 taken
    rw [Elaboration.addEntity_of_taken taken]
    refine ⟨fun name => ?_, fun name => ?_, indexed.issued⟩
    · rw [known]
      exact indexed.keys name
    · rw [List.append_nil, known]
      exact names name
  · rw [Elaboration.addEntity_of_free taken]
    refine ⟨fun name => ?_, fun name => ?_, ?_⟩
    · simp only [List.map_append, List.mem_append, indexed.keys, List.map_cons, List.map_nil]
    · simp only [Elaboration.names, List.map_append, List.mem_append, List.map_cons, List.map_nil,
        List.append_nil]
      exact or_congr_left (names name)
    · intro entry mem
      rcases List.mem_append.1 mem with old | new
      · obtain ⟨entity, issued⟩ := indexed.issued entry old
        exact ⟨entity, Model.entity?_addEntity_eq_some_iff.2 (.inl issued)⟩
      · rw [List.mem_singleton.1 new]
        exact ⟨_, Model.entity?_addEntity_eq_some_iff.2 (.inr ⟨rfl, rfl⟩)⟩

/-- Handling specializations and relationships takes no entity from the model. -/
theorem of_keeps {entities before after : List String} {state next : Elaboration}
    (indexed : Indexed entities before state) (grows : state.model.Extends next.model)
    (index : next.index = state.index)
    (names : ∀ name, name ∈ next.names ↔ name ∈ entities ++ after) :
    Indexed entities after next where
  keys name := by rw [index, indexed.keys]
  names := names
  issued entry mem := by
    rw [index] at mem
    obtain ⟨entity, issued⟩ := indexed.issued entry mem
    obtain ⟨grown, issued, -⟩ := grows.entity _ entity issued
    exact ⟨grown, issued⟩

section Later

variable {entities relationships : List String} {state : Elaboration}
  (indexed : Indexed entities relationships state)

include indexed

/-- Handling a specialization changes neither the names nor the keys of the index. -/
theorem addSpecialization (declaration : SpecializationDeclaration) :
    Indexed entities relationships (state.addSpecialization declaration) := by
  have grows := (Elaboration.reaches_addSpecialization state declaration).keeps
  obtain ⟨next, same, -⟩ := Elaboration.addSpecialization_cases state declaration
  rw [same] at grows ⊢
  exact indexed.of_keeps grows rfl indexed.names

/-- Handling a relationship makes its name known, whatever becomes of its links. -/
theorem addRelationship (declaration : RelationshipDeclaration) :
    Indexed entities (relationships ++ [formal declaration.name])
      (state.addRelationship declaration) := by
  have grows := (Elaboration.reaches_addRelationship state declaration).keeps
  by_cases taken : formal declaration.name ∈ state.names
  · rw [Elaboration.addRelationship_of_taken taken] at grows ⊢
    refine indexed.of_keeps grows rfl fun name => ?_
    rw [indexed.names] at taken
    rw [← List.append_assoc, List.mem_append, List.mem_singleton, ← indexed.names]
    refine (or_iff_left_of_imp ?_).symm
    rintro rfl
    exact (indexed.names _).2 taken
  · rw [Elaboration.addRelationship_of_free taken] at grows ⊢
    refine indexed.of_keeps grows rfl fun name => ?_
    rw [← List.append_assoc, List.mem_append, ← indexed.names]
    simp only [Elaboration.names, List.map_append, List.mem_append, List.map_cons, List.map_nil]

end Later

end Indexed

/-! ## What is noticed about one declaration -/

/-- What is noticed about a name is not about references. -/
theorem filter_nameProblems (state : Elaboration) (name : String) (span : Span) :
    (state.nameProblems name span).filter Diagnostic.isUndefined = [] := by
  unfold Elaboration.nameProblems
  cases state.declared.lookup name <;> split <;> rfl

/-- What is noticed about an entity is not about references. -/
theorem filter_entityFindings (state : Elaboration) (declaration : EntityDeclaration) :
    (state.entityFindings declaration).filter Diagnostic.isUndefined = [] :=
  filter_nameProblems state (formal declaration.name) declaration.name.span

/-- A relationship is refused for what it has to identify, never for a handle. -/
theorem filter_refusal_addRelationship (model : Model) (relationship : Relationship)
    (span : Option Span) :
    (refusal (model.addRelationship relationship) span).filter Diagnostic.isUndefined = [] := by
  unfold Model.addRelationship Model.claims
  cases relationship.isIdentifying with
  | false => rfl
  | true => cases model.claim? relationship <;> rfl

namespace Indexed

variable {entities relationships : List String} {state : Elaboration}
  (indexed : Indexed entities relationships state)

include indexed

/-- Of what is noticed about a specialization, the part about references is that about the
references that it looks up. -/
theorem filter_specializationFindings (declaration : SpecializationDeclaration) :
    (state.specializationFindings declaration).filter Diagnostic.isUndefined =
      undefinedAmong entities (declaration.consulted entities) := by
  unfold Elaboration.specializationFindings SpecializationDeclaration.consulted
  cases given : declaration.parent with
  | none => rfl
  | some reference =>
    by_cases declared : formal reference ∈ entities
    · obtain ⟨parent, -, resolved, -⟩ := indexed.resolve_of_mem declared
      have known := indexed.unknownEntity?_eq_none resolved declaration
      have accepted := Model.specialize_eq_ok_iff.2 ⟨known, rfl⟩
      have all : (state.resolveAll declaration.derived).2 =
          undefinedAmong entities declaration.derived := by
        rw [resolveAll_eq, indexed.problems_resolve]
      simp only [resolved, accepted, refusal, List.append_nil, all, filter_undefinedAmong,
        if_pos declared]
      simp [undefinedAmong, declared]
    · simp only [indexed.resolve_of_notMem declared, if_neg declared]
      simp [undefinedAmong, declared, Diagnostic.isUndefined, Diagnostic.code?]

/-- Of what is noticed about a relationship, the part about references is that about its
participants, unless its name is taken. -/
theorem filter_relationshipFindings (declaration : RelationshipDeclaration) :
    (state.relationshipFindings declaration).filter Diagnostic.isUndefined =
      undefinedAmong entities
        (if formal declaration.name ∈ entities ++ relationships then []
        else declaration.references) := by
  have names := indexed.names (formal declaration.name)
  rw [Elaboration.relationshipFindings, List.filter_append, filter_nameProblems, List.nil_append]
  by_cases taken : formal declaration.name ∈ state.names
  · rw [if_pos taken, if_pos (names.1 taken)]
    rfl
  · rw [if_neg taken, if_neg (mt names.2 taken), indexed.linkProblems_eq_undefinedAmong]
    split
    · next none =>
      rw [filter_refusal_addRelationship, List.isEmpty_iff.1 none]
    · exact filter_undefinedAmong entities declaration.references

end Indexed

/-! ## What is noticed about a document -/

open Elaboration

section Along

variable {α : Type} {add : Elaboration → α → Elaboration}
  {findings : Elaboration → α → List Diagnostic} {kind : Diagnostic → Bool}
  (fits : List α → Elaboration → Prop) (part : List α → α → List Diagnostic)
  (step : ∀ before state declaration, fits before state →
    (findings state declaration).filter kind = part before declaration ∧
      fits (before ++ [declaration]) (add state declaration))

include step

/-- The findings of one kind, of declarations that come after others, are decided declaration by
declaration by those before it. -/
theorem filter_findingsAlong_after {before : List α} {state : Elaboration}
    (initially : fits before state) (after : List α) :
    (findingsAlong add findings state after).filter kind =
        ((after.zipIdx before.length).flatMap fun (declaration, position) =>
          part ((before ++ after).take position) declaration) ∧
      fits (before ++ after) (after.foldl add state) := by
  induction after generalizing before state with
  | nil =>
    rw [List.append_nil]
    exact ⟨rfl, initially⟩
  | cons declaration rest ih =>
    obtain ⟨here, next⟩ := step before state declaration initially
    obtain ⟨later, last⟩ := ih next
    rw [List.append_assoc, List.singleton_append] at later last
    refine ⟨?_, last⟩
    have earlier : (before ++ declaration :: rest).take before.length = before :=
      List.take_left
    rw [findingsAlong, List.filter_append, here, later, List.zipIdx_cons, List.flatMap_cons,
      List.length_append, List.length_singleton]
    dsimp only
    rw [earlier]

/-- When what a declaration leaves depends on the declarations before it only, the findings along
all declarations are put together from these parts. -/
theorem filter_findingsAlong {state : Elaboration} (initially : fits [] state)
    (declarations : List α) :
    (findingsAlong add findings state declarations).filter kind =
        (declarations.zipIdx.flatMap fun (declaration, position) =>
          part (declarations.take position) declaration) ∧
      fits declarations (declarations.foldl add state) :=
  filter_findingsAlong_after fits part step initially declarations

end Along

/-- Entities have no references, but they decide what the index holds. -/
theorem filter_findings_entities (document : Document) :
    (findingsAlong addEntity entityFindings (start document) document.entities).filter
        Diagnostic.isUndefined = [] ∧
      Indexed document.entityNames [] (afterEntities document) := by
  obtain ⟨silent, indexed⟩ := filter_findingsAlong
    (fun before => Indexed (before.map fun declaration => formal declaration.name) [])
    (fun _ _ => [])
    (fun before state declaration indexed => by
      have grown := indexed.addEntity declaration
      rw [List.map_append]
      exact ⟨filter_entityFindings state declaration, grown⟩)
    (Indexed.start document) document.entities
  refine ⟨silent.trans ?_, indexed⟩
  simp

/-- The references of specializations that are looked up are all looked up among all entities. -/
theorem filter_findings_specializations {document : Document}
    (indexed : Indexed document.entityNames [] (afterEntities document)) :
    (findingsAlong addSpecialization specializationFindings (afterEntities document)
        document.specializations).filter Diagnostic.isUndefined =
      undefinedAmong document.entityNames
        (document.specializations.flatMap (·.consulted document.entityNames)) ∧
      Indexed document.entityNames [] (afterSpecializations document) := by
  obtain ⟨noticed, indexed⟩ := filter_findingsAlong
    (fun _ => Indexed document.entityNames [])
    (fun _ declaration =>
      undefinedAmong document.entityNames (declaration.consulted document.entityNames))
    (fun _ state declaration indexed =>
      ⟨indexed.filter_specializationFindings declaration, indexed.addSpecialization declaration⟩)
    indexed document.specializations
  refine ⟨noticed.trans ?_, indexed⟩
  rw [undefinedAmong_flatMap]
  conv => rhs; rw [← List.zipIdx_map_fst 0 document.specializations, List.flatMap_map]

/-- Of the findings about relationships, those about references are about the participants that are
looked up. -/
theorem filter_findings_relationships {document : Document}
    (indexed : Indexed document.entityNames [] (afterSpecializations document)) :
    (findingsAlong addRelationship relationshipFindings (afterSpecializations document)
        document.relationships).filter Diagnostic.isUndefined =
      undefinedAmong document.entityNames
        (document.relationships.zipIdx.flatMap fun (declaration, position) =>
          if formal declaration.name ∈
              document.entityNames ++ document.relationshipNames.take position then
            []
          else
            declaration.references) := by
  obtain ⟨noticed, -⟩ := filter_findingsAlong
    (fun before =>
      Indexed document.entityNames (before.map fun declaration => formal declaration.name))
    (fun before declaration => undefinedAmong document.entityNames
      (if formal declaration.name ∈ document.entityNames ++
        before.map (fun declaration => formal declaration.name) then []
      else declaration.references))
    (fun before state declaration indexed => by
      have grown := indexed.addRelationship declaration
      rw [List.map_append]
      exact ⟨indexed.filter_relationshipFindings declaration, grown⟩)
    indexed document.relationships
  rw [noticed, undefinedAmong_flatMap]
  simp only [List.map_take]
  rfl

/-- The references that are looked up and not declared are noticed one by one, in order. -/
theorem filter_findings (document : Document) :
    document.findings.filter Diagnostic.isUndefined =
      undefinedAmong document.entityNames document.consulted := by
  obtain ⟨silent, indexed⟩ := filter_findings_entities document
  obtain ⟨divisions, indexed⟩ := filter_findings_specializations indexed
  have links := filter_findings_relationships indexed
  rw [Document.findings, List.filter_append, List.filter_append, silent, divisions, links,
    List.nil_append, Document.consulted, undefinedAmong_append]

/-! ## Which references are looked up -/

/-- A specialization looks up no references but its own, in order. -/
theorem SpecializationDeclaration.consulted_sublist (names : List String)
    (declaration : SpecializationDeclaration) :
    (declaration.consulted names).Sublist declaration.references := by
  unfold consulted references
  cases declaration.parent with
  | none => exact List.nil_sublist _
  | some reference =>
    dsimp only
    split
    · exact List.Sublist.refl _
    · exact (List.nil_sublist _).cons_cons reference

/-- A specialization with a declared parent looks up all its references. -/
theorem SpecializationDeclaration.consulted_of_parent {names : List String}
    {declaration : SpecializationDeclaration}
    (declared : ∃ reference, declaration.parent = some reference ∧ formal reference ∈ names) :
    declaration.consulted names = declaration.references := by
  obtain ⟨reference, given, mem⟩ := declared
  simp [consulted, references, given, mem]

/-- Nothing is looked up but the references of the document, in their order. -/
theorem consulted_sublist (document : Document) :
    document.consulted.Sublist document.references := by
  apply List.Sublist.append
  · apply List.Sublist.flatMap_right
    exact fun declaration _ => declaration.consulted_sublist document.entityNames
  · conv => rhs; rw [← List.zipIdx_map_fst 0 document.relationships, List.flatMap_map]
    apply List.Sublist.flatMap_right
    intro entry _
    dsimp only
    split
    · exact List.nil_sublist _
    · exact List.Sublist.refl _

/-- All references are looked up when parents are declared and names of relationships are new. -/
theorem consulted_eq_references {document : Document}
    (parents : ∀ declaration ∈ document.specializations,
      ∃ reference, declaration.parent = some reference ∧ formal reference ∈ document.entityNames)
    (apart : document.entityNames.Disjoint document.relationshipNames)
    (distinct : document.relationshipNames.Nodup) :
    document.consulted = document.references := by
  have divisions :
      document.specializations.flatMap (·.consulted document.entityNames) =
        document.specializations.flatMap SpecializationDeclaration.references := by
    apply List.flatMap_congr
    exact fun declaration mem =>
      SpecializationDeclaration.consulted_of_parent (parents declaration mem)
  rw [Document.consulted, Document.references, divisions]
  congr 1
  conv => rhs; rw [← List.zipIdx_map_fst 0 document.relationships, List.flatMap_map]
  apply List.flatMap_congr
  rintro ⟨declaration, position⟩ mem
  have named : document.relationshipNames[position]? = some (formal declaration.name) := by
    rw [Document.relationshipNames, List.getElem?_map, List.mem_zipIdx_iff_getElem?.1 mem]
    rfl
  apply if_neg
  rw [List.mem_append, not_or]
  constructor
  · exact fun taken => apart taken (List.mem_of_getElem? named)
  · intro taken
    obtain ⟨bound, here⟩ := List.getElem?_eq_some_iff.1 named
    rw [← here, List.mem_take_iff_idxOf_lt (List.getElem_mem bound),
      distinct.idxOf_getElem position bound] at taken
    exact Nat.lt_irrefl position taken

/-! ## The outcome -/

/-- Whether a diagnostic reports that a reference is not declared. -/
structure Diagnostic.Reports (diagnostic : Diagnostic) (reference : WrittenName) : Prop where
  code : diagnostic.code? = some .undefined
  labels : diagnostic.labels = [⟨reference.span, Code.undefined.meaning, true⟩]
  message : diagnostic.message = "entity `" ++ formal reference ++ "` is not declared"

/-- The references that are not declared are reported one by one, in order. -/
theorem forall₂_reports_undefinedAmong (names : List String) (references : List WrittenName) :
    List.Forall₂ Diagnostic.Reports (undefinedAmong names references)
      (references.filter (formal · ∉ names)) := by
  rw [undefinedAmong, List.forall₂_map_left_iff, List.forall₂_same]
  exact fun reference _ => ⟨rfl, rfl, rfl⟩

/-- Elaboration, whether it succeeds or not, ends with all findings about the document. -/
theorem elaborate_findings (document : Document) :
    (∃ model, document.elaborate = .ok (model, document.findings)) ∨
      document.elaborate = .error ⟨document.findings⟩ := by
  by_cases error : HasError document.findings
  · exact .inr (elaborate_of_hasError error)
  · exact .inl ⟨_, elaborate_of_not_hasError error⟩

/-- Whatever document is elaborated, the references that are looked up and not declared are reported
one by one, in order, and nothing else is reported as undefined.  All references of the document are
looked up when every specialization has a declared parent and no relationship has a name that is
taken; that other names are taken hides nothing. -/
theorem undefined_reported (document : Document) :
    ∃ diagnostics,
      ((∃ model, document.elaborate = .ok (model, diagnostics)) ∨
        document.elaborate = .error ⟨diagnostics⟩) ∧
      List.Forall₂ Diagnostic.Reports (diagnostics.filter Diagnostic.isUndefined)
        (document.consulted.filter (formal · ∉ document.entityNames)) ∧
      document.consulted.Sublist document.references ∧
      ((∀ declaration ∈ document.specializations,
          ∃ reference, declaration.parent = some reference ∧
            formal reference ∈ document.entityNames) →
        document.entityNames.Disjoint document.relationshipNames →
        document.relationshipNames.Nodup →
        document.consulted = document.references) := by
  refine ⟨document.findings, elaborate_findings document, ?_, consulted_sublist document,
    consulted_eq_references⟩
  rw [filter_findings]
  exact forall₂_reports_undefinedAmong document.entityNames document.consulted

/-- A document with two references that are not declared, the parent of a specialization and an
entity derived from it. -/
def ghostTown : Document where
  name := "M"
  entities := [{ name := ⟨"a", 30, 33⟩ }]
  specializations := [
    { parent := some ⟨"ghost", 63, 70⟩
      derived := [⟨"phantom", 82, 91⟩] }]

/-- Only the parent is reported. -/
theorem ghostTown_hides :
    ghostTown.elaborate = .error ⟨[.undeclared "GHOST" ⟨63, 70⟩]⟩ ∧
      ⟨"phantom", 82, 91⟩ ∈ ghostTown.references ∧
      formal ⟨"phantom", 82, 91⟩ ∉ ghostTown.entityNames ∧
      ¬ (Diagnostic.undeclared "GHOST" ⟨63, 70⟩).Reports ⟨"phantom", 82, 91⟩ := by
  refine ⟨rfl, by decide, by decide, fun reports => ?_⟩
  have message := reports.message
  revert message
  decide

end ErSchema.Schema
