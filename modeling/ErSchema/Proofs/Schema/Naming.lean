import ErSchema.Proofs.Schema.References

/-!
# What is noticed about names

Entities and relationships share their names.  A declaration whose name was declared before is
reported with two places, its own and that of the first declaration of the name, and a name of which
nothing is left is warned about.  `repetitions_reported` says that nothing else about a declaration
matters: the names alone decide, also the names of declarations that are skipped for other reasons.

The invariant `Declared` carries the proof.  It ties the table of names to the list of all names
handled so far, so that looking a name up is finding its first declaration.
-/

set_option autoImplicit false

namespace ErSchema.Schema

/-! ## Names in the order of elaboration -/

/-- The declared names in the order in which they are handled: all entities come first. -/
def Document.declaredNames (document : Document) : List WrittenName :=
  document.entities.map EntityDeclaration.name ++
    document.relationships.map RelationshipDeclaration.name

/-- The first of some names that has the same form as a name. -/
def firstNamesake? (names : List WrittenName) (name : WrittenName) : Option WrittenName :=
  names.find? (formal · = formal name)

/-- The declared names that were declared before, each with its first declaration. -/
def Document.repetitions (document : Document) : List (WrittenName × WrittenName) :=
  document.declaredNames.zipIdx.filterMap fun (name, position) =>
    (firstNamesake? (document.declaredNames.take position) name).map (name, ·)

/-- What is noticed about a name: that it is empty, and that it was declared before. -/
def namingFindings (earlier : List WrittenName) (name : WrittenName) : List Diagnostic :=
  (if formal name = "" then [.emptyName name.span] else []) ++
    ((firstNamesake? earlier name).map fun first =>
      .duplicate (formal name) name.span first.span).toList

/-- What is noticed about the names of a document, one after the other. -/
def Document.namingFindings (document : Document) : List Diagnostic :=
  document.declaredNames.zipIdx.flatMap fun (name, position) =>
    Schema.namingFindings (document.declaredNames.take position) name

/-- Whether a diagnostic is about a name that was declared before. -/
def Diagnostic.isDuplicate (diagnostic : Diagnostic) : Bool :=
  diagnostic.code? = some .duplicate

/-- Whether a diagnostic is about a name that was declared before, or a warning. -/
def Diagnostic.isNaming (diagnostic : Diagnostic) : Bool :=
  diagnostic.isDuplicate || diagnostic.severity = .warning

/-! ## The table of names -/

/-- How the table of names stands to the names handled so far. -/
def Declared (names : List WrittenName) (state : Elaboration) : Prop :=
  ∀ name, state.declared.lookup name = (names.find? (formal · = name)).map Spanned.span

namespace Declared

/-- At the start no name has been handled, and the table is empty. -/
theorem start (document : Document) : Declared [] (.start document) := fun _ => rfl

variable {names : List WrittenName} {state : Elaboration} (declared : Declared names state)

include declared

/-- What is noticed about a name when it is declared is decided by the names handled before. -/
theorem nameProblems_eq (name : WrittenName) :
    state.nameProblems (formal name) name.span = namingFindings names name := by
  unfold Elaboration.nameProblems namingFindings firstNamesake?
  rw [declared, Option.map_map]
  simp only [String.isEmpty_iff]
  rfl

/-- A name enters the table unless it is there, and then it is the first of its form. -/
theorem concat {name : WrittenName} {next : Elaboration}
    (grown : next.declared = if formal name ∈ state.names then state.declared
      else state.declared ++ [(formal name, name.span)]) :
    Declared (names ++ [name]) next := by
  intro key
  rw [grown, List.find?_append, List.find?_singleton]
  by_cases taken : formal name ∈ state.names
  · rw [if_pos taken, declared]
    by_cases same : formal name = key
    · have found : (state.declared.lookup key).isSome := by
        rw [Option.isSome_iff_ne_none, Ne, lookup_eq_none_iff_notMem, ← same]
        exact fun absent => absent taken
      rw [declared, Option.isSome_map] at found
      obtain ⟨first, found⟩ := Option.isSome_iff_exists.1 found
      rw [found]
      rfl
    · simp [same]
  · rw [if_neg taken, List.lookup_append, declared, Option.map_or]
    congr 1
    by_cases same : formal name = key
    · simp [same]
    · simp [same, List.lookup_cons, beq_false_of_ne (Ne.symm same)]

/-- Handling an entity enters its name, whether it is taken or not. -/
theorem addEntity (declaration : EntityDeclaration) :
    Declared (names ++ [declaration.name]) (state.addEntity declaration) := by
  apply declared.concat
  by_cases taken : formal declaration.name ∈ state.names
  · rw [Elaboration.addEntity_of_taken taken, if_pos taken]
    rfl
  · rw [Elaboration.addEntity_of_free taken, if_neg taken]

/-- Handling a specialization enters no name. -/
theorem addSpecialization (declaration : SpecializationDeclaration) :
    Declared names (state.addSpecialization declaration) := by
  obtain ⟨next, same, -⟩ := Elaboration.addSpecialization_cases state declaration
  rw [same]
  exact declared

/-- The name of a relationship is entered, whatever becomes of its links. -/
theorem addRelationship (declaration : RelationshipDeclaration) :
    Declared (names ++ [declaration.name]) (state.addRelationship declaration) := by
  apply declared.concat
  by_cases taken : formal declaration.name ∈ state.names
  · rw [Elaboration.addRelationship_of_taken taken, if_pos taken]
    rfl
  · rw [Elaboration.addRelationship_of_free taken, if_neg taken]

end Declared

/-! ## Findings about other things than names -/

/-- Whether none of some diagnostics is about a name that was declared before, or a warning. -/
def Nameless (diagnostics : List Diagnostic) : Prop :=
  ∀ diagnostic ∈ diagnostics, diagnostic.isNaming = false

/-- Two lists of findings that are not about names make one. -/
theorem Nameless.append {first second : List Diagnostic} (nameless : Nameless first)
    (nameless' : Nameless second) : Nameless (first ++ second) := by
  intro diagnostic mem
  rcases List.mem_append.1 mem with mem | mem
  · exact nameless diagnostic mem
  · exact nameless' diagnostic mem

/-- Nothing is left of findings that are not about names when those about names are sought. -/
theorem Nameless.filter_eq_nil {diagnostics : List Diagnostic} (nameless : Nameless diagnostics) :
    diagnostics.filter Diagnostic.isNaming = [] := by
  rw [List.filter_eq_nil_iff]
  intro diagnostic mem
  simp [nameless diagnostic mem]

/-- A refusal by the model is not about a name. -/
theorem isNaming_construction (error : ConstructionError) (span : Option Span) :
    (Diagnostic.construction error span).isNaming = false := by
  cases error <;> rfl

/-- So the refusals of an outcome are not about names either. -/
theorem nameless_refusal {α : Type} (outcome : Except ConstructionError α) (span : Option Span) :
    Nameless (refusal outcome span) := by
  intro diagnostic mem
  cases outcome with
  | ok value => cases mem
  | error error =>
    rw [List.mem_singleton.1 mem]
    exact isNaming_construction error span

/-- A reference that cannot be resolved is reported as such, and not as a name. -/
theorem isNaming_of_resolve {state : Elaboration} {reference : WrittenName}
    {diagnostic : Diagnostic} (failed : state.resolve reference = .error diagnostic) :
    diagnostic.isNaming = false := by
  simp only [Elaboration.resolve] at failed
  split at failed
  · cases failed
  · cases failed
    rfl

/-- The problems of some items are not about names when those of each item are not. -/
theorem nameless_problems {α β : Type} {outcome : α → Except Diagnostic β} {items : List α}
    (each : ∀ item diagnostic, outcome item = .error diagnostic → diagnostic.isNaming = false) :
    Nameless (problems outcome items) := by
  intro diagnostic mem
  obtain ⟨item, -, noticed⟩ := List.mem_filterMap.1 mem
  cases failed : outcome item with
  | ok value =>
    rw [failed] at noticed
    cases noticed
  | error found =>
    rw [failed] at noticed
    cases noticed
    exact each item diagnostic failed

/-- The problems of links are not about names. -/
theorem nameless_linkProblems (state : Elaboration) (declarations : List LinkDeclaration) :
    Nameless (state.linkProblems declarations) := by
  rw [linkProblems_eq]
  apply nameless_problems
  intro link diagnostic failed
  unfold Elaboration.toLink at failed
  split at failed
  · cases failed
  · next reference _ =>
    cases resolved : state.resolve reference with
    | ok id =>
      rw [resolved] at failed
      cases failed
    | error found =>
      rw [resolved] at failed
      cases failed
      exact isNaming_of_resolve resolved

/-- What is noticed about a specialization is not about names. -/
theorem nameless_specializationFindings (state : Elaboration)
    (declaration : SpecializationDeclaration) :
    Nameless (state.specializationFindings declaration) := by
  unfold Elaboration.specializationFindings
  split
  · intro diagnostic mem
    rw [List.mem_singleton.1 mem]
    exact isNaming_construction _ _
  · next reference _ =>
    split
    · next failed =>
      intro diagnostic mem
      rw [List.mem_singleton.1 mem]
      exact isNaming_of_resolve failed
    · rw [resolveAll_eq]
      apply Nameless.append
      · exact nameless_problems fun _ _ failed => isNaming_of_resolve failed
      · exact nameless_refusal _ _

/-- Behind what is noticed about its name, a relationship has only findings about other things. -/
theorem exists_relationshipFindings_eq (state : Elaboration)
    (declaration : RelationshipDeclaration) :
    ∃ others, Nameless others ∧ state.relationshipFindings declaration =
      state.nameProblems (formal declaration.name) declaration.name.span ++ others := by
  refine ⟨_, ?_, rfl⟩
  split
  · intro diagnostic mem
    cases mem
  · split
    · exact nameless_refusal _ _
    · exact nameless_linkProblems _ _

/-- What is noticed about a name is about names and nothing else. -/
theorem filter_namingFindings (earlier : List WrittenName) (name : WrittenName) :
    (namingFindings earlier name).filter Diagnostic.isNaming = namingFindings earlier name := by
  unfold namingFindings
  cases firstNamesake? earlier name <;> split <;> rfl

/-- Of what is noticed about an entity, the part about names is that about its own name. -/
theorem Declared.filter_entityFindings {names : List WrittenName} {state : Elaboration}
    (declared : Declared names state) (declaration : EntityDeclaration) :
    (state.entityFindings declaration).filter Diagnostic.isNaming =
      namingFindings names declaration.name := by
  rw [Elaboration.entityFindings, declared.nameProblems_eq, filter_namingFindings]

/-- Of what is noticed about a relationship, the part about names is that about its own name. -/
theorem Declared.filter_relationshipFindings {names : List WrittenName} {state : Elaboration}
    (declared : Declared names state) (declaration : RelationshipDeclaration) :
    (state.relationshipFindings declaration).filter Diagnostic.isNaming =
      namingFindings names declaration.name := by
  obtain ⟨others, nameless, same⟩ := exists_relationshipFindings_eq state declaration
  rw [same, declared.nameProblems_eq, List.filter_append, filter_namingFindings,
    nameless.filter_eq_nil, List.append_nil]

/-! ## What is noticed about all names -/

open Elaboration

/-- The findings about names that entities bring compare each name with those of the entities before
it. -/
theorem filter_isNaming_entities (document : Document) :
    (findingsAlong addEntity entityFindings (start document) document.entities).filter
        Diagnostic.isNaming =
      (document.entities.zipIdx.flatMap fun (declaration, position) =>
        namingFindings ((document.entities.take position).map EntityDeclaration.name)
          declaration.name) ∧
      Declared (document.entities.map EntityDeclaration.name) (afterEntities document) :=
  filter_findingsAlong (fun before => Declared (before.map EntityDeclaration.name))
    (fun before declaration => namingFindings (before.map EntityDeclaration.name) declaration.name)
    (fun before state declaration declared => by
      rw [List.map_append]
      exact ⟨declared.filter_entityFindings declaration, declared.addEntity declaration⟩)
    (Declared.start document) document.entities

/-- Specializations bring no findings about names. -/
theorem filter_isNaming_specializations {names : List WrittenName} {state : Elaboration}
    (declared : Declared names state) (declarations : List SpecializationDeclaration) :
    (findingsAlong addSpecialization specializationFindings state declarations).filter
        Diagnostic.isNaming = [] ∧
      Declared names (declarations.foldl addSpecialization state) := by
  obtain ⟨silent, declared⟩ := filter_findingsAlong (fun _ => Declared names) (fun _ _ => [])
    (fun _ state declaration declared =>
      ⟨(nameless_specializationFindings state declaration).filter_eq_nil,
        declared.addSpecialization declaration⟩)
    declared declarations
  refine ⟨silent.trans ?_, declared⟩
  simp

/-- The findings about names that relationships bring compare each name with those of all entities
and of the relationships before it. -/
theorem filter_isNaming_relationships {names : List WrittenName} {state : Elaboration}
    (declared : Declared names state) (declarations : List RelationshipDeclaration) :
    (findingsAlong addRelationship relationshipFindings state declarations).filter
        Diagnostic.isNaming =
      declarations.zipIdx.flatMap fun (declaration, position) =>
        namingFindings (names ++ (declarations.take position).map RelationshipDeclaration.name)
          declaration.name := by
  obtain ⟨noticed, -⟩ := filter_findingsAlong
    (fun before => Declared (names ++ before.map RelationshipDeclaration.name))
    (fun before declaration =>
      namingFindings (names ++ before.map RelationshipDeclaration.name) declaration.name)
    (fun before state declaration declared => by
      rw [List.map_append, ← List.append_assoc]
      exact ⟨declared.filter_relationshipFindings declaration,
        declared.addRelationship declaration⟩)
    (by rwa [List.map_nil, List.append_nil]) declarations
  exact noticed

/-- The findings about the names of a document are those about its entities, followed by those about
its relationships. -/
theorem namingFindings_eq (document : Document) :
    document.namingFindings =
      (document.entities.zipIdx.flatMap fun (declaration, position) =>
        namingFindings ((document.entities.take position).map EntityDeclaration.name)
          declaration.name) ++
      document.relationships.zipIdx.flatMap fun (declaration, position) =>
        namingFindings (document.entities.map EntityDeclaration.name ++
          (document.relationships.take position).map RelationshipDeclaration.name)
          declaration.name := by
  unfold Document.namingFindings Document.declaredNames
  rw [List.zipIdx_append, List.flatMap_append]
  congr 1
  · rw [List.zipIdx_map, List.flatMap_map]
    apply List.flatMap_congr
    rintro ⟨declaration, position⟩ mem
    have bound := (List.getElem?_eq_some_iff.1 (List.mem_zipIdx_iff_getElem?.1 mem)).1
    have inside : position ≤ (document.entities.map EntityDeclaration.name).length := by
      rw [List.length_map]
      omega
    dsimp only [Prod.map]
    rw [id, List.take_append_of_le_length inside, List.map_take]
  · rw [List.zipIdx_eq_map_add, List.zipIdx_map, List.flatMap_map, List.flatMap_map]
    apply List.flatMap_congr
    rintro ⟨declaration, position⟩ mem
    dsimp only [Prod.map]
    rw [id, Nat.zero_add, List.take_length_add_append, List.map_take]

/-- Of all findings about a document, those about names are the ones that its names give rise to, in
order. -/
theorem filter_isNaming_findings (document : Document) :
    document.findings.filter Diagnostic.isNaming = document.namingFindings := by
  obtain ⟨entities, declared⟩ := filter_isNaming_entities document
  obtain ⟨silent, declared⟩ :=
    filter_isNaming_specializations declared document.specializations
  have relationships := filter_isNaming_relationships declared document.relationships
  rw [Document.findings, List.filter_append, List.filter_append, entities, silent,
    List.append_nil, namingFindings_eq]
  exact congrArg (_ ++ ·) relationships

/-- Of all findings, the reports of repetitions are those of the names that were declared before,
each with its first declaration. -/
theorem filter_isDuplicate_findings (document : Document) :
    document.findings.filter Diagnostic.isDuplicate =
      document.repetitions.map fun (name, first) =>
        .duplicate (formal name) name.span first.span := by
  have among : document.findings.filter Diagnostic.isDuplicate =
      document.namingFindings.filter Diagnostic.isDuplicate := by
    rw [← filter_isNaming_findings, List.filter_filter]
    apply List.filter_congr
    intro diagnostic _
    cases duplicate : diagnostic.isDuplicate <;> simp [Diagnostic.isNaming, duplicate]
  rw [among, Document.namingFindings, Document.repetitions, List.filter_flatMap,
    List.map_filterMap]
  induction document.declaredNames.zipIdx with
  | nil => rfl
  | cons entry rest ih =>
    obtain ⟨name, position⟩ := entry
    rw [List.flatMap_cons, ih, List.filterMap_cons]
    cases found : firstNamesake? (document.declaredNames.take position) name with
    | none =>
      simp only [namingFindings, found, Option.map_none, Option.toList_none, List.append_nil]
      split <;> rfl
    | some first =>
      simp only [namingFindings, found, Option.map_some, Option.toList_some]
      split <;> rfl

/-! ## Warnings stand right before -/

/-- Whether every report that the empty name was declared before stands right behind a warning at
the same place. -/
def WarnedBefore (diagnostics : List Diagnostic) : Prop :=
  ∀ before span first after, diagnostics = before ++ .duplicate "" span first :: after →
    ∃ earlier, before = earlier ++ [.emptyName span]

/-- Two lists of findings with their warnings in place make one. -/
theorem WarnedBefore.append {left right : List Diagnostic} (warned : WarnedBefore left)
    (warned' : WarnedBefore right) : WarnedBefore (left ++ right) := by
  intro before span first after split
  rcases List.append_eq_append_iff.1 split with ⟨overhang, rfl, rest⟩ | ⟨overhang, rest, here⟩
  · obtain ⟨earlier, rfl⟩ := warned' overhang span first after rest
    exact ⟨left ++ earlier, (List.append_assoc ..).symm⟩
  · cases overhang with
    | nil =>
      rw [List.append_nil] at rest
      obtain ⟨earlier, none⟩ := warned' [] span first after here.symm
      simp at none
    | cons head overhang =>
      rw [List.cons_append, List.cons.injEq] at here
      rw [← here.1] at rest
      exact warned before span first overhang rest

/-- Findings that are not about names hold no report that would need a warning before it. -/
theorem Nameless.warnedBefore {diagnostics : List Diagnostic} (nameless : Nameless diagnostics) :
    WarnedBefore diagnostics := by
  intro before span first after split
  have listed : Diagnostic.duplicate "" span first ∈ diagnostics := by simp [split]
  cases nameless _ listed

/-- When the empty name is declared again, the warning about it comes first. -/
theorem warnedBefore_nameProblems (state : Elaboration) (name : String) (span : Span) :
    WarnedBefore (state.nameProblems name span) := by
  intro before place first after split
  unfold nameProblems at split
  generalize state.declared.lookup name = known at split
  cases known with
  | none =>
    -- without an earlier declaration there is at most the warning
    have listed := congrArg (Diagnostic.duplicate "" place first ∈ ·) split
    by_cases empty : name.isEmpty = true <;> simp [empty] at listed
  | some found =>
    by_cases empty : name.isEmpty = true
    · rw [if_pos empty] at split
      cases before with
      | nil => cases split
      | cons head before =>
        cases before with
        | nil =>
          cases split
          exact ⟨[], rfl⟩
        | cons second before => simp at split
    · rw [if_neg empty] at split
      cases before with
      | nil =>
        cases split
        exact absurd rfl empty
      | cons head before => simp at split

/-- Warnings are in place in all findings when they are in those of each declaration. -/
theorem warnedBefore_findingsAlong {α : Type} {add : Elaboration → α → Elaboration}
    {findings : Elaboration → α → List Diagnostic}
    (each : ∀ state declaration, WarnedBefore (findings state declaration)) (state : Elaboration)
    (declarations : List α) : WarnedBefore (findingsAlong add findings state declarations) := by
  induction declarations generalizing state with
  | nil =>
    intro before span first after split
    simp [findingsAlong] at split
  | cons declaration rest ih => exact (each state declaration).append (ih (add state declaration))

/-- In the findings of a document all warnings are in place. -/
theorem warnedBefore_findings (document : Document) : WarnedBefore document.findings := by
  refine .append (.append ?_ ?_) ?_
  · apply warnedBefore_findingsAlong
    exact fun state declaration => warnedBefore_nameProblems state _ _
  · apply warnedBefore_findingsAlong
    exact fun state declaration => (nameless_specializationFindings state declaration).warnedBefore
  · apply warnedBefore_findingsAlong
    intro state declaration
    obtain ⟨others, nameless, same⟩ := exists_relationshipFindings_eq state declaration
    rw [same]
    exact (warnedBefore_nameProblems state _ _).append nameless.warnedBefore

/-! ## The outcome -/

/-- Whether a diagnostic reports that a name was declared before: the primary label comes first and
stands at the name, the other one at the first declaration. -/
structure Diagnostic.ReportsRepetition (diagnostic : Diagnostic) (name first : WrittenName) :
    Prop where
  code : diagnostic.code? = some .duplicate
  labels : diagnostic.labels =
    [⟨name.span, Code.duplicate.meaning, true⟩, ⟨first.span, "first defined here", false⟩]
  message : diagnostic.message = "`" ++ formal name ++ "` is defined multiple times"

/-- Whatever document is elaborated, the names that were declared before are reported one by one, in
order, each with the first declaration of the name.  Together with the warnings these reports follow
the order of the names, one warning for every empty name, and the warning stands right before the
report. -/
theorem repetitions_reported (document : Document) :
    ∃ diagnostics,
      ((∃ model, document.elaborate = .ok (model, diagnostics)) ∨
        document.elaborate = .error ⟨diagnostics⟩) ∧
      List.Forall₂ (fun diagnostic (name, first) => diagnostic.ReportsRepetition name first)
        (diagnostics.filter Diagnostic.isDuplicate) document.repetitions ∧
      diagnostics.filter Diagnostic.isNaming = document.namingFindings ∧
      ∀ before span first after, diagnostics = before ++ .duplicate "" span first :: after →
        ∃ earlier, before = earlier ++ [.emptyName span] := by
  refine ⟨document.findings, elaborate_findings document, ?_, filter_isNaming_findings document,
    warnedBefore_findings document⟩
  rw [filter_isDuplicate_findings, List.forall₂_map_left_iff, List.forall₂_same]
  exact fun _ _ => ⟨rfl, rfl, rfl⟩

end ErSchema.Schema
