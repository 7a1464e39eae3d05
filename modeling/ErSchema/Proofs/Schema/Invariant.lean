import ErSchema.Proofs.Schema.Claims
import Mathlib.Data.List.Find

/-!
# The invariant of elaboration

As long as nothing is wrong, the state of elaboration is determined by the declarations handled so
far, which are a document themselves.  `Elaborated` says how: the model has the parts that this
document describes, the names are those of its declarations, every entity can be referred to, and
the claimed weak entities are those that the identifying relationships claim one after the other.

Two lemmas for each kind of declaration say what one step does.  A declaration that fits the
declarations before it keeps the invariant, and a declaration that does not fit leaves an error.
-/

set_option autoImplicit false

namespace ErSchema.Schema

/-! ## References -/

/-- Names with their positions as handles. -/
def numbered (names : List String) : List (String × EntityId) :=
  names.zipIdx.map fun (name, index) => (name, ⟨index⟩)

/-- Numbered names are the same names. -/
@[simp] theorem map_fst_numbered (names : List String) :
    (numbered names).map Prod.fst = names := by
  rw [numbered, List.map_map]
  exact List.zipIdx_map_fst 0 names

/-- A name has the handle of each of its places. -/
theorem mem_numbered {names : List String} {name : String} {id : EntityId} :
    (name, id) ∈ numbered names ↔ names[id.index]? = some name := by
  obtain ⟨index⟩ := id
  simp [numbered, List.mem_zipIdx_iff_getElem?]

/-- A further name gets the next handle. -/
theorem numbered_concat (names : List String) (name : String) :
    numbered (names ++ [name]) = numbered names ++ [(name, ⟨names.length⟩)] := by
  simp [numbered, List.zipIdx_append]

/-- A reference to a name that is not in the index is not resolved. -/
theorem Elaboration.resolve_of_notMem {state : Elaboration} {reference : WrittenName}
    (absent : formal reference ∉ state.index.map Prod.fst) :
    state.resolve reference = .error (.undeclared (formal reference) reference.span) := by
  have lost := lookup_eq_none_iff_notMem.2 absent
  rw [formal] at lost
  simp only [resolve, lost, formal]

/-- The diagnostics of the items that have no outcome. -/
def problems {α β : Type} (outcome : α → Except Diagnostic β) (items : List α) :
    List Diagnostic :=
  items.filterMap fun item =>
    match outcome item with
    | .ok _ => none
    | .error diagnostic => some diagnostic

/-- When every item has an outcome, there are no problems, and the outcomes are all kept. -/
theorem problems_of_forall_ok {α β : Type} {outcome : α → Except Diagnostic β} {value : α → β}
    {items : List α} (each : ∀ item ∈ items, outcome item = .ok (value item)) :
    problems outcome items = [] ∧
      items.filterMap (fun item => (outcome item).toOption) = items.map value := by
  constructor
  · rw [problems, List.filterMap_eq_nil_iff]
    intro item mem
    rw [each item mem]
  · rw [← List.filterMap_eq_map]
    apply List.filterMap_congr
    intro item mem
    rw [each item mem]
    rfl

/-- Of some references, those that can be resolved give handles and the others give diagnostics. -/
theorem resolveAll_eq (state : Elaboration) (references : List WrittenName) :
    state.resolveAll references =
      (references.filterMap fun reference => (state.resolve reference).toOption,
        problems state.resolve references) := by
  refine Prod.ext rfl (List.filterMap_congr fun reference _ => ?_)
  cases state.resolve reference <;> rfl

/-- The problems of links are those of the links one by one. -/
theorem linkProblems_eq (state : Elaboration) (declarations : List LinkDeclaration) :
    state.linkProblems declarations = problems state.toLink declarations := by
  refine List.filterMap_congr fun declaration _ => ?_
  cases state.toLink declaration <;> rfl

/-- The diagnostic of an item without an outcome is among the problems. -/
theorem hasError_problems {α β : Type} {outcome : α → Except Diagnostic β} {items : List α}
    {item : α} (mem : item ∈ items) {diagnostic : Diagnostic}
    (failed : outcome item = .error diagnostic) (error : diagnostic.severity = .error) :
    HasError (problems outcome items) := by
  refine ⟨diagnostic, ?_, error⟩
  rw [problems, List.mem_filterMap]
  exact ⟨item, mem, by rw [failed]⟩

/-! ## The invariant -/

/-- How the state stands to the declarations handled so far while nothing is wrong. -/
structure Elaborated (done : Document) (state : Elaboration) : Prop
    extends HasParts done state.model where
  distinct : (done.entityNames ++ done.relationshipNames).Nodup
  names_eq : state.names = done.entityNames ++ done.relationshipNames
  index_eq : state.index = numbered done.entityNames
  claimed : state.model.identifications.map Prod.fst =
    (done.claimedBy done.relationships).map (handleOf done.entityNames)
  clean : ¬ HasError state.diagnostics

/-- A relationship fits the declarations before it when its name is new, its participants are
declared, and what it has to claim is left. -/
def Document.Admits (done : Document) (declaration : RelationshipDeclaration) : Prop :=
  formal declaration.name ∉ done.entityNames ++ done.relationshipNames ∧
  declaration.Settled done.entityNames ∧
  (declaration.kind = .identifying →
    (done.claim? (done.claimedBy done.relationships) declaration).isSome)

/-- Before the first declaration nothing is wrong. -/
theorem elaborated_start (document : Document) :
    Elaborated { document with entities := [], specializations := [], relationships := [] }
      (Elaboration.start document) where
  name := rfl
  description := rfl
  authors := rfl
  entities := rfl
  relationships := rfl
  distinct := List.nodup_nil
  names_eq := rfl
  index_eq := rfl
  claimed := rfl
  clean := not_hasError_nil

/-- A further entity brings its name, behind the other names of entities. -/
@[simp] theorem Document.entityNames_concat (document : Document)
    (declaration : EntityDeclaration) :
    Document.entityNames { document with entities := document.entities ++ [declaration] } =
      document.entityNames ++ [formal declaration.name] := by
  simp [Document.entityNames]

/-- A further relationship brings its name, behind the other names of relationships. -/
@[simp] theorem Document.relationshipNames_concat (document : Document)
    (declaration : RelationshipDeclaration) :
    Document.relationshipNames
        { document with relationships := document.relationships ++ [declaration] } =
      document.relationshipNames ++ [formal declaration.name] := by
  simp [Document.relationshipNames]

/-- With distinct keys, a change at the position of a key is a change of the element with that
key. -/
theorem modify_map_idxOf {α β : Type} {key : α → String} {items : List α}
    (distinct : (items.map key).Nodup) {name : String} (declared : name ∈ items.map key)
    {image changed : α → β} {change : β → β}
    (here : ∀ item ∈ items, key item = name → changed item = change (image item))
    (elsewhere : ∀ item ∈ items, key item ≠ name → changed item = image item) :
    (items.map image).modify ((items.map key).idxOf name) change = items.map changed := by
  apply List.ext_getElem?
  intro index
  rw [List.getElem?_modify, List.getElem?_map, List.getElem?_map]
  cases found : items[index]? with
  | none => split <;> rfl
  | some item =>
    have mem : item ∈ items := List.mem_of_getElem? found
    have position : key item = name ↔ index = (items.map key).idxOf name := by
      have unique := getElem?_eq_some_iff_handleOf distinct declared index
      rwa [List.getElem?_map, found, Option.map_some, Option.some.injEq] at unique
    rw [Option.map_some, Option.map_some, Option.map_eq_map, Option.map_some]
    by_cases same : key item = name
    · rw [if_pos (position.1 same).symm, here item mem same]
    · rw [if_neg fun met => same (position.2 (Eq.symm met)), elsewhere item mem same]

/-- Without specializations the described entities are those of the declarations. -/
theorem describedEntity_of_undivided {document : Document}
    (undivided : document.specializations = []) (declaration : EntityDeclaration) :
    document.describedEntity declaration = declaration.toEntity := by
  have none : document.divisions declaration = declaration.toEntity.specializations := by
    rw [declaration.specializations_toEntity, Document.divisions, undivided]
    rfl
  rw [Document.describedEntity, none]

namespace Elaborated

variable {done : Document} {state : Elaboration} (fits : Elaborated done state)

include fits

/-- The entities handled so far have different names. -/
theorem nodup_entityNames : done.entityNames.Nodup :=
  (List.nodup_append.1 fits.distinct).1

/-- A reference to a declared entity is resolved to its handle. -/
theorem resolve_of_mem {reference : WrittenName} (declared : formal reference ∈ done.entityNames) :
    state.resolve reference = .ok (handleOf done.entityNames (formal reference)) := by
  have distinct : ((numbered done.entityNames).map Prod.fst).Nodup := by
    rw [map_fst_numbered]
    exact fits.nodup_entityNames
  have listed := mem_numbered.2 (getElem?_handleOf declared)
  have found := (lookup_eq_some_iff_mem distinct _ _).2 listed
  rw [← fits.index_eq, formal] at found
  simp only [Elaboration.resolve, found, formal]

/-- A reference to an entity that is not declared is not resolved. -/
theorem resolve_of_notMem {reference : WrittenName}
    (absent : formal reference ∉ done.entityNames) :
    state.resolve reference = .error (.undeclared (formal reference) reference.span) := by
  apply Elaboration.resolve_of_notMem
  rw [fits.index_eq, map_fst_numbered]
  exact absent

/-! ## Entities -/

/-- An entity with a new name keeps the invariant. -/
theorem addEntity (undivided : done.specializations = []) (unrelated : done.relationships = [])
    {declaration : EntityDeclaration} (free : formal declaration.name ∉ done.entityNames) :
    Elaborated { done with entities := done.entities ++ [declaration] }
      (state.addEntity declaration) := by
  have related : done.relationshipNames = [] := by simp [Document.relationshipNames, unrelated]
  have free' : formal declaration.name ∉ state.names := by
    rwa [fits.names_eq, related, List.append_nil]
  have size : state.model.entities.length = done.entityNames.length := by
    simp [fits.entities, Document.entityNames]
  rw [Elaboration.addEntity_of_free free']
  exact {
    name := fits.name
    description := fits.description
    authors := fits.authors
    entities := by
      have same : ∀ entities, Document.describedEntity { done with entities } =
          EntityDeclaration.toEntity :=
        fun entities => funext (@describedEntity_of_undivided { done with entities } undivided)
      have before : state.model.entities = done.entities.map EntityDeclaration.toEntity :=
        fits.entities.trans (by rw [← same done.entities])
      simp [Model.addEntity, before, same]
    relationships := by
      have before := fits.relationships
      rw [unrelated] at before ⊢
      exact before
    distinct := by
      have later : Document.relationshipNames
          { done with entities := done.entities ++ [declaration] } = [] := related
      rw [later, List.append_nil, Document.entityNames_concat]
      simpa using fits.nodup_entityNames.concat free
    names_eq := by
      have later : Document.relationshipNames
          { done with entities := done.entities ++ [declaration] } = [] := related
      have before := fits.names_eq
      rw [related, List.append_nil] at before
      rw [later, List.append_nil, Document.entityNames_concat, ← before]
      simp [Elaboration.names]
    index_eq := by
      rw [Document.entityNames_concat, numbered_concat, ← fits.index_eq, size]
    claimed := by
      have before := fits.claimed
      rw [unrelated] at before ⊢
      exact before
    clean := by
      rw [hasError_append]
      rintro (before | found)
      · exact fits.clean before
      · exact free' (Elaboration.hasError_nameProblems.1 found) }

/-- An entity with a name that was declared before leaves an error. -/
theorem hasError_addEntity {declaration : EntityDeclaration}
    (taken : formal declaration.name ∈ done.entityNames ++ done.relationshipNames) :
    HasError (state.addEntity declaration).diagnostics := by
  rw [Elaboration.diagnostics_addEntity, hasError_append, Elaboration.entityFindings,
    Elaboration.hasError_nameProblems, fits.names_eq]
  exact .inr taken

/-! ## Specializations -/

/-- Handles of declared entities are known to the model. -/
theorem unknownEntity?_eq_none {specialization : Specialization}
    (known : ∀ id ∈ specialization.derived ++ [specialization.parent],
      ∃ name ∈ done.entityNames, id = handleOf done.entityNames name) :
    state.model.unknownEntity? specialization = none := by
  rw [Model.unknownEntity?, List.find?_eq_none]
  intro id mem
  obtain ⟨name, declared, rfl⟩ := known id mem
  obtain ⟨entity, found⟩ := fits.entity?_isSome declared
  simp [found]

/-- A specialization goes to the end of the list of its parent, where the document declares it. -/
theorem modify_attach {declaration : SpecializationDeclaration} {reference : WrittenName}
    (given : declaration.parent = some reference)
    (declared : formal reference ∈ done.entityNames) :
    state.model.entities.modify (handleOf done.entityNames (formal reference)).index
        (·.attach (declaration.withHandles (handleOf done.entityNames (formal reference))
          (declaration.derived.map fun name => handleOf done.entityNames (formal name)))) =
      done.entities.map (Document.describedEntity
        { done with specializations := done.specializations ++ [declaration] }) := by
  rw [fits.entities]
  apply modify_map_idxOf fits.nodup_entityNames declared
  · rintro entity - same
    have divides : declaration.divides entity = true := by
      simp [SpecializationDeclaration.divides, given, same]
    simp [Document.describedEntity, Document.divisions, Document.entityNames, divides,
      Entity.attach, same]
  · rintro entity - other
    have divides : declaration.divides entity = false := by
      simpa [SpecializationDeclaration.divides, given] using fun same => other same.symm
    simp [Document.describedEntity, Document.divisions, Document.entityNames, divides]

/-- A settled specialization keeps the invariant. -/
theorem addSpecialization {declaration : SpecializationDeclaration}
    (settled : declaration.Settled done.entityNames) :
    Elaborated { done with specializations := done.specializations ++ [declaration] }
      (state.addSpecialization declaration) := by
  obtain ⟨⟨reference, given, declared⟩, derived⟩ := settled
  have resolved := fits.resolve_of_mem declared
  obtain ⟨settled, handles⟩ := problems_of_forall_ok fun name mem =>
    fits.resolve_of_mem (derived name mem)
  have all : state.resolveAll declaration.derived =
      (declaration.derived.map fun name => handleOf done.entityNames (formal name), []) := by
    rw [resolveAll_eq, settled, handles]
  have known : state.model.unknownEntity? (declaration.withHandles
      (handleOf done.entityNames (formal reference))
      (declaration.derived.map fun name => handleOf done.entityNames (formal name))) = none := by
    apply fits.unknownEntity?_eq_none
    intro id mem
    rcases List.mem_append.1 mem with mem | mem
    · obtain ⟨name, listed, rfl⟩ := List.mem_map.1 mem
      exact ⟨formal name, derived name listed, rfl⟩
    · exact ⟨formal reference, declared, List.mem_singleton.1 mem⟩
  have accepted := Model.specialize_eq_ok_iff.2 ⟨known, rfl⟩
  have noted : state.specializationFindings declaration = [] := by
    simp only [Elaboration.specializationFindings, given, resolved, all, accepted, refusal,
      List.append_nil]
  rw [Elaboration.addSpecialization_of_parent given resolved, all, accepted, noted,
    List.append_nil]
  exact {
    name := fits.name
    description := fits.description
    authors := fits.authors
    entities := fits.modify_attach given declared
    relationships := fits.relationships
    distinct := fits.distinct
    names_eq := fits.names_eq
    index_eq := fits.index_eq
    claimed := fits.claimed
    clean := fits.clean }

/-- A specialization that is not settled leaves an error. -/
theorem hasError_addSpecialization {declaration : SpecializationDeclaration}
    (unsettled : ¬ declaration.Settled done.entityNames) :
    HasError (state.addSpecialization declaration).diagnostics := by
  rw [Elaboration.diagnostics_addSpecialization, hasError_append]
  right
  unfold Elaboration.specializationFindings
  cases given : declaration.parent with
  | none => exact hasError_singleton.2 rfl
  | some reference =>
    by_cases declared : formal reference ∈ done.entityNames
    · -- the parent is declared, so a derived entity is not
      simp only [fits.resolve_of_mem declared, resolveAll_eq, hasError_append]
      left
      refine Classical.byContradiction fun unnoticed => unsettled ⟨⟨reference, given, declared⟩, ?_⟩
      intro derived mem
      refine Classical.byContradiction fun absent => unnoticed ?_
      exact hasError_problems mem (fits.resolve_of_notMem absent) rfl
    · simp only [fits.resolve_of_notMem declared]
      exact hasError_singleton.2 rfl

/-! ## Relationships -/

/-- A settled link is built as the document describes it. -/
theorem toLink_of_settled {declaration : LinkDeclaration}
    (settled : declaration.Settled done.entityNames) :
    state.toLink declaration = .ok (declaration.described done.entityNames) := by
  unfold Elaboration.toLink LinkDeclaration.described
  cases given : declaration.entity with
  | none => rfl
  | some reference =>
    simp only [fits.resolve_of_mem (settled reference given)]
    rfl

/-- A link that is not settled is not built. -/
theorem exists_toLink_eq_error {declaration : LinkDeclaration}
    (unsettled : ¬ declaration.Settled done.entityNames) :
    ∃ diagnostic, state.toLink declaration = .error diagnostic ∧ diagnostic.severity = .error := by
  simp only [LinkDeclaration.Settled, Classical.not_forall] at unsettled
  obtain ⟨reference, given, absent⟩ := unsettled
  refine ⟨.undeclared (formal reference) reference.span, ?_, rfl⟩
  simp only [Elaboration.toLink, given, fits.resolve_of_notMem absent]
  rfl

/-- The handle of a declared name awaits identification when the document declares a weak entity
with that name that is not yet claimed. -/
theorem awaitsIdentification_handleOf {name : String} (declared : name ∈ done.entityNames) :
    state.model.awaitsIdentification (handleOf done.entityNames name) =
      (done.declaresWeak name && !(done.claimedBy done.relationships).contains name) := by
  have weak : (state.model.entity? (handleOf done.entityNames name)).any Entity.isWeak =
      done.declaresWeak name := by
    obtain ⟨declaration, mem, rfl, found⟩ := fits.exists_entity? declared
    rw [found, declaresWeak_of_mem fits.nodup_entityNames mem]
    simp [Entity.isWeak, Document.describedEntity]
  have claimed : handleOf done.entityNames name ∈ state.model.identifications.map Prod.fst ↔
      name ∈ done.claimedBy done.relationships := by
    rw [fits.claimed, List.mem_map]
    constructor
    · rintro ⟨other, mem, same⟩
      rwa [(handleOf_inj declared).1 same.symm]
    · exact fun mem => ⟨name, mem, rfl⟩
  rw [Model.awaitsIdentification, weak, Model.identifyingRelationship?]
  congr 1
  rw [Bool.eq_iff_iff, Option.isNone_iff_eq_none, lookup_eq_none_iff_notMem, claimed]
  simp

/-- The claim of a settled relationship is the handle of the claim that the document makes. -/
theorem claim?_described {declaration : RelationshipDeclaration}
    (settled : declaration.Settled done.entityNames)
    (identifying : declaration.kind = .identifying) :
    state.model.claim? (declaration.described done.entityNames) =
      (done.claim? (done.claimedBy done.relationships) declaration).map
        (handleOf done.entityNames) := by
  rw [Model.claim?, participants_described, List.find?_map, Document.claim?, if_pos identifying]
  congr 1
  apply List.find?_congr
  intro name mem
  exact fits.awaitsIdentification_handleOf (settled.mem_of_mem_participants mem)

/-- The model accepts a settled relationship when the claim is possible, and then the claimed entity
goes to the end of the table. -/
theorem claims_described {declaration : RelationshipDeclaration}
    (settled : declaration.Settled done.entityNames)
    (possible : declaration.kind = .identifying →
      (done.claim? (done.claimedBy done.relationships) declaration).isSome) :
    ∃ claimed, state.model.claims (declaration.described done.entityNames) = .ok claimed ∧
      claimed.map Prod.fst =
        (done.claim? (done.claimedBy done.relationships) declaration).toList.map
          (handleOf done.entityNames) := by
  by_cases identifying : declaration.kind = .identifying
  · obtain ⟨name, claim⟩ := Option.isSome_iff_exists.1 (possible identifying)
    have first := fits.claim?_described settled identifying
    rw [claim, Option.map_some] at first
    refine ⟨_, Model.claims_eq_ok_iff.2 (.inr ⟨decide_eq_true identifying, _, first, rfl⟩), ?_⟩
    rw [claim]
    rfl
  · refine ⟨[], Model.claims_eq_ok_iff.2 (.inl ⟨decide_eq_false identifying, rfl⟩), ?_⟩
    rw [Document.claim?, if_neg identifying]
    rfl

/-- The model refuses a settled relationship whose claim is not possible. -/
theorem claims_described_of_impossible {declaration : RelationshipDeclaration}
    (settled : declaration.Settled done.entityNames) (identifying : declaration.kind = .identifying)
    (impossible : done.claim? (done.claimedBy done.relationships) declaration = none) :
    state.model.claims (declaration.described done.entityNames) =
      .error (.unidentifiedWeakEntity (formal declaration.name)) := by
  have first := fits.claim?_described settled identifying
  rw [impossible, Option.map_none] at first
  have isIdentifying : (declaration.described done.entityNames).isIdentifying = true :=
    decide_eq_true identifying
  rw [Model.claims, if_pos isIdentifying, first]
  rfl

/-- A settled relationship has no problems, and its links are built as the document describes
them. -/
theorem links_of_settled {declaration : RelationshipDeclaration}
    (settled : declaration.Settled done.entityNames) :
    state.linkProblems declaration.links = [] ∧
      declaration.withLinks (state.linksOf declaration) =
        declaration.described done.entityNames := by
  obtain ⟨none, links⟩ := problems_of_forall_ok fun link mem =>
    fits.toLink_of_settled (settled link mem)
  refine ⟨(linkProblems_eq _ _).trans none, ?_⟩
  rw [Elaboration.linksOf, links, RelationshipDeclaration.described]

/-- A relationship that is not settled has a link that leaves an error. -/
theorem hasError_linkProblems {declaration : RelationshipDeclaration}
    (unsettled : ¬ declaration.Settled done.entityNames) :
    HasError (state.linkProblems declaration.links) := by
  simp only [RelationshipDeclaration.Settled, Classical.not_forall] at unsettled
  obtain ⟨link, listed, unsettled⟩ := unsettled
  obtain ⟨diagnostic, failed, error⟩ := fits.exists_toLink_eq_error unsettled
  rw [linkProblems_eq]
  exact hasError_problems listed failed error

/-- A relationship that fits keeps the invariant. -/
theorem addRelationship {declaration : RelationshipDeclaration}
    (admitted : done.Admits declaration) :
    Elaborated { done with relationships := done.relationships ++ [declaration] }
      (state.addRelationship declaration) := by
  obtain ⟨free, settled, possible⟩ := admitted
  rw [← fits.names_eq] at free
  obtain ⟨none, built⟩ := fits.links_of_settled settled
  obtain ⟨claimed, claims, keys⟩ := fits.claims_described settled possible
  have accepted := Model.addRelationship_eq_ok_iff.2 ⟨claimed, claims, rfl, rfl⟩
  have noted : ¬ HasError (state.relationshipFindings declaration) := by
    rw [Elaboration.relationshipFindings, if_neg free, none, built, accepted,
      hasError_append, Elaboration.hasError_nameProblems]
    rintro (taken | refused)
    · exact free taken
    · exact not_hasError_nil refused
  have relationships :
      state.model.relationships ++ [declaration.described done.entityNames] =
        (done.relationships ++ [declaration]).map
          (RelationshipDeclaration.described done.entityNames) := by
    rw [List.map_append, ← fits.relationships]
    rfl
  have distinct :
      (done.entityNames ++ (done.relationshipNames ++ [formal declaration.name])).Nodup := by
    rw [fits.names_eq] at free
    simpa using fits.distinct.concat free
  have names :
      (state.declared ++ [(formal declaration.name, declaration.name.span)]).map Prod.fst =
        done.entityNames ++ (done.relationshipNames ++ [formal declaration.name]) := by
    rw [List.map_append, ← List.append_assoc, ← fits.names_eq]
    rfl
  rw [Elaboration.addRelationship_of_free free, none, built, accepted]
  exact {
    name := fits.name
    description := fits.description
    authors := fits.authors
    entities := fits.entities
    relationships := relationships
    distinct := by
      rw [Document.relationshipNames_concat]
      exact distinct
    names_eq := by
      rw [Document.relationshipNames_concat]
      exact names
    index_eq := fits.index_eq
    claimed := by
      rw [Document.claimedBy_concat, List.map_append]
      exact (List.map_append ..).trans (congr (congrArg _ fits.claimed) keys)
    clean := by
      rw [hasError_append]
      exact fun found => found.elim fits.clean noted }

/-- A relationship that does not fit leaves an error. -/
theorem hasError_addRelationship {declaration : RelationshipDeclaration}
    (unfit : ¬ done.Admits declaration) :
    HasError (state.addRelationship declaration).diagnostics := by
  rw [Elaboration.diagnostics_addRelationship, hasError_append, Elaboration.relationshipFindings,
    hasError_append, Elaboration.hasError_nameProblems]
  right
  by_cases taken : formal declaration.name ∈ state.names
  · exact .inl taken
  right
  rw [if_neg taken]
  by_cases settled : declaration.Settled done.entityNames
  · -- only the claim is left to go wrong, so the model refuses
    obtain ⟨none, built⟩ := fits.links_of_settled settled
    have impossible : declaration.kind = .identifying ∧
        done.claim? (done.claimedBy done.relationships) declaration = .none := by
      rw [fits.names_eq] at taken
      simpa [Document.Admits, taken, settled] using unfit
    have refused := fits.claims_described_of_impossible settled impossible.1 impossible.2
    rw [none, built]
    refine hasError_refusal.2 ⟨.unidentifiedWeakEntity (formal declaration.name), ?_⟩
    rw [Model.addRelationship, refused]
    rfl
  · have noticed := fits.hasError_linkProblems settled
    have some : (state.linkProblems declaration.links).isEmpty = false := by
      cases problems : state.linkProblems declaration.links with
      | nil => exact absurd (problems ▸ noticed) not_hasError_nil
      | cons first rest => rfl
    rw [some]
    exact noticed

end Elaborated

end ErSchema.Schema
