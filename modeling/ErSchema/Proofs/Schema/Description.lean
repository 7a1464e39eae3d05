import ErSchema.Proofs.Schema.Findings
import Mathlib.Data.List.Forall2
import Mathlib.Data.List.Nodup

/-!
# What a document describes

`Represents` says, without any reference to elaboration, which models a document describes: every
declaration has its part of the model at its own position and there are no other parts, references
are handles of the declared entities, and attribute trees agree node for node.

`describedEntity` and `describedRelationship` give the parts that a document describes as functions
of the document.  They are the link between the relation and elaboration: elaboration is shown to
build exactly these parts, and `HasParts.represents` shows that they make up a represented model.
-/

set_option autoImplicit false

namespace ErSchema.Schema

/-! ## Names and references -/

/-- The names of the entities of a document, by position. -/
def Document.entityNames (document : Document) : List String :=
  document.entities.map fun declaration => formal declaration.name

/-- The names of the relationships of a document, by position. -/
def Document.relationshipNames (document : Document) : List String :=
  document.relationships.map fun declaration => formal declaration.name

/-- A handle denotes a reference when the name referred to stands at the position of the handle and
nowhere else. -/
def Denotes (names : List String) (reference : WrittenName) (id : EntityId) : Prop :=
  ∀ index, names[index]? = some (formal reference) ↔ index = id.index

/-- The handle of the entity with a name. -/
def handleOf (names : List String) (name : String) : EntityId :=
  ⟨names.idxOf name⟩

/-- Behind the handle of a declared name stands this name. -/
theorem getElem?_handleOf {names : List String} {name : String} (declared : name ∈ names) :
    names[(handleOf names name).index]? = some name :=
  List.getElem?_idxOf declared

/-- Among distinct names the position of a name is the only one where it stands. -/
theorem getElem?_eq_some_iff_handleOf {names : List String} (distinct : names.Nodup)
    {name : String} (declared : name ∈ names) (index : Nat) :
    names[index]? = some name ↔ index = (handleOf names name).index := by
  constructor
  · intro found
    obtain ⟨bound, rfl⟩ := List.getElem?_eq_some_iff.1 found
    exact (distinct.idxOf_getElem index bound).symm
  · rintro rfl
    exact getElem?_handleOf declared

/-- Among different names, a reference denotes the handle of its name. -/
theorem denotes_handleOf {names : List String} (distinct : names.Nodup) {reference : WrittenName}
    (declared : formal reference ∈ names) :
    Denotes names reference (handleOf names (formal reference)) :=
  getElem?_eq_some_iff_handleOf distinct declared

/-- Different names have different handles. -/
theorem handleOf_inj {names : List String} {first second : String} (declared : first ∈ names) :
    handleOf names first = handleOf names second ↔ first = second := by
  rw [handleOf, handleOf, EntityId.mk.injEq, List.idxOf_inj declared]

/-! ## What a model has to hold -/

/-- An attribute tree agrees with a declaration node for node: key flags are kept, and kinds are
kept except that a simple attribute with components is composite. -/
inductive AttributeDeclaration.Describes : AttributeDeclaration → Attribute → Prop where
  | node {declaration : AttributeDeclaration} {described : Attribute}
      (name : described.name = Name.ofAttribute declaration.name)
      (kind : described.kind =
        if declaration.kind = .simple ∧ declaration.components ≠ [] then .composite
        else declaration.kind)
      (isKey : described.isKey = declaration.isKey)
      (components : List.Forall₂ Describes declaration.components described.components) :
      Describes declaration described

/-- A specialization agrees with a declaration. -/
structure SpecializationDeclaration.Describes (names : List String)
    (declaration : SpecializationDeclaration) (specialization : Specialization) : Prop where
  kind : specialization.kind = declaration.kind
  parent : ∃ reference, declaration.parent = some reference ∧
    Denotes names reference specialization.parent
  role : specialization.role = Specialization.roleOfText declaration.role
  isTotal : specialization.isTotal = declaration.isTotal
  derived : List.Forall₂ (Denotes names) declaration.derived specialization.derived

/-- Whether a specialization is declared for an entity. -/
def SpecializationDeclaration.divides (specialization : SpecializationDeclaration)
    (entity : EntityDeclaration) : Bool :=
  specialization.parent.any fun reference => formal reference == formal entity.name

/-- An entity agrees with a declaration of a document: its key is the first attribute with the key
flag, and its specializations are those declared for it. -/
structure EntityDeclaration.Describes (document : Document) (declaration : EntityDeclaration)
    (entity : Entity) : Prop where
  kind : entity.kind = declaration.kind
  name : entity.name = formal declaration.name
  attributes : List.Forall₂ AttributeDeclaration.Describes declaration.attributes entity.attributes
  keyPosition : entity.keyPosition = declaration.attributes.findIdx? AttributeDeclaration.isKey
  specializations :
    List.Forall₂ (SpecializationDeclaration.Describes document.entityNames)
      (document.specializations.filter (·.divides declaration)) entity.specializations

/-- A link agrees with a declaration: it lacks a participant exactly when none is declared. -/
structure LinkDeclaration.Describes (names : List String) (declaration : LinkDeclaration)
    (link : Link) : Prop where
  participant : Option.Rel (Denotes names) declaration.entity link.entity
  constraint : link.constraint = declaration.constraint
  role : link.role = Unicode.lowercase declaration.role

/-- A relationship agrees with a declaration. -/
structure RelationshipDeclaration.Describes (names : List String)
    (declaration : RelationshipDeclaration) (relationship : Relationship) : Prop where
  kind : relationship.kind = declaration.kind
  name : relationship.name = formal declaration.name
  links : List.Forall₂ (LinkDeclaration.Describes names) declaration.links relationship.links
  attributes :
    List.Forall₂ AttributeDeclaration.Describes declaration.attributes relationship.attributes

/-- A model holds every declaration of a document, in the declared order, and nothing else. -/
structure Represents (document : Document) (model : Model) : Prop where
  name : model.name = document.name
  description : model.description = document.description
  authors : model.authors = document.authors
  entities :
    List.Forall₂ (EntityDeclaration.Describes document) document.entities model.entities
  relationships :
    List.Forall₂ (RelationshipDeclaration.Describes document.entityNames) document.relationships
      model.relationships
  /-- No specialization is left out, because each is declared for an entity. -/
  divided : ∀ specialization ∈ document.specializations,
    ∃ entity ∈ document.entities, specialization.divides entity = true
  /-- The handles in specializations were issued by the model. -/
  resolved : ∀ entity ∈ model.entities, ∀ specialization ∈ entity.specializations,
    ∀ id ∈ specialization.parent :: specialization.derived, ∃ found, model.entity? id = some found
  /-- The handles in links were issued by the model. -/
  linked : ∀ relationship ∈ model.relationships, ∀ id ∈ relationship.participants,
    ∃ found, model.entity? id = some found

/-! ## Which references have to be declared -/

/-- A specialization is settled when it has a parent, and parent and derived entities are
declared. -/
def SpecializationDeclaration.Settled (names : List String)
    (declaration : SpecializationDeclaration) : Prop :=
  (∃ reference, declaration.parent = some reference ∧ formal reference ∈ names) ∧
    ∀ reference ∈ declaration.derived, formal reference ∈ names

/-- A link is settled when its participant is declared, if it has one. -/
def LinkDeclaration.Settled (names : List String) (declaration : LinkDeclaration) : Prop :=
  ∀ reference, declaration.entity = some reference → formal reference ∈ names

/-- A relationship is settled when its links are. -/
def RelationshipDeclaration.Settled (names : List String)
    (declaration : RelationshipDeclaration) : Prop :=
  ∀ link ∈ declaration.links, link.Settled names

/-! ## The parts that a document describes -/

/-- The specializations that a document declares for an entity. -/
def Document.divisions (document : Document) (entity : EntityDeclaration) : List Specialization :=
  (document.specializations.filter (·.divides entity)).map fun specialization =>
    specialization.withHandles (handleOf document.entityNames (formal entity.name))
      (specialization.derived.map fun reference => handleOf document.entityNames (formal reference))

/-- The entity that a document describes by a declaration. -/
def Document.describedEntity (document : Document) (declaration : EntityDeclaration) : Entity :=
  { declaration.toEntity with specializations := document.divisions declaration }

/-- The link that a declaration describes. -/
def LinkDeclaration.described (names : List String) (declaration : LinkDeclaration) : Link :=
  .ofRole (declaration.entity.map fun reference => handleOf names (formal reference))
    declaration.constraint declaration.role

/-- The relationship that a declaration describes. -/
def RelationshipDeclaration.described (names : List String)
    (declaration : RelationshipDeclaration) : Relationship :=
  declaration.withLinks (declaration.links.map (LinkDeclaration.described names))

mutual

/-- A declaration describes the attribute that is built from it. -/
theorem describes_toAttribute :
    ∀ declaration : AttributeDeclaration, declaration.Describes declaration.toAttribute
  | ⟨name, kind, isKey, components⟩ => by
    rw [AttributeDeclaration.toAttribute]
    refine .node ?_ ?_ ?_ ?_
    · rw [Attribute.name_addComponents, Attribute.ofName]
    · rw [Attribute.kind_addComponents, Attribute.ofName]
      cases components <;> simp [toAttributes]
    · rw [Attribute.isKey_addComponents, Attribute.ofName]
    · rw [Attribute.components_addComponents, Attribute.ofName, List.nil_append]
      exact forall₂_describes_toAttributes components

/-- Declarations describe the attributes that are built from them, one by one. -/
theorem forall₂_describes_toAttributes :
    ∀ declarations : List AttributeDeclaration,
      List.Forall₂ AttributeDeclaration.Describes declarations (toAttributes declarations)
  | [] => by
    rw [toAttributes]
    exact .nil
  | first :: rest => by
    rw [toAttributes]
    exact .cons (describes_toAttribute first) (forall₂_describes_toAttributes rest)

end

/-- Lists agree with their images when every element agrees with its image. -/
theorem forall₂_map_self {α β : Type} {related : α → β → Prop} {image : α → β} {items : List α}
    (each : ∀ item ∈ items, related item (image item)) :
    List.Forall₂ related items (items.map image) := by
  rw [List.forall₂_map_right_iff, List.forall₂_same]
  exact each

section Parts

variable {document : Document} (distinct : document.entityNames.Nodup)

include distinct

/-- A settled specialization is described by what is built from it in the list of its parent. -/
theorem describes_division {entity : EntityDeclaration}
    {specialization : SpecializationDeclaration} (divides : specialization.divides entity = true)
    (settled : specialization.Settled document.entityNames) :
    specialization.Describes document.entityNames
      (specialization.withHandles (handleOf document.entityNames (formal entity.name))
        (specialization.derived.map fun reference =>
          handleOf document.entityNames (formal reference))) := by
  obtain ⟨⟨reference, given, declared⟩, derived⟩ := settled
  have same : formal reference = formal entity.name := by
    simpa [SpecializationDeclaration.divides, given] using divides
  refine ⟨rfl, ⟨reference, given, ?_⟩, rfl, rfl, ?_⟩
  · rw [← same]
    exact denotes_handleOf distinct declared
  · exact forall₂_map_self fun reference mem => denotes_handleOf distinct (derived reference mem)

/-- An entity is described when the specializations of the document are settled. -/
theorem describes_describedEntity
    (settled : ∀ specialization ∈ document.specializations,
      specialization.Settled document.entityNames) (declaration : EntityDeclaration) :
    declaration.Describes document (document.describedEntity declaration) where
  kind := declaration.kind_toEntity
  name := declaration.name_toEntity
  attributes := by
    change List.Forall₂ _ _ declaration.toEntity.attributes
    rw [declaration.attributes_toEntity]
    exact forall₂_describes_toAttributes _
  keyPosition := declaration.keyPosition_toEntity
  specializations := by
    apply forall₂_map_self
    intro specialization mem
    obtain ⟨declared, divides⟩ := List.mem_filter.1 mem
    exact describes_division distinct divides (settled specialization declared)

/-- A settled link is described by what is built from it. -/
theorem LinkDeclaration.Settled.describes {declaration : LinkDeclaration}
    (settled : declaration.Settled document.entityNames) :
    declaration.Describes document.entityNames (declaration.described document.entityNames) where
  participant := by
    cases given : declaration.entity with
    | none =>
      rw [LinkDeclaration.described, given]
      exact .none
    | some reference =>
      rw [LinkDeclaration.described, given]
      exact .some (denotes_handleOf distinct (settled reference given))
  constraint := rfl
  role := rfl

/-- A settled relationship is described by what is built from it. -/
theorem RelationshipDeclaration.Settled.describes {declaration : RelationshipDeclaration}
    (settled : declaration.Settled document.entityNames) :
    declaration.Describes document.entityNames (declaration.described document.entityNames) where
  kind := rfl
  name := rfl
  links := forall₂_map_self fun link mem => (settled link mem).describes distinct
  attributes := forall₂_describes_toAttributes _

end Parts

/-- The parts of a model that a document describes. -/
structure HasParts (document : Document) (model : Model) : Prop where
  name : model.name = document.name
  description : model.description = document.description
  authors : model.authors = document.authors
  entities : model.entities = document.entities.map document.describedEntity
  relationships : model.relationships =
    document.relationships.map (RelationshipDeclaration.described document.entityNames)

/-- The handle of a declared name finds the entity that is described under that name. -/
theorem HasParts.exists_entity? {document : Document} {model : Model}
    (parts : HasParts document model) {name : String} (declared : name ∈ document.entityNames) :
    ∃ declaration ∈ document.entities, formal declaration.name = name ∧
      model.entity? (handleOf document.entityNames name) =
        some (document.describedEntity declaration) := by
  have found := getElem?_handleOf declared
  simp only [Document.entityNames, List.getElem?_map, Option.map_eq_some_iff] at found
  obtain ⟨declaration, found, rfl⟩ := found
  refine ⟨declaration, List.mem_of_getElem? found, rfl, ?_⟩
  rw [Model.entity?, parts.entities, List.getElem?_map]
  exact congrArg _ found

/-- The handle of a declared name denotes an entity of the model. -/
theorem HasParts.entity?_isSome {document : Document} {model : Model}
    (parts : HasParts document model) {name : String} (declared : name ∈ document.entityNames) :
    ∃ found, model.entity? (handleOf document.entityNames name) = some found := by
  obtain ⟨declaration, -, -, found⟩ := parts.exists_entity? declared
  exact ⟨_, found⟩

/-- A model with the parts that a settled document describes is represented by the document. -/
theorem HasParts.represents {document : Document} {model : Model}
    (parts : HasParts document model) (distinct : document.entityNames.Nodup)
    (divisions : ∀ specialization ∈ document.specializations,
      specialization.Settled document.entityNames)
    (links : ∀ relationship ∈ document.relationships,
      relationship.Settled document.entityNames) :
    Represents document model where
  name := parts.name
  description := parts.description
  authors := parts.authors
  entities := by
    rw [parts.entities]
    exact forall₂_map_self fun declaration _ =>
      describes_describedEntity distinct divisions declaration
  relationships := by
    rw [parts.relationships]
    exact forall₂_map_self fun declaration mem => (links declaration mem).describes distinct
  divided := by
    intro specialization mem
    obtain ⟨⟨reference, given, declared⟩, -⟩ := divisions specialization mem
    obtain ⟨entity, mem, same⟩ := List.mem_map.1 declared
    exact ⟨entity, mem, by simp [SpecializationDeclaration.divides, given, same]⟩
  resolved := by
    intro entity mem specialization listed id named
    rw [parts.entities, List.mem_map] at mem
    obtain ⟨declaration, mem, rfl⟩ := mem
    obtain ⟨declared, filtered, rfl⟩ := List.mem_map.1 listed
    rcases List.mem_cons.1 named with rfl | named
    · exact parts.entity?_isSome (List.mem_map_of_mem mem)
    · obtain ⟨reference, mem, rfl⟩ := List.mem_map.1 named
      have settled := divisions declared (List.mem_of_mem_filter filtered)
      exact parts.entity?_isSome (settled.2 reference mem)
  linked := by
    intro relationship mem id named
    rw [parts.relationships, List.mem_map] at mem
    obtain ⟨declaration, mem, rfl⟩ := mem
    obtain ⟨link, built, named⟩ := Relationship.mem_participants.1 named
    obtain ⟨declared, listed, rfl⟩ := List.mem_map.1 built
    obtain ⟨reference, given, rfl⟩ := Option.map_eq_some_iff.1 named
    exact parts.entity?_isSome (links declaration mem declared listed reference given)

end ErSchema.Schema
