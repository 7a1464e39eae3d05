import ErSchema.Proofs.Division
import ErSchema.Proofs.Hierarchy
import ErSchema.Proofs.Lookup

/-!
# Up and down a hierarchy

A hierarchy can be asked about from both ends.  `superclasses` goes through all entities and keeps
those with a specialization that lists the given one; a caller climbs by asking again about what was
found.  `hasSubclass` starts at a specialization and searches downwards.

Both are about the one relation `IsSubclass`, read in opposite directions, and this holds in every
model: the hierarchy may have cycles, an entity may be listed by several specializations of one
superclass, and handles may denote nothing.
-/

set_option autoImplicit false

namespace ErSchema

namespace Model

open Relation

/-- Whether a specialization is kept in the list of the entity behind a handle. -/
def Attached (model : Model) (id : EntityId) (specialization : Specialization) : Prop :=
  ∃ entity, model.entity? id = some entity ∧ specialization ∈ entity.specializations

variable {model : Model} {id subclass superclass : EntityId}

/-- An entity is a direct subclass when an attached specialization lists it. -/
theorem isSubclass_iff_attached :
    model.IsSubclass id subclass ↔
      ∃ specialization, model.Attached id specialization ∧ subclass ∈ specialization.derived := by
  constructor
  · rintro ⟨entity, found, specialization, kept, listed⟩
    exact ⟨specialization, ⟨entity, found, kept⟩, listed⟩
  · rintro ⟨specialization, ⟨entity, found, kept⟩, listed⟩
    exact ⟨entity, found, specialization, kept, listed⟩

/-! ## One step up -/

/-- The superclasses of an entity are those of which it is a direct subclass. -/
theorem mem_superclasses : superclass ∈ model.superclasses id ↔ model.IsSubclass superclass id := by
  simp only [superclasses, IsSubclass, List.mem_map, List.mem_filter, Prod.exists, exists_and_right,
    exists_eq_right, mem_entitiesWithIds, List.any_eq_true, List.contains_iff_mem]

/-- The handles of the entities are listed in ascending order. -/
theorem pairwise_entitiesWithIds (model : Model) :
    (model.entitiesWithIds.map Prod.fst).Pairwise (·.index < ·.index) := by
  rw [entitiesWithIds, map_numbers, List.pairwise_map]
  exact List.pairwise_lt_range

/-- However many of its specializations list an entity, a superclass is listed once, and the
superclasses come in the order in which they were added. -/
theorem pairwise_superclasses (model : Model) (id : EntityId) :
    (model.superclasses id).Pairwise (·.index < ·.index) :=
  (pairwise_entitiesWithIds model).sublist (List.filter_sublist.map Prod.fst)

/-! ## All the way -/

/-- Going from entities to their superclasses is going against `IsSubclass`. -/
theorem transGen_superclasses_iff :
    TransGen (fun lower upper => upper ∈ model.superclasses lower) id superclass ↔
      TransGen model.IsSubclass superclass id := by
  have step : (fun lower upper => upper ∈ model.superclasses lower) =
      Function.swap model.IsSubclass := by
    funext lower upper
    exact propext mem_superclasses
  rw [step, transGen_swap]

/-- A chain of one or more steps down starts in an attached specialization, whose search goes on
from there. -/
theorem transGen_isSubclass_iff_hasSubclass :
    TransGen model.IsSubclass superclass id ↔
      ∃ specialization, model.Attached superclass specialization ∧
        specialization.hasSubclass model id = true := by
  rw [TransGen.head'_iff]
  constructor
  · rintro ⟨first, listed, chain⟩
    obtain ⟨specialization, kept, listed⟩ := isSubclass_iff_attached.1 listed
    exact ⟨specialization, kept,
      Specialization.hasSubclass_eq_true_iff.2 ⟨first, listed, chain⟩⟩
  · rintro ⟨specialization, kept, found⟩
    obtain ⟨first, listed, chain⟩ := Specialization.hasSubclass_eq_true_iff.1 found
    exact ⟨first, isSubclass_iff_attached.2 ⟨specialization, kept, listed⟩, chain⟩

/-- In a divided model the specializations attached to an entity are those that name it as their
parent. -/
theorem Divided.attached_iff (divided : Divided model) {specialization : Specialization} :
    model.Attached id specialization ↔
      specialization ∈ model.entities.flatMap Entity.specializations ∧
        specialization.parent = id := by
  rw [List.mem_flatMap]
  constructor
  · rintro ⟨entity, found, kept⟩
    exact ⟨⟨entity, List.mem_of_getElem? found, kept⟩, divided.parent id entity found _ kept⟩
  · rintro ⟨⟨entity, listed, kept⟩, rfl⟩
    obtain ⟨position, found⟩ := List.mem_iff_getElem?.1 listed
    have own := divided.parent ⟨position⟩ entity found specialization kept
    exact ⟨entity, own ▸ found, kept⟩

/-- In every reachable model one entity is reached from another by going to superclasses, once or
more often, exactly when the search of a specialization attached to it finds the other.  The
superclasses of an entity are listed in the order in which they were added, each once, and are the
entities with an attached specialization that lists it.  Where callers add only entities that they
can build, the specializations attached to an entity are those that name it as their parent. -/
theorem superclasses_agree_with_search (name description : String) (authors : List String)
    (operations : List Operation) :
    let model := (empty name description authors).run operations
    (∀ p e, TransGen (fun lower upper => upper ∈ model.superclasses lower) e p ↔
      ∃ specialization, model.Attached p specialization ∧
        specialization.hasSubclass model e = true) ∧
    (∀ e, (model.superclasses e).Pairwise (·.index < ·.index) ∧
      ∀ p, p ∈ model.superclasses e ↔
        ∃ specialization, model.Attached p specialization ∧ e ∈ specialization.derived) ∧
    ((∀ operation ∈ operations, operation.AddsBuilt) →
      ∀ p specialization, model.Attached p specialization ↔
        specialization ∈ model.entities.flatMap Entity.specializations ∧
          specialization.parent = p) := by
  intro model
  refine ⟨?_, ?_, ?_⟩
  · intro p e
    rw [transGen_superclasses_iff, transGen_isSubclass_iff_hasSubclass]
  · intro e
    refine ⟨pairwise_superclasses model e, ?_⟩
    intro p
    rw [mem_superclasses, isSubclass_iff_attached]
  · intro built p specialization
    have divided : Divided model := (divided_empty name description authors).run built
    exact divided.attached_iff

end Model

end ErSchema
