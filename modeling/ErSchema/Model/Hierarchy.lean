import ErSchema.Model.Basic

/-!
# Superclasses and subclasses

An entity is a direct subclass of another when a specialization of the other lists it.  Hierarchies
may be cyclic, and specializations may hold handles that denote nothing, so the search for
subclasses at any depth remembers which entities it has opened: each entity of the model is opened
at most once.
-/

set_option autoImplicit false

namespace ErSchema

namespace Model

/-- The entities of which a given one is a direct subclass, each once, in the order in which they
were added. -/
def superclasses (model : Model) (id : EntityId) : List EntityId :=
  (model.entitiesWithIds.filter fun (_, candidate) =>
    candidate.specializations.any (·.derived.contains id)).map Prod.fst

/-- The direct subclasses of the entity behind a handle, over all its specializations. -/
def subclasses (model : Model) (id : EntityId) : List EntityId :=
  match model.entity? id with
  | some entity => entity.specializations.flatMap Specialization.derived
  | none => []

/-- The entities of the model that are not among the opened ones. -/
def unopened (model : Model) (opened : List EntityId) : List Nat :=
  (List.range model.entities.length).filter fun index => !opened.contains ⟨index⟩

/-- Opening an entity of the model for the first time leaves fewer to open. -/
theorem length_unopened_cons_lt {model : Model} {opened : List EntityId} {id : EntityId}
    (issued : id.index < model.entities.length) (fresh : opened.contains id = false) :
    (model.unopened (id :: opened)).length < (model.unopened opened).length := by
  have shrink : model.unopened (id :: opened) =
      (model.unopened opened).filter fun index => decide (index ≠ id.index) := by
    simp only [unopened, List.filter_filter]
    apply List.filter_congr
    intro index _
    cases id
    simp
  rw [shrink]
  have member : id.index ∈ model.unopened opened := by
    simp only [unopened, List.mem_filter, List.mem_range]
    exact ⟨issued, by simpa using fresh⟩
  exact List.length_filter_lt_length_iff_exists.2 ⟨id.index, member, by simp⟩

/-- Whether `target` is among the pending handles or is reached from one of them by going from
entities to their direct subclasses.  Opened entities are not opened again. -/
def reaches (model : Model) (target : EntityId) (opened pending : List EntityId) : Bool :=
  match pending with
  | [] => false
  | id :: rest =>
    if id = target then true
    else if _new : id.index < model.entities.length ∧ opened.contains id = false then
      model.reaches target (id :: opened) (model.subclasses id ++ rest)
    else
      model.reaches target opened rest
termination_by ((model.unopened opened).length, pending.length)
decreasing_by
  · exact Prod.Lex.left _ _ (length_unopened_cons_lt _new.1 _new.2)
  · exact Prod.Lex.right _ (by simp)

end Model

namespace Specialization

/-- Whether an entity is listed by a specialization. -/
def hasDirectSubclass (specialization : Specialization) (id : EntityId) : Bool :=
  specialization.derived.contains id

/-- Whether an entity is listed by a specialization, or is a subclass at any depth of an entity that
it lists. -/
def hasSubclass (specialization : Specialization) (model : Model) (id : EntityId) : Bool :=
  model.reaches id [] specialization.derived

end Specialization

end ErSchema
