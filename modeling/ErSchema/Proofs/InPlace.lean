import ErSchema.Proofs.Lookup
import ErSchema.Proofs.Run

/-!
# Calls that write in place

`Model.addRelationship` and `Model.specialize` return a new model, so a refused call cannot leave
anything behind.  A caller that holds one model and changes it has no such guarantee: a call checks
and writes in turns, and what it wrote before a failure stays written.  In particular an identifying
relationship is entered into the table before it joins the relationships, and an entry may be
written over another one.

The calls of this module work in that way.  They have the same outcome as those that return a new
model and leave behind the model that `Model.apply` gives (`on_addRelationship`, `on_specialize`,
`on_call`).  So a failure comes before the first write, and no entry is overwritten.
-/

set_option autoImplicit false

namespace ErSchema.Model

/-- A call that works on a model in place.  When it fails, what it has written stays written. -/
abbrev InPlace (α : Type) := ExceptT ConstructionError (StateM Model) α

/-- A relationship is refused when it is identifying and no participant awaits identification. -/
theorem addRelationship_eq_error_iff {model : Model} {relationship : Relationship}
    {error : ConstructionError} :
    model.addRelationship relationship = .error error ↔
      relationship.isIdentifying = true ∧ model.claim? relationship = none ∧
        error = .unidentifiedWeakEntity relationship.name := by
  unfold addRelationship claims
  cases relationship.isIdentifying with
  | false => simp [bind, Except.bind, pure, Except.pure]
  | true => cases model.claim? relationship <;> simp [bind, Except.bind, pure, Except.pure, eq_comm]

namespace InPlace

/-- The outcome of a call, and the model that it leaves behind. -/
def on {α : Type} (call : InPlace α) (model : Model) : Except ConstructionError α × Model :=
  call.run.run model

/-- The table with an entry for a key: an entry that the key has already is overwritten where it
stands, and otherwise the new entry comes last. -/
def insertEntry (key : EntityId) (value : RelationshipId) :
    List (EntityId × RelationshipId) → List (EntityId × RelationshipId)
  | [] => [(key, value)]
  | entry :: rest =>
    if entry.1 = key then (key, value) :: rest else entry :: insertEntry key value rest

/-- Adds an entity. -/
def addEntity (entity : Entity) : InPlace EntityId := do
  let model ← get
  set { model with entities := model.entities ++ [entity] }
  return ⟨model.entities.length⟩

/-- Enters the next relationship into the table, for the participant that it identifies. -/
def enter (relationship : Relationship) (id : RelationshipId) : InPlace Unit := do
  let model ← get
  match model.claim? relationship with
  | some weak =>
    set { model with identifications := insertEntry weak id model.identifications }
  | none => throw (.unidentifiedWeakEntity relationship.name)

/-- Adds a relationship, which is entered into the table first if it is identifying. -/
def addRelationship (relationship : Relationship) : InPlace RelationshipId := do
  let id : RelationshipId := ⟨(← get).relationships.length⟩
  if relationship.isIdentifying then
    enter relationship id
  modify fun model => { model with relationships := model.relationships ++ [relationship] }
  return id

/-- Attaches a specialization to its parent, after a look at the derived entities. -/
def specialize (specialization : Specialization) : InPlace Unit := do
  let model ← get
  match specialization.derived.find? fun id => (model.entity? id).isNone with
  | some id => throw (.unknownEntity id)
  | none =>
    match model.entity? specialization.parent with
    | some parent =>
      set { model with
        entities :=
          model.entities.set specialization.parent.index (parent.attach specialization) }
    | none => throw (.unknownEntity specialization.parent)

/-- A call, whose handle is dropped. -/
def call : Operation → InPlace Unit
  | .addEntity entity | .add (.entity entity) => do
    let _ ← addEntity entity
    return
  | .addRelationship relationship | .add (.relationship relationship) => do
    let _ ← addRelationship relationship
    return
  | .specialize specialization => specialize specialization

/-- The model after a sequence of calls that goes on after a failure. -/
def callAll (model : Model) (operations : List Operation) : Model :=
  operations.foldl (fun current operation => ((call operation).on current).2) model

/-! ## One call -/

variable {α β : Type} {model : Model}

/-- A call that only answers leaves the model as it is. -/
@[simp] theorem on_pure (value : α) : (pure value : InPlace α).on model = (.ok value, model) := rfl

/-- Reading the model leaves it as it is. -/
@[simp] theorem on_get : (get : InPlace Model).on model = (.ok model, model) := rfl

/-- Writing the model replaces it. -/
@[simp] theorem on_set (next : Model) : (set next : InPlace PUnit).on model = (.ok ⟨⟩, next) := rfl

/-- Modifying the model puts what the change makes of it in its place. -/
@[simp] theorem on_modify (change : Model → Model) :
    (modify change : InPlace PUnit).on model = (.ok ⟨⟩, change model) := rfl

/-- What comes after a call starts from the model that the call leaves behind, unless it fails. -/
@[simp] theorem on_bind (first : InPlace α) (second : α → InPlace β) :
    (first >>= second).on model =
      match first.on model with
      | (.ok value, next) => (second value).on next
      | (.error error, next) => (.error error, next) := by
  show (ExceptT.bindCont second (first.on model).1).run (first.on model).2 = _
  rcases first.on model with ⟨_ | _, next⟩ <;> rfl

/-- A key without an entry gets one at the end of the table. -/
theorem insertEntry_of_notMem {key : EntityId} {table : List (EntityId × RelationshipId)}
    (absent : key ∉ table.map Prod.fst) (value : RelationshipId) :
    insertEntry key value table = table ++ [(key, value)] := by
  induction table with
  | nil => rfl
  | cons entry rest ih =>
    simp only [List.map_cons, List.mem_cons, not_or] at absent
    rw [insertEntry, if_neg fun same => absent.1 same.symm, ih absent.2, List.cons_append]

/-- An entity that awaits identification has no entry. -/
theorem notMem_of_claim? {relationship : Relationship} {weak : EntityId}
    (claim : model.claim? relationship = some weak) :
    weak ∉ model.identifications.map Prod.fst := by
  have awaits := List.find?_some claim
  simp only [awaitsIdentification, Bool.and_eq_true, Option.isNone_iff_eq_none] at awaits
  exact lookup_eq_none_iff_notMem.1 awaits.2

/-- Entering a relationship overwrites no entry, because the participant has none. -/
theorem on_enter (relationship : Relationship) (id : RelationshipId) :
    (enter relationship id).on model =
      match model.claim? relationship with
      | some weak =>
        (.ok ⟨⟩, { model with identifications := model.identifications ++ [(weak, id)] })
      | none => (.error (.unidentifiedWeakEntity relationship.name), model) := by
  simp only [enter, on_bind, on_get]
  cases claim : model.claim? relationship with
  | none => rfl
  | some weak =>
    simp only [on_set]
    rw [insertEntry_of_notMem (notMem_of_claim? claim)]

/-- A relationship is refused before anything is written, and accepted as it is by the call that
returns a new model. -/
theorem on_addRelationship (relationship : Relationship) :
    (addRelationship relationship).on model =
      match model.addRelationship relationship with
      | .ok (id, next) => (.ok id, next)
      | .error error => (.error error, model) := by
  cases identifying : relationship.isIdentifying with
  | false =>
    have claims : model.claims relationship = .ok [] :=
      claims_eq_ok_iff.2 (.inl ⟨identifying, rfl⟩)
    rw [addRelationship_eq_ok_iff.2 ⟨[], claims, rfl, rfl⟩]
    simp only [addRelationship, identifying, Bool.false_eq_true, if_false, on_bind, on_get,
      on_modify, on_pure, List.append_nil]
  | true =>
    simp only [addRelationship, identifying, if_true, on_bind, on_get, on_enter]
    cases claim : model.claim? relationship with
    | none => rw [addRelationship_eq_error_iff.2 ⟨identifying, claim, rfl⟩]
    | some weak =>
      have claims : model.claims relationship = .ok [(weak, ⟨model.relationships.length⟩)] :=
        claims_eq_ok_iff.2 (.inr ⟨identifying, weak, claim, rfl⟩)
      rw [addRelationship_eq_ok_iff.2 ⟨_, claims, rfl, rfl⟩]
      rfl

/-- Looking at the derived entities and then at the parent is looking for the first unknown handle. -/
theorem unknownEntity?_eq (specialization : Specialization) :
    model.unknownEntity? specialization =
      (specialization.derived.find? fun id => (model.entity? id).isNone).or
        (if (model.entity? specialization.parent).isNone then some specialization.parent
        else none) := by
  unfold unknownEntity?
  rw [List.find?_append, List.find?_singleton]

/-- A specialization is refused before anything is written, and accepted as it is by the call that
returns a new model. -/
theorem on_specialize (specialization : Specialization) :
    (specialize specialization).on model =
      match model.specialize specialization with
      | .ok next => (.ok ⟨⟩, next)
      | .error error => (.error error, model) := by
  unfold specialize Model.specialize
  rw [unknownEntity?_eq]
  simp only [on_bind, on_get]
  cases specialization.derived.find? fun id => (model.entity? id).isNone with
  | some id => rfl
  | none =>
    cases parent : model.entity? specialization.parent with
    | none => rfl
    | some entity =>
      have attached : model.entities.set specialization.parent.index
            (entity.attach specialization) =
          model.entities.modify specialization.parent.index (·.attach specialization) := by
        rw [List.modify_eq_set_getElem?]
        unfold entity? at parent
        rw [parent]
        rfl
      simp only [on_set, attached]
      rfl

/-! ## Runs -/

/-- A call in place leaves behind the model that the same call makes when it returns a new one. -/
theorem on_call (operation : Operation) :
    ((call operation).on model).2 = model.apply operation := by
  have relationship : ∀ added, ((addRelationship added).on model).2 =
      model.orKeep ((model.addRelationship added).map Prod.snd) := by
    intro added
    rw [on_addRelationship]
    cases model.addRelationship added <;> rfl
  have dropped : ∀ added, ((call (.addRelationship added)).on model).2 =
      ((addRelationship added).on model).2 := by
    intro added
    simp only [call, on_bind]
    rcases (addRelationship added).on model with ⟨_ | _, next⟩ <;> rfl
  cases operation with
  | addEntity entity => rfl
  | addRelationship added => rw [dropped, relationship]; rfl
  | add member =>
    cases member with
    | entity entity => rfl
    | relationship added => exact (dropped added).trans (relationship added)
  | specialize specialization =>
    show ((specialize specialization).on model).2 = model.orKeep (model.specialize specialization)
    rw [on_specialize]
    cases model.specialize specialization <;> rfl

/-- A run in place leaves behind the model of the run. -/
theorem callAll_eq_run (model : Model) (operations : List Operation) :
    callAll model operations = model.run operations := by
  unfold callAll run
  congr 1
  funext current operation
  exact on_call operation

end InPlace

end ErSchema.Model
