import ErSchema.Proofs.Identification
import ErSchema.Proofs.Parts
import ErSchema.Validation.Mode
import Mathlib.Data.List.Forall2

/-!
# The rules about keys

An entity keeps its key as a position that was chosen when an attribute was added, and two rules
read it much later.  In an entity that callers make the position is that of the first attribute with
the key flag, so a lookup never leads past the attributes (`key?_eq_some_iff`,
`keyPosition_lt_length`).

Hence the rules speak of the first flag alone.  `KeyReport` gives for one entity what each of the
two reports: one finding of the first rule when no attribute has the flag, one finding of the second
rule when the first attribute with the flag is derived or multivalued, and never both.
-/

set_option autoImplicit false

namespace ErSchema

/-! ## The key -/

namespace Entity.Assembled

variable {entity : Entity} (assembled : entity.Assembled)

include assembled

/-- The position of a key is a position among the attributes. -/
theorem keyPosition_lt_length {position : Nat} (marked : entity.keyPosition = some position) :
    position < entity.attributes.length := by
  rw [assembled.keyPosition_eq] at marked
  exact (List.findIdx?_eq_some_iff_findIdx_eq.1 marked).1

/-- The key of an assembled entity is its first attribute with the key flag. -/
theorem key?_eq_find? : entity.key? = entity.attributes.find? Attribute.isKey := by
  rw [key?, assembled.keyPosition_eq, List.find?_eq_bind_findIdx?_getElem?]

/-- The key is the first attribute with the key flag. -/
theorem key?_eq_some_iff {key : Attribute} :
    entity.key? = some key ↔ FirstWith (·.isKey = true) entity.attributes key := by
  rw [assembled.key?_eq_find?, find?_eq_some_iff_firstWith]

/-- There is no key when no attribute has the flag. -/
theorem key?_eq_none_iff :
    entity.key? = none ↔ ∀ item ∈ entity.attributes, item.isKey = false := by
  rw [assembled.key?_eq_find?, List.find?_eq_none]
  simp only [Bool.not_eq_true]

end Entity.Assembled

/-! ## The rules -/

/-- What the two rules about keys report of one entity.  No attribute has the key flag, and the
first rule says so; or the first attribute with the flag has a kind that the second rule reports; or
its kind is suitable. -/
inductive Entity.KeyReport (entity : Entity) : List Finding × List Finding → Prop
  | keyless (none : ∀ item ∈ entity.attributes, item.isKey = false) :
      KeyReport entity ([.missingKey entity.name], [])
  | unsuitable {key : Attribute} (first : FirstWith (·.isKey = true) entity.attributes key)
      (kind : key.kind = .derived ∨ key.kind = .multivalued) :
      KeyReport entity ([], [.unsuitableKey entity.name key.name key.kind])
  | suitable {key : Attribute} (first : FirstWith (·.isKey = true) entity.attributes key)
      (kind : key.kind ≠ .derived ∧ key.kind ≠ .multivalued) : KeyReport entity ([], [])

namespace Rule

/-- What the first rule finds in one entity. -/
def keyFindings (entity : Entity) : List Finding :=
  if entity.key?.isNone then [.missingKey entity.name] else []

/-- The rules go through the entities one after the other. -/
theorem entityKeyFindings_eq (model : Model) :
    entityKeyFindings model = model.entities.flatMap keyFindings := by
  unfold entityKeyFindings
  induction model.entities with
  | nil => rfl
  | cons entity rest ih =>
    rw [List.filter_cons, List.flatMap_cons, ← ih, keyFindings]
    cases entity.key?.isNone <;> rfl

/-- The rule about the kinds of keys goes through the entities one by one. -/
theorem keyKindFindings_eq (model : Model) :
    keyKindFindings model = model.entities.flatMap fun entity => (keyKindFinding? entity).toList :=
  List.filterMap_eq_flatMap_toList _ _

/-- What the rules find in an entity that callers make is what its first flag asks for. -/
theorem keyReport {entity : Entity} (assembled : entity.Assembled) :
    entity.KeyReport (keyFindings entity, (keyKindFinding? entity).toList) := by
  cases found : entity.key? with
  | none =>
    rw [keyFindings, keyKindFinding?, found]
    exact .keyless (assembled.key?_eq_none_iff.1 found)
  | some key =>
    have first := assembled.key?_eq_some_iff.1 found
    rw [keyFindings, keyKindFinding?, found, Option.bind_some]
    by_cases kind : key.kind = .derived ∨ key.kind = .multivalued
    · rw [if_pos kind]
      exact .unsuitable first kind
    · rw [if_neg kind]
      exact .suitable first (not_or.1 kind)

end Rule

/-- The rules about keys in a model whose entities callers made.  The key of an entity is the first
of its attributes with the key flag, and its position is one of an attribute.  Entity by entity, the
first rule reports once that no attribute has the flag, and the second one reports once that the
first attribute with the flag is derived or multivalued; no entity is reported by both. -/
theorem Model.keyRules_exact (model : Model)
    (assembled : ∀ entity ∈ model.entities, entity.Assembled) :
    (∀ entity ∈ model.entities,
      (∀ key, entity.key? = some key ↔ FirstWith (·.isKey = true) entity.attributes key) ∧
      ∀ position, entity.keyPosition = some position → position < entity.attributes.length) ∧
    (∃ reports, Rule.entityKey.run model = .ok (reports.flatMap Prod.fst) ∧
      Rule.keyAttributeKind.run model = .ok (reports.flatMap Prod.snd) ∧
      List.Forall₂ Entity.KeyReport model.entities reports) ∧
    ∀ entity keyless unsuitable, Entity.KeyReport entity (keyless, unsuitable) →
      keyless = [] ∨ unsuitable = [] := by
  refine ⟨?_, ⟨model.entities.map fun entity =>
    (Rule.keyFindings entity, (Rule.keyKindFinding? entity).toList), ?_, ?_, ?_⟩, ?_⟩
  · intro entity mem
    exact ⟨fun key => (assembled entity mem).key?_eq_some_iff,
      fun position => (assembled entity mem).keyPosition_lt_length⟩
  · rw [List.flatMap_map]
    exact congrArg Except.ok (Rule.entityKeyFindings_eq model)
  · rw [List.flatMap_map]
    exact congrArg Except.ok (Rule.keyKindFindings_eq model)
  · rw [List.forall₂_map_right_iff, List.forall₂_same]
    exact fun entity mem => Rule.keyReport (assembled entity mem)
  · rintro entity keyless unsuitable report
    cases report with
    | keyless none => exact .inr rfl
    | unsuitable first kind => exact .inl rfl
    | suitable first kind => exact .inl rfl

/-- Calls that build a wardrobe: the first flag of a coat is on a computed value, a button has its
flag on a component, and the first flag of a shelf is on a number. -/
def wardrobeCalls : List Model.Operation := [
  .addEntity ((Entity.ofName .regular "coat").addAttributes
    [.ofName .simple "colour", .ofName .derived "age" true, .ofName .simple "tag" true]),
  .addEntity ((Entity.ofName .weak "button").addAttributes
    [(Attribute.ofName .simple "place").addComponent (.ofName .simple "row" true)]),
  .addEntity ((Entity.ofName .regular "shelf").addAttributes
    [.ofName .simple "number" true, .ofName .multivalued "label" true]),
  .specialize ⟨.unspecified, ⟨2⟩, none, false, [⟨0⟩]⟩]

/-- The calls for the wardrobe add assembled parts only. -/
theorem assembled_wardrobe : ∀ operation ∈ wardrobeCalls, operation.Assembled := by
  simp only [wardrobeCalls, List.forall_mem_cons]
  refine ⟨?_, ?_, ?_, trivial, by simp⟩
  · exact (((Entity.Assembled.named _ _).withAttribute (.named _ _ _)).withAttribute
      (.named _ _ _)).withAttribute (.named _ _ _)
  · exact (Entity.Assembled.named _ _).withAttribute (.withComponent (.named _ _ _) (.named _ _ _))
  · exact ((Entity.Assembled.named _ _).withAttribute (.named _ _ _)).withAttribute (.named _ _ _)

/-- The coat and the button of the wardrobe are reported, each by one of the rules. -/
theorem keyRules_wardrobe :
    let wardrobe := (Model.empty "Wardrobe" "" []).run wardrobeCalls
    (∀ entity ∈ wardrobe.entities, entity.Assembled) ∧
    Rule.entityKey.run wardrobe = .ok [.missingKey "BUTTON"] ∧
    Rule.keyAttributeKind.run wardrobe = .ok [.unsuitableKey "COAT" "Age" .derived] ∧
    ∃ reports, Rule.entityKey.run wardrobe = .ok (reports.flatMap Prod.fst) ∧
      Rule.keyAttributeKind.run wardrobe = .ok (reports.flatMap Prod.snd) ∧
      List.Forall₂ Entity.KeyReport wardrobe.entities reports := by
  intro wardrobe
  have assembled : wardrobe.Assembled :=
    (Model.assembled_empty "Wardrobe" "" []).run assembled_wardrobe
  refine ⟨assembled.entities, ?_, ?_, (Model.keyRules_exact wardrobe assembled.entities).2.1⟩
  · decide +kernel
  · decide +kernel

end ErSchema
