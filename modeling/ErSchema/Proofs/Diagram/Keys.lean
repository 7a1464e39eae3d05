import ErSchema.Proofs.Assembly
import ErSchema.Proofs.Diagram.Separation
import ErSchema.Proofs.Lookup
import ErSchema.Validation.Rule

/-!
# What is drawn as a key

The subgraph of an entity declares the node of the entity and then, depth first, one node for every
attribute and every component.  A place says which of them a node stands for: it is the list of
positions through which the attribute is reached.

Whether a line is bold is decided at each place from the attribute that stands there
(`isBold_outline`), while the key of an entity is its first attribute with the key flag.  So the
key is drawn as one whenever its kind allows it, and so is every other attribute or component with
the flag: the diagram shows the key and nothing else exactly when no such place is left
(`boldPlaces_addAttributes`).
-/

set_option autoImplicit false

namespace ErSchema

open Dot

/-! ## Places -/

mutual

/-- An attribute and the components below it, depth first, each with its place. -/
def Attribute.places : Attribute → List (List Nat × Attribute)
  | ⟨kind, name, isKey, components⟩ =>
    ([], ⟨kind, name, isKey, components⟩) :: placesFrom 0 components

/-- Attributes and the components below them, where the first attribute has the given position. -/
def placesFrom (position : Nat) : List Attribute → List (List Nat × Attribute)
  | [] => []
  | first :: rest =>
    (first.places.map fun (place, item) => (position :: place, item)) ++
      placesFrom (position + 1) rest

end

/-- The attributes of an entity and the components below them, each with its place. -/
def Entity.places (entity : Entity) : List (List Nat × Attribute) :=
  placesFrom 0 entity.attributes

/-- The first place of an attribute is its own, and the others are those of its components. -/
theorem Attribute.places_eq (item : Attribute) :
    item.places = ([], item) :: placesFrom 0 item.components := by
  cases item
  rw [Attribute.places]

/-- The places below an attribute are reached through its position. -/
theorem placesFrom_eq_flatMap (position : Nat) (items : List Attribute) :
    placesFrom position items = (items.zipIdx position).flatMap fun (item, number) =>
      item.places.map fun (place, part) => (number :: place, part) := by
  induction items generalizing position with
  | nil => rfl
  | cons first rest ih => rw [placesFrom, ih, List.zipIdx_cons, List.flatMap_cons]

/-- What stands at a place below attributes, stands below the attribute whose position comes
first. -/
theorem mem_placesFrom {items : List Attribute} {place : List Nat} {part : Attribute} :
    (place, part) ∈ placesFrom 0 items ↔
      ∃ position item rest, items[position]? = some item ∧ place = position :: rest ∧
        (rest, part) ∈ item.places := by
  simp only [placesFrom_eq_flatMap, List.mem_flatMap, List.mem_map, Prod.exists,
    List.mk_mem_zipIdx_iff_getElem?, Prod.mk.injEq]
  constructor
  · rintro ⟨item, position, found, rest, _, below, rfl, rfl⟩
    exact ⟨position, item, rest, found, rfl, below⟩
  · rintro ⟨position, item, rest, found, rfl, below⟩
    exact ⟨item, position, found, rest, part, below, rfl, rfl⟩

/-- No component stands at the place of its owner. -/
theorem nil_notMem_placesFrom {items : List Attribute} {part : Attribute} :
    ([], part) ∉ placesFrom 0 items := by
  rw [mem_placesFrom]
  rintro ⟨position, item, rest, -, same, -⟩
  cases same

/-- At a place of one position stands the attribute of that position. -/
theorem Entity.singleton_mem_places {entity : Entity} {position : Nat} {item : Attribute} :
    ([position], item) ∈ entity.places ↔ entity.attributes[position]? = some item := by
  rw [places, mem_placesFrom]
  constructor
  · rintro ⟨number, owner, rest, found, same, below⟩
    obtain ⟨rfl, rfl⟩ := List.cons.inj same
    rw [owner.places_eq, List.mem_cons] at below
    rcases below with same | below
    · rw [found, (Prod.mk.inj same).2]
    · exact absurd below nil_notMem_placesFrom
  · intro found
    refine ⟨position, item, [], found, rfl, ?_⟩
    rw [item.places_eq]
    exact List.mem_cons_self

/-- Attributes have different places when those below each of them have. -/
theorem nodup_placesFrom {items : List Attribute}
    (each : ∀ item ∈ items, (item.places.map Prod.fst).Nodup) :
    ((placesFrom 0 items).map Prod.fst).Nodup := by
  have positions : (items.zipIdx.map fun entry => some entry.2).Nodup := by
    have numbers := nodup_numbered (fun _ _ same => Option.some.inj same) items
    rwa [List.map_map] at numbers
  rw [placesFrom_eq_flatMap, List.map_flatMap, nodup_flatMap_iff_of_key _ List.head? _ positions]
  · rintro ⟨item, position⟩ mem
    have below := (each item (List.fst_mem_of_mem_zipIdx mem)).map
      (List.cons_injective (a := position))
    rwa [List.map_map] at below ⊢
  · rintro ⟨item, position⟩ - place mem
    rw [List.map_map, List.mem_map] at mem
    obtain ⟨entry, -, rfl⟩ := mem
    rfl

mutual

/-- The places of an attribute are different. -/
theorem Attribute.nodup_places : ∀ item : Attribute, (item.places.map Prod.fst).Nodup
  | ⟨kind, name, isKey, components⟩ => by
    rw [Attribute.places, List.map_cons, List.nodup_cons]
    refine ⟨?_, nodup_placesFrom (nodup_places_of_mem components)⟩
    rw [List.mem_map]
    rintro ⟨⟨place, part⟩, mem, rfl⟩
    exact nil_notMem_placesFrom mem

/-- So are the places of each of several attributes. -/
theorem Attribute.nodup_places_of_mem : ∀ items : List Attribute, ∀ item ∈ items,
    (item.places.map Prod.fst).Nodup
  | [], _, mem => nomatch mem
  | first :: rest, item, mem => by
    rcases List.mem_cons.1 mem with same | mem
    · rw [same]
      exact first.nodup_places
    · exact Attribute.nodup_places_of_mem rest item mem

end

/-- No two attributes or components of an entity stand at one place. -/
theorem Entity.nodup_places (entity : Entity) : (entity.places.map Prod.fst).Nodup :=
  nodup_placesFrom fun item _ => item.nodup_places

/-! ## The key -/

/-- Whether an attribute has the key flag and a kind in which a key is drawn: it is neither derived
nor multivalued. -/
def Attribute.KeyLike (item : Attribute) : Prop :=
  item.isKey = true ∧ item.kind ≠ .derived ∧ item.kind ≠ .multivalued

instance (item : Attribute) : Decidable item.KeyLike :=
  inferInstanceAs (Decidable (_ ∧ _))

/-- The place of the key of an entity, unless the key is derived or multivalued. -/
def Entity.keyPlace? (entity : Entity) : Option (List Nat) := do
  let position ← entity.keyPosition
  let key ← entity.key?
  if key.kind ≠ .derived ∧ key.kind ≠ .multivalued then some [position] else none

/-! ## What is drawn -/

/-- The settings of the node that a statement declares. -/
def Dot.Statement.nodeSettings? : Statement → Option (List Setting)
  | .node _ settings => some settings
  | .edge _ _ _ => none

/-- The settings of the nodes that statements declare, in order. -/
def Dot.nodeSettingsOf (statements : List Statement) : List (List Setting) :=
  statements.filterMap Statement.nodeSettings?

/-- Whether a node is drawn as the node of a key, with a bold line. -/
def Dot.IsBold (settings : List Setting) : Prop :=
  ⟨"style", .quoted "filled,solid,bold"⟩ ∈ settings

instance (settings : List Setting) : Decidable (IsBold settings) :=
  inferInstanceAs (Decidable (_ ∈ _))

/-- The places of an entity at which a bold line is drawn.  The first node is the entity, and the
other nodes are those of the places, in order. -/
def Entity.boldPlaces (style : Style) (entity : Entity) : List (List Nat) :=
  let looks := nodeSettingsOf (Diagram.entityItem style entity).statements
  (((entity.places.map Prod.fst).zip looks.tail).filter fun look => IsBold look.2).map Prod.fst

namespace Diagram

/-- The settings of the node of an attribute. -/
def outline (style : Style) (item : Attribute) : List Setting :=
  [bare "shape" "ellipse", quoted "fillcolor" style.attributeFill, quoted "label" item.name] ++
    lineStyle item.kind item.isKey

/-- A bold line is drawn by the flag and the kind of the attribute alone. -/
theorem isBold_outline {style : Style} {item : Attribute} :
    IsBold (outline style item) ↔ item.KeyLike := by
  obtain ⟨kind, name, isKey, components⟩ := item
  cases kind <;> cases isKey <;>
    simp [IsBold, outline, lineStyle, bare, quoted, Attribute.KeyLike]

mutual

/-- An attribute is drawn with an outline for each of its places. -/
theorem nodeSettings_attribute (style : Style) (owner : String) : ∀ item : Attribute,
    nodeSettingsOf (attributeStatements style owner item) =
      item.places.map fun entry => outline style entry.2
  | ⟨kind, name, isKey, components⟩ => by
    have below := nodeSettings_attributes style (attributeId owner name) components 0
    rw [attributeStatements, Attribute.places, List.map_cons, ← below]
    rfl

/-- The nodes of attributes are drawn as what stands at their places. -/
theorem nodeSettings_attributes (style : Style) (owner : String) :
    ∀ (items : List Attribute) (position : Nat),
      nodeSettingsOf (attributeListStatements style owner items) =
        (placesFrom position items).map fun entry => outline style entry.2
  | [], _ => rfl
  | first :: rest, position => by
    have head := nodeSettings_attribute style owner first
    have tail := nodeSettings_attributes style owner rest (position + 1)
    rw [attributeListStatements, placesFrom, List.map_append, List.map_map, ← tail]
    exact List.filterMap_append.trans (congrArg (· ++ _) head)

end

end Diagram

namespace Entity

/-- A bold line is drawn at a place exactly when the attribute there has the key flag and is neither
derived nor multivalued. -/
theorem boldPlaces_eq (style : Style) (entity : Entity) :
    entity.boldPlaces style =
      (entity.places.filter fun entry => entry.2.KeyLike).map Prod.fst := by
  have looks : (nodeSettingsOf (Diagram.entityItem style entity).statements).tail =
      entity.places.map fun entry => Diagram.outline style entry.2 :=
    Diagram.nodeSettings_attributes style entity.name entity.attributes 0
  simp only [boldPlaces, looks, List.zip_map', List.filter_map, List.map_map, Function.comp_def,
    Diagram.isBold_outline]

/-- A bold line is drawn at the places of attributes that are like keys. -/
theorem mem_boldPlaces {style : Style} {entity : Entity} {place : List Nat} :
    place ∈ entity.boldPlaces style ↔ ∃ item, (place, item) ∈ entity.places ∧ item.KeyLike := by
  simp [boldPlaces_eq]

/-- No place has two bold lines. -/
theorem nodup_boldPlaces (style : Style) (entity : Entity) : (entity.boldPlaces style).Nodup := by
  rw [boldPlaces_eq]
  exact entity.nodup_places.sublist (List.filter_sublist.map Prod.fst)

/-! ## The key and what is drawn as one -/

/-- The key has a place when there is a key whose kind suits, and the place is its position. -/
theorem keyPlace?_eq_some_iff {entity : Entity} {place : List Nat} :
    entity.keyPlace? = some place ↔
      ∃ position key, entity.keyPosition = some position ∧
        entity.attributes[position]? = some key ∧
        (key.kind ≠ .derived ∧ key.kind ≠ .multivalued) ∧ place = [position] := by
  cases marked : entity.keyPosition with
  | none => simp [keyPlace?, marked]
  | some position =>
    simp only [keyPlace?, key?, marked, Option.bind_eq_bind, Option.bind_some,
      Option.bind_eq_some_iff, Option.ite_none_right_eq_some, Option.some.injEq]
    constructor
    · rintro ⟨key, found, suits, rfl⟩
      exact ⟨position, key, rfl, found, suits, rfl⟩
    · rintro ⟨_, key, rfl, found, suits, rfl⟩
      exact ⟨key, found, suits, rfl⟩

section FirstFlag

variable {entity : Entity} (first : entity.keyPosition = entity.attributes.findIdx? Attribute.isKey)

include first

/-- Of all places with a bold line, the key's is the one at the position of the key. -/
theorem keyPlace?_eq_some_iff_mem_boldPlaces (style : Style) {place : List Nat} :
    entity.keyPlace? = some place ↔
      place ∈ entity.boldPlaces style ∧ entity.keyPosition.map ([·]) = some place := by
  rw [keyPlace?_eq_some_iff, mem_boldPlaces]
  constructor
  · rintro ⟨position, key, marked, found, suits, rfl⟩
    have flagged : key.isKey = true := by
      have holds := List.of_findIdx?_eq_some (first.symm.trans marked)
      rwa [found] at holds
    exact ⟨⟨key, singleton_mem_places.2 found, flagged, suits⟩, by rw [marked]; rfl⟩
  · rintro ⟨⟨key, stands, -, suits⟩, marked⟩
    obtain ⟨position, atPosition, rfl⟩ := Option.map_eq_some_iff.1 marked
    exact ⟨position, key, atPosition, singleton_mem_places.1 stands, suits, rfl⟩

/-- The key is drawn as one and nothing else is, exactly when every bold line is at the position of
the key. -/
theorem boldPlaces_eq_keyPlace?_iff (style : Style) :
    entity.boldPlaces style = entity.keyPlace?.toList ↔
      ∀ place ∈ entity.boldPlaces style, entity.keyPosition.map ([·]) = some place := by
  constructor
  · intro same place mem
    rw [same, Option.mem_toList] at mem
    exact ((keyPlace?_eq_some_iff_mem_boldPlaces first style).1 mem).2
  · intro only
    have single : entity.keyPlace?.toList.Nodup := by
      cases entity.keyPlace? <;> simp
    have same : (entity.boldPlaces style).Perm entity.keyPlace?.toList := by
      refine (List.perm_ext_iff_of_nodup (entity.nodup_boldPlaces style) single).2 fun place => ?_
      rw [Option.mem_toList, keyPlace?_eq_some_iff_mem_boldPlaces first style]
      exact ⟨fun mem => ⟨mem, only place mem⟩, And.left⟩
    -- a list of at most one place has one order only
    cases key : entity.keyPlace? with
    | none =>
      rw [key] at same
      exact same.eq_nil
    | some place =>
      rw [key] at same
      exact List.perm_singleton.1 same

end FirstFlag

/-- What is drawn as a key in an entity to which attributes are added one after the other: every
attribute and every component that has the key flag and is neither derived nor multivalued, at any
depth.  The key of the entity is among them when its kind allows it, and it is the only one exactly
when no other attribute or component is like a key. -/
theorem boldPlaces_addAttributes (kind : EntityKind) (name : String) (attributes : List Attribute)
    (style : Style) :
    let entity := (ofName kind name).addAttributes attributes
    entity.boldPlaces style = (entity.places.filter fun entry => entry.2.KeyLike).map Prod.fst ∧
      (∀ place ∈ entity.keyPlace?, place ∈ entity.boldPlaces style) ∧
      (entity.boldPlaces style = entity.keyPlace?.toList ↔
        ∀ entry ∈ entity.places, entry.2.KeyLike →
          entity.keyPosition.map ([·]) = some entry.1) := by
  intro entity
  have first : entity.keyPosition = entity.attributes.findIdx? Attribute.isKey := by
    simp [entity, keyPosition_addAttributes, ofName]
  refine ⟨boldPlaces_eq style entity, ?_, ?_⟩
  · intro place key
    exact ((keyPlace?_eq_some_iff_mem_boldPlaces first style).1 key).1
  · rw [boldPlaces_eq_keyPlace?_iff first style]
    constructor
    · intro only entry stands keyLike
      exact only entry.1 (mem_boldPlaces.2 ⟨entry.2, stands, keyLike⟩)
    · intro only place drawn
      obtain ⟨item, stands, keyLike⟩ := mem_boldPlaces.1 drawn
      exact only (place, item) stands keyLike

/-- Of two attributes with the key flag the second one is drawn as a key too. -/
theorem boldPlaces_two_flags :
    let student := (ofName .regular "student").addAttributes
      [.ofName .simple "name", .ofName .simple "id" true, .ofName .simple "email" true]
    student.keyPlace? = some [1] ∧ student.boldPlaces {} = [[1], [2]] ∧
      student.boldPlaces {} ≠ student.keyPlace?.toList := by
  decide +kernel

end Entity

end ErSchema
