import ErSchema.Proofs.Diagram.Nodes
import Mathlib.Data.List.Nodup

/-!
# When no node is listed twice

Owners with different names have different nodes, and circles are told apart by parent and position.
What is left are the attributes of one owner: a node is listed twice exactly when two paths from the
same owner go through the same names, and that is the case exactly when two attributes of one owner,
at some depth, have the same name.
-/

set_option autoImplicit false

namespace ErSchema

/-- When parts are told apart by a key, the whole has no repetition exactly when no part has. -/
theorem nodup_flatMap_iff_of_key {α β γ : Type} {items : List α} {name : α → γ}
    (part : α → List β) (key : β → γ)
    (keys : ∀ item ∈ items, ∀ element ∈ part item, key element = name item)
    (distinct : (items.map name).Nodup) :
    (items.flatMap part).Nodup ↔ ∀ item ∈ items, (part item).Nodup := by
  rw [List.nodup_flatMap]
  refine and_iff_left ?_
  have apart : items.Pairwise fun item other => name item ≠ name other :=
    List.pairwise_map.1 distinct
  refine apart.imp_of_mem ?_
  intro item other mem mem' different element inside inside'
  have first := keys item mem element inside
  have second := keys other mem' element inside'
  exact different (first.symm.trans second)

/-! ## The nodes of one owner -/

/-- The paths to an attribute and its components begin with its name. -/
theorem Attribute.paths_eq (item : Attribute) :
    item.paths = [item.name] :: (pathsAll item.components).map (item.name :: ·) := by
  cases item
  rw [Attribute.paths]

/-- Every path begins with the name of one of the attributes. -/
theorem head?_of_mem_paths {item : Attribute} {path : List String} (mem : path ∈ item.paths) :
    path.head? = some item.name := by
  rw [item.paths_eq, List.mem_cons, List.mem_map] at mem
  rcases mem with rfl | ⟨rest, -, rfl⟩ <;> rfl

/-- No attribute is reached by an empty path. -/
theorem nil_notMem_pathsAll (items : List Attribute) : [] ∉ pathsAll items := by
  intro mem
  rw [pathsAll_eq_flatMap, List.mem_flatMap] at mem
  obtain ⟨item, -, mem⟩ := mem
  have head := head?_of_mem_paths mem
  cases head

/-- The paths of an attribute are told apart exactly when those of its components are. -/
theorem nodup_paths_iff (item : Attribute) :
    item.paths.Nodup ↔ (pathsAll item.components).Nodup := by
  rw [item.paths_eq, List.nodup_cons, List.nodup_map_iff (List.cons_injective)]
  refine and_iff_right ?_
  rw [List.mem_map]
  rintro ⟨path, mem, same⟩
  obtain rfl : path = [] := (List.cons_eq_cons.1 same).2
  exact nil_notMem_pathsAll _ mem

/-- The paths of siblings are told apart exactly when no two siblings have the same name and the
paths of their components are told apart. -/
theorem nodup_pathsAll_iff (items : List Attribute) :
    (pathsAll items).Nodup ↔
      (items.map Attribute.name).Nodup ∧ ∀ item ∈ items, (pathsAll item.components).Nodup := by
  rw [pathsAll_eq_flatMap]
  by_cases distinct : (items.map Attribute.name).Nodup
  · have heads : (items.map fun item => some item.name).Nodup := by
      have injective := distinct.map fun _ _ same => Option.some.inj same
      rwa [List.map_map] at injective
    rw [nodup_flatMap_iff_of_key Attribute.paths List.head?
      (fun _ _ _ mem => head?_of_mem_paths mem) heads]
    simp only [nodup_paths_iff, distinct, true_and]
  · -- two siblings with one name have the path of one name in common
    refine iff_of_false (fun nodup => distinct ?_) (fun both => distinct both.1)
    rw [List.nodup_flatMap] at nodup
    refine List.pairwise_map.2 (nodup.2.imp ?_)
    intro item other disjoint same
    have first : [item.name] ∈ item.paths := item.paths_eq ▸ List.mem_cons_self
    have second : [item.name] ∈ other.paths := by
      rw [same, other.paths_eq]
      exact List.mem_cons_self
    exact disjoint first second

/-- The nodes of an owner are told apart exactly when the paths to its attributes are. -/
theorem nodup_nodesBelow_iff (owner : String) (items : List Attribute) :
    (nodesBelow owner items).Nodup ↔ (pathsAll items).Nodup := by
  have injective : Function.Injective (DiagramNode.part owner) :=
    fun _ _ same => (DiagramNode.part.inj same).2
  rw [nodesBelow, List.nodup_cons, List.nodup_map_iff injective]
  refine and_iff_right ?_
  rw [List.mem_map]
  rintro ⟨path, mem, same⟩
  obtain rfl : path = [] := injective same
  exact nil_notMem_pathsAll items mem

/-- The nodes of an owner belong to it and are no circles. -/
theorem exists_of_mem_nodesBelow {owner : String} {items : List Attribute} {node : DiagramNode}
    (mem : node ∈ nodesBelow owner items) :
    ∃ path, node = .part owner path ∧ (path = [] ∨ path ∈ pathsAll items) := by
  rcases List.mem_cons.1 mem with rfl | mem
  · exact ⟨[], rfl, .inl rfl⟩
  · obtain ⟨path, listed, rfl⟩ := List.mem_map.1 mem
    exact ⟨path, rfl, .inr listed⟩

/-- The nodes below an owner have this owner. -/
theorem owner_of_mem_nodesBelow {owner : String} {items : List Attribute} {node : DiagramNode}
    (mem : node ∈ nodesBelow owner items) : node.owner = owner := by
  obtain ⟨path, rfl, -⟩ := exists_of_mem_nodesBelow mem
  rfl

/-! ## Circles -/

/-- A circle of an entity belongs to a position in the list of its specializations. -/
theorem exists_of_mem_circles {entity : Entity} {node : DiagramNode} (mem : node ∈ entity.circles) :
    ∃ position, node = .circle entity.name position := by
  obtain ⟨⟨specialization, position⟩, -, drawn⟩ := List.mem_filterMap.1 mem
  simp only [Option.ite_none_right_eq_some, Option.some.injEq] at drawn
  exact ⟨position, drawn.2.symm⟩

/-- The circles of an entity have it as their owner. -/
theorem owner_of_mem_circles {entity : Entity} {node : DiagramNode} (mem : node ∈ entity.circles) :
    node.owner = entity.name := by
  obtain ⟨position, rfl⟩ := exists_of_mem_circles mem
  rfl

/-- The circles of an entity have different positions. -/
theorem nodup_circles (entity : Entity) : entity.circles.Nodup := by
  have positions : (entity.specializations.zipIdx.map Prod.snd).Nodup := by
    rw [List.zipIdx_map_snd]
    exact List.nodup_range'
  have apart : entity.specializations.zipIdx.Pairwise fun first second => first.2 ≠ second.2 :=
    List.pairwise_map.1 positions
  refine apart.filterMap _ ?_
  rintro ⟨first, position⟩ ⟨second, position'⟩ different node drawn node' drawn' rfl
  simp only [Option.ite_none_right_eq_some, Option.some.injEq] at drawn drawn'
  obtain ⟨-, rfl⟩ := drawn
  exact different (DiagramNode.circle.inj drawn'.2).2.symm

/-! ## All nodes -/

/-- With distinct names, the nodes of a model are told apart exactly when the paths from every owner
are. -/
theorem nodup_nodes_iff {model : Model}
    (distinct : (model.entities.map Entity.name ++
      model.relationships.map Relationship.name).Nodup) :
    model.nodes.Nodup ↔
      (∀ entity ∈ model.entities, (pathsAll entity.attributes).Nodup) ∧
      ∀ relationship ∈ model.relationships, (pathsAll relationship.attributes).Nodup := by
  obtain ⟨entityNames, relationshipNames, apart⟩ := List.nodup_append.1 distinct
  have entities := nodup_flatMap_iff_of_key
    (fun entity : Entity => nodesBelow entity.name entity.attributes) DiagramNode.owner
    (fun _ _ _ mem => owner_of_mem_nodesBelow mem) entityNames
  have circles := nodup_flatMap_iff_of_key Entity.circles DiagramNode.owner
    (fun _ _ _ mem => owner_of_mem_circles mem) entityNames
  have relationships := nodup_flatMap_iff_of_key
    (fun relationship : Relationship => nodesBelow relationship.name relationship.attributes)
    DiagramNode.owner (fun _ _ _ mem => owner_of_mem_nodesBelow mem) relationshipNames
  simp only [nodup_nodesBelow_iff] at entities relationships
  rw [Model.nodes, List.nodup_append, List.nodup_append, entities, circles, relationships]
  constructor
  · rintro ⟨⟨first, -, -⟩, second, -⟩
    exact ⟨first, second⟩
  · rintro ⟨first, second⟩
    refine ⟨⟨first, fun entity _ => nodup_circles entity, ?_⟩, second, ?_⟩
    · intro node below circle round same
      subst same
      obtain ⟨entity, -, below⟩ := List.mem_flatMap.1 below
      obtain ⟨path, rfl, -⟩ := exists_of_mem_nodesBelow below
      obtain ⟨entity', -, round⟩ := List.mem_flatMap.1 round
      obtain ⟨position, same⟩ := exists_of_mem_circles round
      cases same
    · intro node before other after same
      subst same
      obtain ⟨relationship, mem, after⟩ := List.mem_flatMap.1 after
      have owned := owner_of_mem_nodesBelow after
      obtain ⟨entity, mem', owned'⟩ : ∃ entity ∈ model.entities, node.owner = entity.name := by
        rcases List.mem_append.1 before with below | round
        · obtain ⟨entity, mem', below⟩ := List.mem_flatMap.1 below
          exact ⟨entity, mem', owner_of_mem_nodesBelow below⟩
        · obtain ⟨entity, mem', round⟩ := List.mem_flatMap.1 round
          exact ⟨entity, mem', owner_of_mem_circles round⟩
      exact apart _ (List.mem_map_of_mem mem') _ (List.mem_map_of_mem mem) (owned'.symm.trans owned)

end ErSchema
