import ErSchema.Model.Entity

/-!
# Assembling attributes and entities

Components are added to an attribute, and attributes to an entity, one at a time.  The lemmas say
what the whole sequence does: the parts go to the end of the list, a simple attribute with
components is composite, the first attribute with the key flag becomes the key, and nothing else
changes.
-/

set_option autoImplicit false

namespace ErSchema

/-- What no single part changes is not changed by a sequence of parts. -/
theorem foldl_unchanged {σ α β : Type} (field : σ → β) (add : σ → α → σ)
    (unchanged : ∀ whole part, field (add whole part) = field whole) (whole : σ) (parts : List α) :
    field (parts.foldl add whole) = field whole := by
  induction parts generalizing whole with
  | nil => rfl
  | cons first rest ih => rw [List.foldl_cons, ih, unchanged]

/-- A list to which every part is added holds all parts at its end. -/
theorem foldl_appended {σ α : Type} (field : σ → List α) (add : σ → α → σ)
    (appended : ∀ whole part, field (add whole part) = field whole ++ [part]) (whole : σ)
    (parts : List α) : field (parts.foldl add whole) = field whole ++ parts := by
  induction parts generalizing whole with
  | nil => simp
  | cons first rest ih =>
    rw [List.foldl_cons, ih, appended, List.append_assoc, List.singleton_append]

namespace Attribute

/-- Components leave the name of their owner as it is. -/
@[simp] theorem name_addComponents (owner : Attribute) (list : List Attribute) :
    (owner.addComponents list).name = owner.name :=
  foldl_unchanged name addComponent (fun _ _ => rfl) owner list

/-- Components leave the key flag of their owner as it is. -/
@[simp] theorem isKey_addComponents (owner : Attribute) (list : List Attribute) :
    (owner.addComponents list).isKey = owner.isKey :=
  foldl_unchanged isKey addComponent (fun _ _ => rfl) owner list

/-- Components that are added one after the other come last, in order. -/
@[simp] theorem components_addComponents (owner : Attribute) (list : List Attribute) :
    (owner.addComponents list).components = owner.components ++ list :=
  foldl_appended components addComponent (fun _ _ => rfl) owner list

/-- Once an attribute is not simple, components do not change its kind. -/
theorem kind_addComponents_of_ne {owner : Attribute} (composed : owner.kind ≠ .simple)
    (list : List Attribute) : (owner.addComponents list).kind = owner.kind := by
  unfold addComponents
  induction list generalizing owner with
  | nil => rfl
  | cons first rest ih =>
    have same : (owner.addComponent first).kind = owner.kind := if_neg composed
    rw [List.foldl_cons, ih (same ▸ composed), same]

/-- A simple attribute with components is composite, and every other kind stays. -/
theorem kind_addComponents (owner : Attribute) (list : List Attribute) :
    (owner.addComponents list).kind =
      if owner.kind = .simple ∧ list ≠ [] then .composite else owner.kind := by
  cases list with
  | nil => simp [addComponents]
  | cons first rest =>
    by_cases simple : owner.kind = .simple
    · have composite : (owner.addComponent first).kind = .composite := if_pos simple
      have composed : (owner.addComponent first).kind ≠ .simple := by simp [composite]
      have later := kind_addComponents_of_ne composed rest
      simpa [simple, addComponents, composite] using later
    · rw [kind_addComponents_of_ne simple, if_neg fun both => simple both.1]

end Attribute

namespace Entity

/-- Attributes leave the kind of an entity as it is. -/
@[simp] theorem kind_addAttributes (entity : Entity) (list : List Attribute) :
    (entity.addAttributes list).kind = entity.kind :=
  foldl_unchanged kind addAttribute (fun _ _ => rfl) entity list

/-- Attributes leave the name of an entity as it is. -/
@[simp] theorem name_addAttributes (entity : Entity) (list : List Attribute) :
    (entity.addAttributes list).name = entity.name :=
  foldl_unchanged name addAttribute (fun _ _ => rfl) entity list

/-- Attributes leave the specializations of an entity as they are. -/
@[simp] theorem specializations_addAttributes (entity : Entity) (list : List Attribute) :
    (entity.addAttributes list).specializations = entity.specializations :=
  foldl_unchanged specializations addAttribute (fun _ _ => rfl) entity list

/-- Attributes that are added one after the other come last, in order. -/
@[simp] theorem attributes_addAttributes (entity : Entity) (list : List Attribute) :
    (entity.addAttributes list).attributes = entity.attributes ++ list :=
  foldl_appended attributes addAttribute (fun _ _ => rfl) entity list

/-- The key stays where it is, and without one the first added attribute with the key flag becomes
the key. -/
theorem keyPosition_addAttributes (entity : Entity) (list : List Attribute) :
    (entity.addAttributes list).keyPosition =
      (entity.keyPosition <|>
        (list.findIdx? Attribute.isKey).map (· + entity.attributes.length)) := by
  unfold addAttributes
  induction list generalizing entity with
  | nil => simp
  | cons first rest ih =>
    rw [List.foldl_cons, ih, List.findIdx?_cons]
    cases flag : first.isKey with
    | true => cases key : entity.keyPosition <;> simp [addAttribute, flag, key]
    | false => simp [addAttribute, flag, Function.comp_def, Nat.add_comm, Nat.add_left_comm]

end Entity

end ErSchema
