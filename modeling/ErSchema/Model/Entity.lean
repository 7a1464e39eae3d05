import ErSchema.Model.Attribute
import ErSchema.Model.Specialization

/-!
# Entities

An entity has attributes and the specializations of which it is the parent.  The first attribute
that is added with the key flag becomes its key; a later one with the flag stays an ordinary
attribute.
-/

set_option autoImplicit false

namespace ErSchema

/-- How the instances of an entity are told apart. -/
inductive EntityKind where
  /-- By a key of their own. -/
  | regular
  /-- By a partial key together with an identifying relationship. -/
  | weak
  deriving DecidableEq, Repr, Inhabited

/-- The name of a kind of entity. -/
def EntityKind.text : EntityKind → String
  | .regular => "regular"
  | .weak => "weak"

/-- An entity with its attributes, the position of its key among them, and its specializations. -/
structure Entity where
  kind : EntityKind
  name : String
  keyPosition : Option Nat
  attributes : List Attribute
  specializations : List Specialization
  deriving Repr

namespace Entity

/-- An entity without attributes, named by the entity form of `name`. -/
def ofName (kind : EntityKind) (name : String) : Entity :=
  ⟨kind, Name.ofEntity name, none, [], []⟩

/-- Whether an entity is weak. -/
def isWeak (entity : Entity) : Bool :=
  entity.kind = .weak

/-- The entity with one more attribute.  It becomes the key when it has the key flag and no
attribute before it had. -/
def addAttribute (entity : Entity) (added : Attribute) : Entity :=
  { entity with
    keyPosition :=
      if added.isKey then entity.keyPosition <|> some entity.attributes.length
      else entity.keyPosition
    attributes := entity.attributes ++ [added] }

/-- The entity with several more attributes, added in order. -/
def addAttributes (entity : Entity) (attributes : List Attribute) : Entity :=
  attributes.foldl addAttribute entity

/-- The key of an entity. -/
def key? (entity : Entity) : Option Attribute :=
  entity.keyPosition.bind (entity.attributes[·]?)

/-- The entity with one more specialization at the end of its list. -/
def attach (entity : Entity) (specialization : Specialization) : Entity :=
  { entity with specializations := entity.specializations ++ [specialization] }

end Entity

end ErSchema
