/-!
# Style of a diagram

The fill colours of the four sorts of nodes and the way in which overlapping nodes are moved apart.
Colours and the overlap setting are passed on as they are given.
-/

set_option autoImplicit false

namespace ErSchema

/-- The appearance of a diagram. -/
structure Style where
  entityFill : String := "lightblue2"
  attributeFill : String := "lightcyan1"
  relationshipFill : String := "lavenderblush2"
  specializationFill : String := "grey97"
  overlap : String := "scalexy"
  deriving DecidableEq, Repr, Inhabited

end ErSchema
