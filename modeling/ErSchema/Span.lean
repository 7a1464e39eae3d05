/-!
# Spans of source text

A span is a stretch of a source text, counted in bytes of its UTF-8 form.
-/

set_option autoImplicit false

namespace ErSchema

/-- The bytes from `start` up to but not including `stop`. -/
structure Span where
  start : Nat
  stop : Nat
  deriving DecidableEq, Repr, Inhabited

/-- The number of bytes in a span. -/
def Span.length (span : Span) : Nat :=
  span.stop - span.start

/-- Whether a span holds no byte. -/
def Span.isEmpty (span : Span) : Bool :=
  span.start == span.stop

/-- A value together with the stretch of source text it was read from. -/
structure Spanned (α : Type) where
  value : α
  span : Span
  deriving DecidableEq, Repr, Inhabited

end ErSchema
