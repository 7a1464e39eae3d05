import ErSchema.Diagram
import ErSchema.Proofs.Name.Marks

/-!
# Nodes and their identifiers

A node of a diagram is the node of an entity or a relationship, of an attribute that is reached from
one by going through the names of attributes, or of a circle.  `DiagramNode.id` is the identifier
under which it is drawn.

An identifier can be cut at its marks (`append_inj_of_unmarked`), so it says which node it belongs
to (`DiagramNode.id_injective`): two nodes share an identifier only if they are reached from the
same name by the same path.
-/

set_option autoImplicit false

namespace ErSchema

namespace Name

/-! ## Cutting a text at its marks -/

/-- A text that is empty or begins with a mark. -/
def BeginsMarked (text : List Char) : Prop :=
  text = [] ∨ ∃ mark rest, isMark mark = true ∧ text = '_' :: mark :: rest

/-- No mark begins inside a text without marks, even when the mark would end behind it. -/
theorem eq_nil_of_unmarked_append {text overhang tail : List Char}
    (unmarked : Unmarked (text ++ overhang)) (begins : BeginsMarked (overhang ++ tail))
    (begins' : BeginsMarked tail) : overhang = [] := by
  rcases begins with none | ⟨mark, rest, isMark, same⟩
  · exact (List.append_eq_nil_iff.1 none).1
  cases overhang with
  | nil => rfl
  | cons c overhang =>
    rw [List.cons_append, List.cons.injEq] at same
    obtain ⟨rfl, same⟩ := same
    cases overhang with
    | nil =>
      -- the letter of the mark would begin the tail, which begins with an underscore
      rw [List.nil_append] at same
      rcases begins' with none | ⟨mark', rest', -, same'⟩
      · rw [none] at same
        cases same
      · rw [same', List.cons.injEq] at same
        rw [← same.1] at isMark
        cases isMark
    | cons d overhang =>
      rw [List.cons_append, List.cons.injEq] at same
      rw [← same.1] at isMark
      have inside := (List.isChain_append.1 unmarked).2.1
      exact absurd ⟨rfl, isMark⟩ (List.isChain_cons_cons.1 inside).1

/-- A text is cut at its first mark in one way only. -/
theorem append_inj_of_unmarked {first second tail tail' : List Char} (unmarked : Unmarked first)
    (unmarked' : Unmarked second) (begins : BeginsMarked tail) (begins' : BeginsMarked tail')
    (same : first ++ tail = second ++ tail') : first = second ∧ tail = tail' := by
  rcases List.append_eq_append_iff.1 same with ⟨overhang, rfl, rfl⟩ | ⟨overhang, rfl, rfl⟩
  · have none := eq_nil_of_unmarked_append unmarked' begins begins'
    subst none
    simp
  · have none := eq_nil_of_unmarked_append unmarked begins' begins
    subst none
    simp

end Name

open Name

/-- What a node of a diagram stands for. -/
inductive DiagramNode where
  /-- An entity or a relationship, or the attribute that is reached from it by a path of names. -/
  | part (owner : String) (path : List String)
  /-- The circle of the specialization at a position in the list of its parent. -/
  | circle (parent : String) (position : Nat)
  deriving DecidableEq, Repr

namespace DiagramNode

/-- The identifier of a node. -/
def id : DiagramNode → String
  | .part owner path => path.foldl Diagram.attributeId owner
  | .circle parent position => Diagram.circleId parent position

/-- The name of the entity or the relationship to which a node belongs. -/
def owner : DiagramNode → String
  | .part owner _ => owner
  | .circle parent _ => parent

/-- The names of the attributes through which a node is reached. -/
def path : DiagramNode → List String
  | .part _ path => path
  | .circle _ _ => []

/-- The names in a node are those of an entity or a relationship and of attributes. -/
structure Named (node : DiagramNode) : Prop where
  owner : ∃ text, node.owner = ofEntity text
  path : ∀ name ∈ node.path, ∃ text, name = ofAttribute text

/-- The owner in a named node can be cut from what follows it. -/
theorem Named.plain_owner {node : DiagramNode} (named : node.Named) : Plain node.owner := by
  obtain ⟨text, same⟩ := named.owner
  rw [same]
  exact plain_ofEntity text

/-- So can the names of its path. -/
theorem Named.plain_path {node : DiagramNode} (named : node.Named) :
    ∀ name ∈ node.path, Plain name := by
  intro name mem
  obtain ⟨text, rfl⟩ := named.path name mem
  exact plain_ofAttribute text

/-! ## Identifiers -/

/-- The names of a path, each after its mark. -/
def marked (path : List String) : List Char :=
  path.flatMap fun name => '_' :: 'a' :: name.toList

/-- What the identifier of a node has after the name of the owner. -/
def tail : DiagramNode → List Char
  | .part _ path => marked path
  | .circle _ position => '_' :: 's' :: (toString position).toList

/-- The identifier of an attribute is the name of the owner, followed by the marked names of the
path. -/
theorem toList_foldl_attributeId (owner : String) (path : List String) :
    (path.foldl Diagram.attributeId owner).toList = owner.toList ++ marked path := by
  induction path generalizing owner with
  | nil => simp [marked]
  | cons name rest ih =>
    rw [List.foldl_cons, ih]
    simp [marked, Diagram.attributeId, String.toList_append]

/-- An identifier is the name of the owner, followed by what the node adds to it. -/
theorem toList_id (node : DiagramNode) : node.id.toList = node.owner.toList ++ node.tail := by
  cases node with
  | part owner path => exact toList_foldl_attributeId owner path
  | circle parent position => simp [id, owner, tail, Diagram.circleId, String.toList_append]

/-- A path begins with a mark, if it has any names. -/
theorem beginsMarked_marked (path : List String) : BeginsMarked (marked path) := by
  cases path with
  | nil => exact .inl rfl
  | cons name rest => exact .inr ⟨'a', _, rfl, rfl⟩

/-- What a node adds to the name of its owner begins with a mark. -/
theorem beginsMarked_tail (node : DiagramNode) : BeginsMarked node.tail := by
  cases node with
  | part owner path => exact beginsMarked_marked path
  | circle parent position => exact .inr ⟨'s', _, rfl, rfl⟩

/-- A path can be told from its names with their marks. -/
theorem marked_injective {path path' : List String} (plain : ∀ name ∈ path, Plain name)
    (plain' : ∀ name ∈ path', Plain name) (same : marked path = marked path') : path = path' := by
  induction path generalizing path' with
  | nil =>
    cases path' with
    | nil => rfl
    | cons name rest => cases same
  | cons name rest ih =>
    cases path' with
    | nil => cases same
    | cons name' rest' =>
      simp only [List.mem_cons, forall_eq_or_imp] at plain plain'
      have after : name.toList ++ marked rest = name'.toList ++ marked rest' := by
        simpa [marked] using same
      obtain ⟨head, tail⟩ := append_inj_of_unmarked plain.1.unmarked plain'.1.unmarked
        (beginsMarked_marked rest) (beginsMarked_marked rest') after
      rw [String.toList_inj.1 head, ih plain.2 plain'.2 tail]

/-- Different numbers are written differently. -/
theorem toString_nat_injective {first second : Nat} (same : toString first = toString second) :
    first = second := by
  have digits := congrArg String.toList same
  rw [Nat.toString_eq_repr, Nat.toString_eq_repr, Nat.toList_repr, Nat.toList_repr] at digits
  have read := congrArg (Nat.ofDigitChars 10 · 0) digits
  simpa [Nat.ofDigitChars_toDigits] using read

/-- A node is known by its identifier. -/
theorem id_injective {node other : DiagramNode} (named : node.Named) (named' : other.Named)
    (same : node.id = other.id) : node = other := by
  have chars := congrArg String.toList same
  rw [toList_id, toList_id] at chars
  obtain ⟨owner, tail⟩ := append_inj_of_unmarked named.plain_owner.unmarked
    named'.plain_owner.unmarked node.beginsMarked_tail other.beginsMarked_tail chars
  have owner := String.toList_inj.1 owner
  cases node with
  | part name path =>
    cases other with
    | part name' path' =>
      have path := marked_injective named.plain_path named'.plain_path tail
      exact congr (congrArg part owner) path
    | circle parent position => cases path <;> simp [DiagramNode.tail, marked] at tail
  | circle parent position =>
    cases other with
    | part name path => cases path <;> simp [DiagramNode.tail, marked] at tail
    | circle parent' position' =>
      simp only [DiagramNode.tail, List.cons.injEq, true_and, String.toList_inj] at tail
      exact congr (congrArg circle owner) (toString_nat_injective tail)

/-- The text of a number has digits only. -/
theorem notMem_toString {c : Char} (other : c.isDigit = false) (number : Nat) :
    c ∉ (toString number).toList := by
  rw [Nat.toString_eq_repr, Nat.toList_repr]
  intro digit
  rw [Nat.isDigit_of_mem_toDigits (by decide) (by decide) digit] at other
  cases other

/-- No identifier holds a carriage return. -/
theorem return_notMem_id {node : DiagramNode} (named : node.Named) : '\r' ∉ node.id.toList := by
  rw [toList_id, List.mem_append]
  rintro (mem | mem)
  · exact named.plain_owner.noReturn mem
  cases node with
  | part owner path =>
    obtain ⟨name, listed, mem⟩ := List.mem_flatMap.1 mem
    have absent := (named.plain_path name listed).noReturn
    simp [absent] at mem
  | circle parent position =>
    have digit : '\r' ∈ (toString position).toList := by
      simpa [tail] using mem
    exact notMem_toString (by decide) position digit

end DiagramNode

end ErSchema
