import ErSchema.Proofs.Schema.Description

/-!
# Which weak entities the relationships of a document claim

The identifying relationships of a document claim weak entities one after the other, each the first
in link order that is left.  Here this rule is stated on the names that a document declares, without
handles and without a model.
-/

set_option autoImplicit false

namespace ErSchema.Schema

/-- The names of the participants of a relationship, in link order. -/
def RelationshipDeclaration.participants (declaration : RelationshipDeclaration) : List String :=
  declaration.links.filterMap fun link => link.entity.map formal

/-- Whether a document declares a weak entity with a name. -/
def Document.declaresWeak (document : Document) (name : String) : Bool :=
  document.entities.any fun declaration =>
    decide (formal declaration.name = name ∧ declaration.kind = .weak)

/-- The weak entity that a relationship claims: none for a regular relationship, and for an
identifying one the first participant in link order that is weak and not yet claimed. -/
def Document.claim? (document : Document) (claimed : List String)
    (declaration : RelationshipDeclaration) : Option String :=
  if declaration.kind = .identifying then
    declaration.participants.find? fun name =>
      document.declaresWeak name && !claimed.contains name
  else
    none

/-- The weak entities that relationships claim one after the other. -/
def Document.claimedBy (document : Document) (declarations : List RelationshipDeclaration) :
    List String :=
  declarations.foldl
    (fun claimed declaration => claimed ++ (document.claim? claimed declaration).toList) []

/-- A further relationship claims what is left for it, behind what was claimed before. -/
@[simp] theorem Document.claimedBy_concat (document : Document)
    (before : List RelationshipDeclaration) (declaration : RelationshipDeclaration) :
    document.claimedBy (before ++ [declaration]) = document.claimedBy before ++
      (document.claim? (document.claimedBy before) declaration).toList := by
  simp [Document.claimedBy]

/-- A claim is possible exactly when some participant is weak and not yet claimed. -/
theorem Document.claim?_isSome_iff {document : Document} {claimed : List String}
    {declaration : RelationshipDeclaration} (identifying : declaration.kind = .identifying) :
    (document.claim? claimed declaration).isSome ↔
      ∃ name ∈ declaration.participants, document.declaresWeak name = true ∧ name ∉ claimed := by
  simp [Document.claim?, identifying]

/-- With distinct names, whether a name is that of a weak entity depends on its one declaration. -/
theorem declaresWeak_of_mem {document : Document} (distinct : document.entityNames.Nodup)
    {declaration : EntityDeclaration} (mem : declaration ∈ document.entities) :
    document.declaresWeak (formal declaration.name) = decide (declaration.kind = .weak) := by
  rw [Bool.eq_iff_iff, Document.declaresWeak, List.any_eq_true, decide_eq_true_iff]
  constructor
  · rintro ⟨other, mem', both⟩
    obtain ⟨same, weak⟩ := of_decide_eq_true both
    rwa [List.inj_on_of_nodup_map distinct mem mem' same.symm]
  · exact fun weak => ⟨declaration, mem, decide_eq_true ⟨rfl, weak⟩⟩

/-- The participants of the described relationship are the handles of those declared. -/
theorem participants_described (names : List String) (declaration : RelationshipDeclaration) :
    (declaration.described names).participants = declaration.participants.map (handleOf names) := by
  simp only [Relationship.participants, RelationshipDeclaration.described,
    RelationshipDeclaration.withLinks, Relationship.ofName, RelationshipDeclaration.participants,
    List.filterMap_map, List.map_filterMap]
  apply List.filterMap_congr
  intro link _
  cases given : link.entity <;> simp [LinkDeclaration.described, Link.ofRole, given]

/-- The participants of a settled relationship are declared. -/
theorem RelationshipDeclaration.Settled.mem_of_mem_participants {names : List String}
    {declaration : RelationshipDeclaration} (settled : declaration.Settled names) {name : String}
    (mem : name ∈ declaration.participants) : name ∈ names := by
  obtain ⟨link, listed, named⟩ := List.mem_filterMap.1 mem
  obtain ⟨reference, given, rfl⟩ := Option.map_eq_some_iff.1 named
  exact settled link listed reference given

end ErSchema.Schema
