import ErSchema.Proofs.Schema.Invariant
import ErSchema.Proofs.Traversal
import ErSchema.Schema.Layout
import Mathlib.Data.List.Induction

/-!
# Which documents are accepted

Elaboration decides in three phases, and each phase skips what is wrong and goes on.  `Acceptable`
is a condition on the document alone, and `elaborated_or_rejected` compares the two: either the
document is acceptable and the invariant of elaboration holds to the end, or it is not acceptable
and an error was noticed.

Each phase is a fold over declarations, for which `foldl_accepts_or_rejects` gives the alternative:
the first declaration that does not fit what was handled before it leaves an error, and errors stay.
-/

set_option autoImplicit false

namespace ErSchema.Schema

/-- What makes a document acceptable: no name is declared twice, every reference is declared, and
every identifying relationship in turn has a weak entity to claim. -/
structure Document.Acceptable (document : Document) : Prop where
  distinct : (document.entityNames ++ document.relationshipNames).Nodup
  divisions : ∀ declaration ∈ document.specializations,
    declaration.Settled document.entityNames
  links : ∀ declaration ∈ document.relationships, declaration.Settled document.entityNames
  claims : ∀ before declaration after,
    document.relationships = before ++ declaration :: after → declaration.kind = .identifying →
    ∃ name ∈ declaration.participants, document.declaresWeak name = true ∧
      name ∉ document.claimedBy before

open Elaboration

/-- When accepted declarations keep a property of the state and a declaration that is not accepted
leaves an error, then a fold has the property and all declarations were accepted, or it has an error
and some declaration was not accepted. -/
theorem foldl_accepts_or_rejects {α : Type} {add : Elaboration → α → Elaboration}
    {findings : Elaboration → α → List Diagnostic}
    (adds : ∀ state declaration,
      (add state declaration).diagnostics = state.diagnostics ++ findings state declaration)
    (fits : List α → Elaboration → Prop) (accepts : List α → α → Prop)
    (keeps : ∀ before state declaration, fits before state → accepts before declaration →
      fits (before ++ [declaration]) (add state declaration))
    (rejects : ∀ before state declaration, fits before state → ¬ accepts before declaration →
      HasError (add state declaration).diagnostics)
    {start : Elaboration} (initially : fits [] start) (declarations : List α) :
    (fits declarations (declarations.foldl add start) ∧
      ∀ before declaration after, declarations = before ++ declaration :: after →
        accepts before declaration) ∨
    (HasError (declarations.foldl add start).diagnostics ∧
      ∃ before declaration after, declarations = before ++ declaration :: after ∧
        ¬ accepts before declaration) := by
  induction declarations using List.reverseRecOn with
  | nil => exact .inl ⟨initially, by simp⟩
  | append_singleton earlier last ih =>
    rw [List.foldl_append, List.foldl_cons, List.foldl_nil]
    rcases ih with ⟨fitting, accepted⟩ | ⟨error, before, declaration, after, rfl, rejected⟩
    · by_cases accepts_last : accepts earlier last
      · refine .inl ⟨keeps _ _ _ fitting accepts_last, ?_⟩
        intro before declaration after split
        rcases List.eq_nil_or_concat' after with rfl | ⟨after, final, rfl⟩
        · obtain ⟨rfl, same⟩ := List.append_inj' split rfl
          obtain rfl := List.singleton_inj.1 same
          exact accepts_last
        · rw [← List.cons_append, ← List.append_assoc] at split
          exact accepted before declaration after (List.append_inj' split rfl).1
      · exact .inr ⟨rejects _ _ _ fitting accepts_last, earlier, last, [], rfl, accepts_last⟩
    · refine .inr ⟨?_, before, declaration, after ++ [last], by simp, rejected⟩
      rw [adds, hasError_append]
      exact .inl error

/-- An error that was noticed among the entities is there at the end of the specializations. -/
theorem hasError_afterSpecializations {document : Document}
    (error : HasError (afterEntities document).diagnostics) :
    HasError (afterSpecializations document).diagnostics := by
  rw [afterSpecializations, diagnostics_foldl diagnostics_addSpecialization, hasError_append]
  exact .inl error

/-- An error that was noticed among the specializations is there at the end. -/
theorem hasError_run {document : Document}
    (error : HasError (afterSpecializations document).diagnostics) :
    HasError (run document).diagnostics := by
  rw [run_eq, diagnostics_foldl diagnostics_addRelationship, hasError_append]
  exact .inl error

/-! ## The three phases -/

/-- The first phase goes through without an error, or the document is not acceptable. -/
theorem afterEntities_elaborated_or_rejected (document : Document) :
    Elaborated { document with specializations := [], relationships := [] }
      (afterEntities document) ∨
    (HasError (afterEntities document).diagnostics ∧ ¬ document.Acceptable) := by
  have phase := foldl_accepts_or_rejects diagnostics_addEntity
    (fun before => Elaborated
      { document with entities := before, specializations := [], relationships := [] })
    (fun before declaration => formal declaration.name ∉ Document.entityNames
      { document with entities := before, specializations := [], relationships := [] })
    (fun before state declaration fits free => fits.addEntity rfl rfl free)
    (fun before state declaration fits taken => fits.hasError_addEntity
      (List.mem_append_left _ (Classical.not_not.1 taken)))
    (elaborated_start document) document.entities
  rcases phase with ⟨fits, -⟩ | ⟨error, before, declaration, after, split, taken⟩
  · exact .inl fits
  · refine .inr ⟨error, fun acceptable => taken ?_⟩
    have distinct := (List.nodup_append.1 acceptable.distinct).1
    rw [Document.entityNames, split, List.map_append, List.map_cons] at distinct
    intro mem
    exact (List.nodup_append.1 distinct).2.2 _ mem _ List.mem_cons_self rfl

/-- The second phase goes through without an error, or the document is not acceptable. -/
theorem afterSpecializations_elaborated_or_rejected {document : Document}
    (fits : Elaborated { document with specializations := [], relationships := [] }
      (afterEntities document)) :
    (Elaborated { document with relationships := [] } (afterSpecializations document) ∧
      ∀ declaration ∈ document.specializations, declaration.Settled document.entityNames) ∨
    (HasError (afterSpecializations document).diagnostics ∧ ¬ document.Acceptable) := by
  have phase := foldl_accepts_or_rejects diagnostics_addSpecialization
    (fun before => Elaborated { document with specializations := before, relationships := [] })
    (fun _ declaration => declaration.Settled document.entityNames)
    (fun before state declaration fits settled => fits.addSpecialization settled)
    (fun before state declaration fits unsettled => fits.hasError_addSpecialization unsettled)
    fits document.specializations
  rcases phase with ⟨fits, settled⟩ | ⟨error, before, declaration, after, split, unsettled⟩
  · refine .inl ⟨fits, fun declaration mem => ?_⟩
    obtain ⟨before, after, split⟩ := List.append_of_mem mem
    exact settled before declaration after split
  · refine .inr ⟨error, fun acceptable => unsettled ?_⟩
    exact acceptable.divisions declaration (split ▸ List.mem_append_right _ List.mem_cons_self)

/-- In an acceptable document every relationship fits those before it. -/
theorem Document.Acceptable.admits {document : Document} (acceptable : document.Acceptable)
    {before : List RelationshipDeclaration} {declaration : RelationshipDeclaration}
    {after : List RelationshipDeclaration}
    (split : document.relationships = before ++ declaration :: after) :
    Document.Admits { document with relationships := before } declaration := by
  refine ⟨?_, ?_, ?_⟩
  · have distinct := acceptable.distinct
    rw [Document.relationshipNames, split, List.map_append, List.map_cons, ← List.append_assoc]
      at distinct
    exact fun mem => (List.nodup_append.1 distinct).2.2 _ mem _ List.mem_cons_self rfl
  · exact acceptable.links declaration (split ▸ List.mem_append_right _ List.mem_cons_self)
  · intro identifying
    rw [Document.claim?_isSome_iff identifying]
    exact acceptable.claims before declaration after split identifying

/-- The third phase goes through without an error, or the document is not acceptable. -/
theorem run_elaborated_or_rejected {document : Document}
    (fits : Elaborated { document with relationships := [] } (afterSpecializations document)) :
    (Elaborated document (run document) ∧
      ∀ before declaration after, document.relationships = before ++ declaration :: after →
        Document.Admits { document with relationships := before } declaration) ∨
    (HasError (run document).diagnostics ∧ ¬ document.Acceptable) := by
  have phase := foldl_accepts_or_rejects diagnostics_addRelationship
    (fun before => Elaborated { document with relationships := before })
    (fun before => Document.Admits { document with relationships := before })
    (fun before state declaration fits admitted => fits.addRelationship admitted)
    (fun before state declaration fits unfit => fits.hasError_addRelationship unfit)
    fits document.relationships
  rcases phase with accepted | ⟨error, before, declaration, after, split, unfit⟩
  · exact .inl accepted
  · exact .inr ⟨error, fun acceptable => unfit (acceptable.admits split)⟩

/-! ## The outcome -/

/-- Either the document is acceptable and the invariant holds to the end, or the document is not
acceptable and an error was noticed. -/
theorem elaborated_or_rejected (document : Document) :
    (Elaborated document (run document) ∧ document.Acceptable) ∨
    (HasError (run document).diagnostics ∧ ¬ document.Acceptable) := by
  rcases afterEntities_elaborated_or_rejected document with fits | ⟨error, rejected⟩
  case inr => exact .inr ⟨hasError_run (hasError_afterSpecializations error), rejected⟩
  rcases afterSpecializations_elaborated_or_rejected fits with ⟨fits, divisions⟩ | ⟨error, rejected⟩
  case inr => exact .inr ⟨hasError_run error, rejected⟩
  rcases run_elaborated_or_rejected fits with ⟨fits, admitted⟩ | rejected
  case inr => exact .inr rejected
  refine .inl ⟨fits, fits.distinct, divisions, ?_, ?_⟩
  · intro declaration mem
    obtain ⟨before, after, split⟩ := List.append_of_mem mem
    exact (admitted before declaration after split).2.1
  · intro before declaration after split identifying
    have possible := (admitted before declaration after split).2.2 identifying
    exact (Document.claim?_isSome_iff identifying).1 possible

/-- An accepted document is acceptable, the invariant holds to the end, and the model is that of the
last state. -/
theorem elaborated_of_elaborate {document : Document} {model : Model} {warnings : List Diagnostic}
    (accepted : document.elaborate = .ok (model, warnings)) :
    Elaborated document (run document) ∧ document.Acceptable ∧ model = (run document).model := by
  rcases elaborated_or_rejected document with ⟨fits, acceptable⟩ | ⟨error, -⟩
  · have clean := fits.clean
    rw [diagnostics_run] at clean
    rw [elaborate_of_not_hasError clean] at accepted
    cases accepted
    exact ⟨fits, acceptable, rfl⟩
  · rw [diagnostics_run] at error
    rw [elaborate_of_hasError error] at accepted
    cases accepted

/-- An acceptable document has no error among its findings, and every other document has one. -/
theorem hasError_findings_iff (document : Document) :
    HasError document.findings ↔ ¬ document.Acceptable := by
  rw [← diagnostics_run]
  rcases elaborated_or_rejected document with ⟨fits, acceptable⟩ | ⟨error, rejected⟩
  · exact iff_of_false fits.clean (Classical.not_not.2 acceptable)
  · exact iff_of_true error rejected

/-- Elaboration accepts exactly the acceptable documents.  A refusal holds everything that was
noticed, in order, and at least one error.  Warnings alone are no reason for a refusal: they are
handed on with the model. -/
theorem elaborate_accepts_iff (document : Document) :
    ((∃ model warnings, document.elaborate = .ok (model, warnings)) ↔ document.Acceptable) ∧
    (∀ refused, document.elaborate = .error refused →
      refused.diagnostics = document.findings ∧
      ∃ diagnostic ∈ refused.diagnostics, diagnostic.severity = .error) ∧
    ((∀ diagnostic ∈ document.findings, diagnostic.severity = .warning) →
      ∃ model, document.elaborate = .ok (model, document.findings)) ∧
    (∀ model warnings, document.elaborate = .ok (model, warnings) →
      warnings = document.findings ∧
      ∀ diagnostic ∈ warnings, diagnostic.severity = .warning) := by
  by_cases error : HasError document.findings
  · have rejected := (hasError_findings_iff document).1 error
    rw [elaborate_of_hasError error]
    refine ⟨iff_of_false ?_ rejected, ?_, ?_, ?_⟩
    · rintro ⟨model, warnings, outcome⟩
      cases outcome
    · rintro refused ⟨⟩
      exact ⟨rfl, error⟩
    · intro harmless
      obtain ⟨diagnostic, mem, severe⟩ := error
      rw [harmless diagnostic mem] at severe
      cases severe
    · rintro model warnings ⟨⟩
  · have acceptable := Classical.not_not.1 (mt (hasError_findings_iff document).2 error)
    rw [elaborate_of_not_hasError error]
    refine ⟨iff_of_true ⟨_, _, rfl⟩ acceptable, ?_, fun _ => ⟨_, rfl⟩, ?_⟩
    · rintro refused ⟨⟩
    · rintro model warnings ⟨⟩
      exact ⟨rfl, fun diagnostic mem => severity_of_not_hasError error mem⟩

/-! ## The model of an accepted document -/

/-- A constraint that can be read is written as a list, and it has one bound for each item. -/
theorem bounds_of_constraint {value : Toml.Value} {constraint : StructuralConstraint}
    (read : Layout.constraint value = .ok constraint) :
    ∃ span underHeaders items, value = .array span underHeaders items ∧
      List.Forall₂ (fun item bound => Layout.bound item = .ok bound) items constraint.bounds := by
  unfold Layout.constraint at read
  cases bounds : Shape.list Layout.bound value with
  | error error =>
    rw [bounds] at read
    cases read
  | ok bounds' =>
    rw [bounds] at read
    cases read
    cases value with
    | array span underHeaders items =>
      exact ⟨span, underHeaders, items, rfl, mapM_eq_ok_iff.1 bounds⟩
    | _ => cases bounds

/-- An accepted document is represented by its model: every declaration has its part of the model,
in the declared order, and there is nothing else.  The bounds of a constraint are those of the items
that declare it, one for each. -/
theorem represents_of_elaborate {document : Document} {model : Model}
    {warnings : List Diagnostic} (accepted : document.elaborate = .ok (model, warnings)) :
    Represents document model ∧
    ∀ value constraint, Layout.constraint value = .ok constraint →
      ∃ span underHeaders items, value = .array span underHeaders items ∧
        List.Forall₂ (fun item bound => Layout.bound item = .ok bound) items
          constraint.bounds := by
  refine ⟨?_, fun _ _ => bounds_of_constraint⟩
  rcases elaborated_or_rejected document with ⟨fits, acceptable⟩ | ⟨error, -⟩
  · have clean := fits.clean
    rw [diagnostics_run] at clean
    rw [elaborate_of_not_hasError clean] at accepted
    cases accepted
    exact fits.toHasParts.represents fits.nodup_entityNames acceptable.divisions acceptable.links
  · rw [diagnostics_run] at error
    rw [elaborate_of_hasError error] at accepted
    cases accepted

/-- A household: a person, a weak entity that the person keeps, and a specialization. -/
def household : Document where
  name := "Household"
  entities := [
    { name := ⟨"person", 0, 6⟩
      attributes := [{ name := "name", isKey := true, components := [{ name := "first" }] }] },
    { name := ⟨"pet", 10, 13⟩, kind := .weak }]
  specializations := [{ parent := some ⟨"Person", 20, 26⟩, derived := [⟨"PET", 30, 33⟩] }]
  relationships := [
    { name := ⟨"keeps", 40, 45⟩
      kind := .identifying
      links := [
        { entity := some ⟨"person", 50, 56⟩, role := "Owner" },
        { entity := some ⟨"pet", 60, 63⟩, constraint := some .totalMany }] }]

/-- The model of the household. -/
def householdModel : Model where
  name := "Household"
  description := ""
  authors := []
  entities := [
    { kind := .regular
      name := "PERSON"
      keyPosition := some 0
      attributes := [⟨.composite, "Name", true, [⟨.simple, "First", false, []⟩]⟩]
      specializations := [⟨.unspecified, ⟨0⟩, none, true, [⟨1⟩]⟩] },
    { kind := .weak, name := "PET", keyPosition := none, attributes := [], specializations := [] }]
  relationships := [
    { kind := .identifying
      name := "KEEPS"
      links := [⟨some ⟨0⟩, none, "owner"⟩, ⟨some ⟨1⟩, some .totalMany, ""⟩]
      attributes := [] }]
  identifications := [(⟨1⟩, ⟨0⟩)]

/-- The household is accepted and represented by its model. -/
theorem household_represented :
    household.elaborate = .ok (householdModel, []) ∧ Represents household householdModel := by
  have accepted : household.elaborate = .ok (householdModel, []) := rfl
  exact ⟨accepted, (represents_of_elaborate accepted).1⟩

end ErSchema.Schema
