import ErSchema.Proofs.Identification
import Mathlib.Data.List.Forall2

/-!
# Going through a list with steps that may fail

A list is gone through from the left, and the first step that fails ends the work with its error.
So the outcome is a list of values, one for each item and in the same order, or else the error of
the first item at which a step fails.
-/

set_option autoImplicit false

namespace ErSchema

/-- The first item with a property is the head of the list, or the head lacks the property. -/
theorem firstWith_cons_iff {α : Type} {holds : α → Prop} {head item : α} {rest : List α} :
    FirstWith holds (head :: rest) item ↔
      holds head ∧ item = head ∨ ¬ holds head ∧ FirstWith holds rest item := by
  constructor
  · rintro ⟨own, skipped, later, split, others⟩
    cases skipped with
    | nil =>
      obtain ⟨rfl, -⟩ := List.cons.inj split
      exact .inl ⟨own, rfl⟩
    | cons first skipped =>
      obtain ⟨rfl, tail⟩ := List.cons.inj split
      simp only [List.mem_cons, forall_eq_or_imp] at others
      exact .inr ⟨others.1, own, skipped, later, tail, others.2⟩
  · rintro (⟨own, rfl⟩ | ⟨lacks, own, skipped, later, rfl, others⟩)
    · exact ⟨own, [], rest, rfl, by simp⟩
    · refine ⟨own, head :: skipped, later, rfl, ?_⟩
      simp only [List.mem_cons, forall_eq_or_imp]
      exact ⟨lacks, others⟩

section Traversal

variable {ε α β : Type} {step : α → Except ε β} {item : α} {rest items : List α}

/-- A traversal succeeds when its first step does and the rest does, with both values. -/
theorem mapM_cons_eq_ok_iff {values : List β} :
    (item :: rest).mapM step = .ok values ↔
      ∃ value others, step item = .ok value ∧ rest.mapM step = .ok others ∧
        values = value :: others := by
  rw [List.mapM_cons]
  cases first : step item with
  | error error => simp [bind, Except.bind]
  | ok value =>
    cases later : rest.mapM step with
    | error error => simp [bind, Except.bind]
    | ok others => simp [bind, Except.bind, pure, Except.pure, eq_comm]

/-- A traversal fails at its first step, or later when that step succeeds. -/
theorem mapM_cons_eq_error_iff {error : ε} :
    (item :: rest).mapM step = .error error ↔
      step item = .error error ∨
        ∃ value, step item = .ok value ∧ rest.mapM step = .error error := by
  rw [List.mapM_cons]
  cases first : step item with
  | error error => simp [bind, Except.bind]
  | ok value =>
    cases later : rest.mapM step with
    | error error => simp [bind, Except.bind]
    | ok others => simp [bind, Except.bind, pure, Except.pure]

/-- When no step fails there is one value for each item. -/
theorem mapM_eq_ok_iff {values : List β} :
    items.mapM step = .ok values ↔
      List.Forall₂ (fun item value => step item = .ok value) items values := by
  induction items generalizing values with
  | nil =>
    rw [List.mapM_nil, List.forall₂_nil_left_iff]
    constructor
    · intro done
      cases done
      rfl
    · rintro rfl
      rfl
  | cons item rest ih => simp only [mapM_cons_eq_ok_iff, List.forall₂_cons_left_iff, ih]

/-- Each value of two corresponding lists comes from an item. -/
theorem exists_mem_of_forall₂ {related : α → β → Prop} {values : List β}
    (each : List.Forall₂ related items values) {value : β} (mem : value ∈ values) :
    ∃ item ∈ items, related item value := by
  induction each with
  | nil => cases mem
  | cons first later ih =>
    rcases List.mem_cons.1 mem with rfl | rest
    · exact ⟨_, List.mem_cons_self, first⟩
    · obtain ⟨item, listed, holds⟩ := ih rest
      exact ⟨item, List.mem_cons_of_mem _ listed, holds⟩

/-- The error is that of the first item at which a step fails. -/
theorem mapM_eq_error_iff {error : ε} :
    items.mapM step = .error error ↔
      ∃ item, FirstWith (fun item => ∃ error, step item = .error error) items item ∧
        step item = .error error := by
  induction items with
  | nil =>
    constructor
    · intro failed
      cases failed
    · rintro ⟨item, ⟨-, skipped, later, split, -⟩, -⟩
      simp at split
  | cons head rest ih =>
    simp only [mapM_cons_eq_error_iff, firstWith_cons_iff, ih]
    cases first : step head with
    | error own => simp [first]
    | ok value => simp

end Traversal

end ErSchema
