import ErSchema.Model.Hierarchy
import Mathlib.Algebra.BigOperators.Group.List.Basic
import Mathlib.Algebra.GroupWithZero.Nat
import Mathlib.Data.List.Nodup
import Mathlib.Logic.Relation

/-!
# The search for subclasses

The search works on a list of pending handles and remembers which entities it has opened.  One turn
takes the first pending handle.  Either this is the handle that is looked for, or it stands for an
entity that is opened now, so that its direct subclasses become pending, or it is dropped.

Two facts carry the proof.  What has been opened is `Explored`: its direct subclasses are opened or
pending, so a chain that starts at an opened entity and ends at one that is not passes through a
pending handle.  And every turn uses up one unit of the `workload`, which counts the pending handles
and the subclasses of the entities that are still to be opened; cycles add nothing to it.
-/

set_option autoImplicit false

namespace ErSchema

namespace Model

/-- Whether a handle is listed by a specialization of the entity behind another handle. -/
def IsSubclass (model : Model) (id subclass : EntityId) : Prop :=
  ∃ entity, model.entity? id = some entity ∧
    ∃ specialization ∈ entity.specializations, subclass ∈ specialization.derived

/-- The subclasses that the search opens are the direct ones. -/
theorem mem_subclasses {model : Model} {id subclass : EntityId} :
    subclass ∈ model.subclasses id ↔ model.IsSubclass id subclass := by
  unfold subclasses IsSubclass
  cases model.entity? id with
  | none => simp
  | some entity => simp

/-- A handle that the model did not issue has no subclasses. -/
theorem index_lt_of_isSubclass {model : Model} {id subclass : EntityId}
    (listed : model.IsSubclass id subclass) : id.index < model.entities.length := by
  obtain ⟨entity, found, -⟩ := listed
  exact (List.getElem?_eq_some_iff.1 found).1

end Model

/-- A stage of the search for a subclass. -/
structure Search where
  opened : List EntityId
  pending : List EntityId

namespace Search

open Model Relation

/-- What the search says at a stage, unless it has to go on. -/
def answer? (target : EntityId) (search : Search) : Option Bool :=
  match search.pending with
  | [] => some false
  | id :: _ => if id = target then some true else none

/-- One turn of the search. -/
def turn (model : Model) (search : Search) : Search :=
  match search.pending with
  | [] => search
  | id :: rest =>
    if id.index < model.entities.length ∧ search.opened.contains id = false then
      ⟨id :: search.opened, model.subclasses id ++ rest⟩
    else
      ⟨search.opened, rest⟩

/-- A stage without an answer has a first pending handle, which is not the target. -/
theorem answer?_eq_none {target : EntityId} {search : Search}
    (open' : search.answer? target = none) :
    ∃ id rest, search.pending = id :: rest ∧ id ≠ target := by
  unfold answer? at open'
  split at open'
  · cases open'
  · next id rest pending => exact ⟨id, rest, pending, by simpa using open'⟩

/-- A turn opens the first pending handle or drops it. -/
theorem turn_cases (model : Model) {search : Search} {id : EntityId} {rest : List EntityId}
    (pending : search.pending = id :: rest) :
    (id.index < model.entities.length ∧ id ∉ search.opened ∧
      search.turn model = ⟨id :: search.opened, model.subclasses id ++ rest⟩) ∨
    ((id.index < model.entities.length → id ∈ search.opened) ∧
      search.turn model = ⟨search.opened, rest⟩) := by
  by_cases fresh : id.index < model.entities.length ∧ id ∉ search.opened
  · refine .inl ⟨fresh.1, fresh.2, ?_⟩
    simp [turn, pending, fresh]
  · refine .inr ⟨fun issued => by_contra fun new => fresh ⟨issued, new⟩, ?_⟩
    have dropped : ¬ (id.index < model.entities.length ∧ search.opened.contains id = false) := by
      simpa using fresh
    simp only [turn, pending, if_neg dropped]

/-! ## What the search has seen -/

/-- The target has not been opened, and whatever is listed below an opened entity has been opened
too, or is pending, or does not lead to the target. -/
structure Explored (model : Model) (target : EntityId) (search : Search) : Prop where
  missed : target ∉ search.opened
  covered : ∀ id ∈ search.opened, ∀ subclass, model.IsSubclass id subclass →
    subclass ∈ search.opened ∨ subclass ∈ search.pending ∨
      ¬ ReflTransGen model.IsSubclass subclass target

/-- Whether a chain of subclasses leads from a pending handle to the target. -/
def Leads (model : Model) (target : EntityId) (search : Search) : Prop :=
  ∃ first ∈ search.pending, ReflTransGen model.IsSubclass first target

section Turn

variable {model : Model} {target : EntityId} {search : Search}

/-- Nothing but a handle itself is reached from a handle that the model did not issue. -/
theorem not_reaches_of_dangling {id : EntityId} (dangling : ¬ id.index < model.entities.length)
    (different : id ≠ target) : ¬ ReflTransGen model.IsSubclass id target := by
  intro chain
  rcases chain.cases_head with same | ⟨next, listed, -⟩
  · exact different same
  · exact dangling (index_lt_of_isSubclass listed)

/-- A chain from an opened entity to the target passes through a pending handle that has not been
opened. -/
theorem Explored.exists_pending (explored : search.Explored model target) {id : EntityId}
    (opened : id ∈ search.opened) (chain : ReflTransGen model.IsSubclass id target) :
    ∃ first ∈ search.pending, first ∉ search.opened ∧
      ReflTransGen model.IsSubclass first target := by
  induction chain using ReflTransGen.head_induction_on with
  | refl => exact absurd opened explored.missed
  | @head id next listed rest ih =>
    by_cases again : next ∈ search.opened
    · exact ih again
    · rcases explored.covered id opened next listed with earlier | pending | astray
      · exact absurd earlier again
      · exact ⟨next, pending, again, rest⟩
      · exact absurd rest astray

/-- A turn keeps the search explored. -/
theorem Explored.turn (explored : search.Explored model target)
    (unanswered : search.answer? target = none) : (search.turn model).Explored model target := by
  obtain ⟨id, rest, pending, different⟩ := answer?_eq_none unanswered
  have covered := explored.covered
  simp only [pending, List.mem_cons] at covered
  obtain ⟨-, -, turned⟩ | ⟨known, turned⟩ := turn_cases model pending
  · rw [turned]
    refine ⟨by simpa [different.symm] using explored.missed, ?_⟩
    intro other opened subclass listed
    rw [List.mem_append, mem_subclasses]
    rcases List.mem_cons.1 opened with rfl | earlier
    · exact .inr (.inl (.inl listed))
    · rcases covered other earlier subclass listed with before | (rfl | later) | astray
      · exact .inl (List.mem_cons_of_mem _ before)
      · exact .inl List.mem_cons_self
      · exact .inr (.inl (.inr later))
      · exact .inr (.inr astray)
  · rw [turned]
    refine ⟨explored.missed, ?_⟩
    intro other opened subclass listed
    rcases covered other opened subclass listed with before | (rfl | later) | astray
    · exact .inl before
    · by_cases issued : subclass.index < model.entities.length
      · exact .inl (known issued)
      · exact .inr (.inr (not_reaches_of_dangling issued different))
    · exact .inr (.inl later)
    · exact .inr (.inr astray)

/-- A turn neither loses a chain to the target nor makes one up. -/
theorem leads_turn (explored : search.Explored model target)
    (unanswered : search.answer? target = none) :
    (search.turn model).Leads model target ↔ search.Leads model target := by
  obtain ⟨id, rest, pending, different⟩ := answer?_eq_none unanswered
  obtain ⟨-, -, turned⟩ | ⟨known, turned⟩ := turn_cases model pending
  · rw [turned]
    constructor
    · rintro ⟨first, mem, chain⟩
      rcases List.mem_append.1 mem with listed | later
      · exact ⟨id, by simp [pending], .head (mem_subclasses.1 listed) chain⟩
      · exact ⟨first, by simp [pending, later], chain⟩
    · rintro ⟨first, mem, chain⟩
      rw [pending] at mem
      rcases List.mem_cons.1 mem with rfl | later
      · obtain ⟨next, listed, chain⟩ := chain.cases_head.resolve_left different
        exact ⟨next, List.mem_append_left _ (mem_subclasses.2 listed), chain⟩
      · exact ⟨first, List.mem_append_right _ later, chain⟩
  · rw [turned]
    constructor
    · rintro ⟨first, later, chain⟩
      exact ⟨first, by simp [pending, later], chain⟩
    · rintro ⟨first, mem, chain⟩
      rw [pending] at mem
      rcases List.mem_cons.1 mem with rfl | later
      · -- The dropped handle was opened before, so another pending handle is on the chain.
        have issued : first.index < model.entities.length := by_contra fun dangling =>
          not_reaches_of_dangling dangling different chain
        obtain ⟨other, mem, fresh, chain⟩ := explored.exists_pending (known issued) chain
        rw [pending] at mem
        rcases List.mem_cons.1 mem with rfl | later
        · exact absurd (known issued) fresh
        · exact ⟨other, later, chain⟩
      · exact ⟨first, later, chain⟩

/-! ## How long the search takes -/

/-- The pending handles, and all handles that are still to become pending. -/
def workload (model : Model) (search : Search) : Nat :=
  search.pending.length +
    ((model.unopened search.opened).map fun index => (model.subclasses ⟨index⟩).length).sum

/-- Opening an entity takes it from the unopened ones. -/
theorem unopened_cons (model : Model) (opened : List EntityId) (id : EntityId) :
    model.unopened (id :: opened) = (model.unopened opened).erase id.index := by
  have distinct : (model.unopened opened).Nodup := List.nodup_range.filter _
  rw [distinct.erase_eq_filter, unopened, unopened, List.filter_filter]
  apply List.filter_congr
  intro index _
  have same : (⟨index⟩ : EntityId) = id ↔ index = id.index := by
    cases id
    simp
  by_cases equal : index = id.index <;> simp [same, equal]

/-- A turn uses up one unit of the workload. -/
theorem workload_turn (model : Model) (unanswered : search.answer? target = none) :
    (search.turn model).workload model + 1 = search.workload model := by
  obtain ⟨id, rest, pending, -⟩ := answer?_eq_none unanswered
  obtain ⟨issued, fresh, turned⟩ | ⟨-, turned⟩ := turn_cases model pending
  · have unopened : id.index ∈ model.unopened search.opened := by
      simpa [Model.unopened, issued] using fresh
    have taken : (model.subclasses id).length +
          (((model.unopened search.opened).erase id.index).map
            fun index => (model.subclasses ⟨index⟩).length).sum =
        ((model.unopened search.opened).map fun index => (model.subclasses ⟨index⟩).length).sum :=
      List.sum_map_erase (fun index => (model.subclasses ⟨index⟩).length) unopened
    simp only [turned, workload, pending, unopened_cons, List.length_append, List.length_cons]
    omega
  · simp only [turned, workload, pending, List.length_cons]
    omega

/-- At the start the workload is made of the handles listed by the specialization and by all
specializations of the model. -/
theorem workload_start (model : Model) (pending : List EntityId) :
    workload model ⟨[], pending⟩ = pending.length +
      ((model.entities.flatMap Entity.specializations).flatMap Specialization.derived).length := by
  have all : model.unopened [] = List.range model.entities.length := by simp [unopened]
  have entities : (List.range model.entities.length).map
        (fun index => (model.subclasses ⟨index⟩).length) =
      model.entities.map
        fun entity => (entity.specializations.flatMap Specialization.derived).length := by
    apply List.ext_getElem
    · simp
    · intro index _ bound
      simp only [List.length_map] at bound
      simp [subclasses, entity?, List.getElem?_eq_getElem bound]
  rw [workload, all, entities, List.flatMap_assoc, List.length_flatMap]

/-! ## What the search answers -/

/-- The search gives the answer of a stage that has one. -/
theorem reaches_of_answer {answer : Bool} (answered : search.answer? target = some answer) :
    model.reaches target search.opened search.pending = answer := by
  obtain ⟨opened, pending⟩ := search
  cases pending with
  | nil => simpa [answer?, reaches] using answered
  | cons id rest =>
    have found : id = target ∧ answer = true := by simpa [answer?, eq_comm] using answered
    simp [reaches, found]

/-- A turn does not change what the search finds. -/
theorem reaches_turn (unanswered : search.answer? target = none) :
    model.reaches target (search.turn model).opened (search.turn model).pending =
      model.reaches target search.opened search.pending := by
  obtain ⟨id, rest, pending, different⟩ := answer?_eq_none unanswered
  rw [pending]
  obtain ⟨issued, fresh, turned⟩ | ⟨known, turned⟩ := turn_cases model pending
  · simp [turned, reaches, different, issued, fresh]
  · have dropped : ¬ (id.index < model.entities.length ∧ search.opened.contains id = false) := by
      simpa using known
    rw [turned, reaches, if_neg different, dif_neg dropped]

/-- After as many turns as there is work, or fewer, the search has its answer. -/
theorem exists_answer (model : Model) (target : EntityId) (search : Search) :
    ∃ turns ≤ search.workload model,
      ((turn model)^[turns] search).answer? target =
        some (model.reaches target search.opened search.pending) := by
  induction work : search.workload model using Nat.strongRecOn generalizing search with
  | _ work ih =>
    cases given : search.answer? target with
    | some answer => exact ⟨0, Nat.zero_le _, by rw [reaches_of_answer given]; exact given⟩
    | none =>
      have less := workload_turn model given
      obtain ⟨turns, bound, answered⟩ := ih _ (by omega) (search.turn model) rfl
      rw [reaches_turn given] at answered
      exact ⟨turns + 1, by omega, answered⟩

/-- The search answers whether a chain leads from a pending handle to the target. -/
theorem reaches_iff_leads (explored : search.Explored model target) :
    model.reaches target search.opened search.pending = true ↔ search.Leads model target := by
  induction work : search.workload model using Nat.strongRecOn generalizing search with
  | _ work ih =>
    cases given : search.answer? target with
    | none =>
      have less := workload_turn model given
      rw [← reaches_turn given, ← leads_turn explored given]
      exact ih _ (by omega) (explored.turn given) rfl
    | some answer =>
      rw [reaches_of_answer given]
      obtain ⟨opened, pending⟩ := search
      cases pending with
      | nil =>
        have missing : answer = false := by simpa [answer?, eq_comm] using given
        simp [missing, Leads]
      | cons id rest =>
        have found : id = target ∧ answer = true := by simpa [answer?, eq_comm] using given
        obtain ⟨rfl, rfl⟩ := found
        exact iff_of_true rfl ⟨id, List.mem_cons_self, .refl⟩

end Turn

end Search

namespace Specialization

open Relation

/-- The search of a specialization succeeds when a chain of subclasses leads from an entity that it
lists to the target, because at its start nothing has been opened. -/
theorem hasSubclass_eq_true_iff {specialization : Specialization} {model : Model} {id : EntityId} :
    specialization.hasSubclass model id = true ↔
      ∃ first ∈ specialization.derived, ReflTransGen model.IsSubclass first id := by
  have explored : Search.Explored model id ⟨[], specialization.derived⟩ :=
    ⟨List.not_mem_nil, fun _ opened => absurd opened List.not_mem_nil⟩
  exact Search.reaches_iff_leads explored

/-- The search for an entity among the subclasses of a specialization, in any model and for any
handles, succeeds exactly when a chain of subclasses leads to the entity from one that the
specialization lists.  It takes one turn for each handle that the specialization or a specialization
of the model lists, or fewer, to come to its answer. -/
theorem hasSubclass_iff_chain (specialization : Specialization) (model : Model) (id : EntityId) :
    (specialization.hasSubclass model id = true ↔
      ∃ first ∈ specialization.derived, ReflTransGen model.IsSubclass first id) ∧
    ∃ turns ≤ specialization.derived.length +
        ((model.entities.flatMap Entity.specializations).flatMap Specialization.derived).length,
      ((Search.turn model)^[turns] ⟨[], specialization.derived⟩).answer? id =
        some (specialization.hasSubclass model id) := by
  refine ⟨hasSubclass_eq_true_iff, ?_⟩
  rw [← Search.workload_start]
  exact Search.exists_answer model id ⟨[], specialization.derived⟩

end Specialization

end ErSchema
