import ErSchema.Proofs.Traversal
import ErSchema.Proofs.Validation.Degree
import Mathlib.Data.List.Infix
import Mathlib.Data.List.Perm.Basic

/-!
# Lists of rules

A rule is any function of a model, and it may fail to run.  Nothing that a rule finds keeps the next
one from running, so a report has one outcome for each rule (`validate_eq_ok_iff`); only a fault
ends validation, and it is that of the first rule that has one (`validate_eq_error_iff`).  Hence two
lists of rules are validated by one after the other, and another order of the rules gives the same
outcomes in that order.

The counts, the success and the findings of a report are taken from its outcomes separately.
`AddsUp` says how they agree, and `SameUpToOrder` what the order of the outcomes does not change.
-/

set_option autoImplicit false

namespace ErSchema

namespace Rule

variable {model : Model} {rule : Rule}

/-- Whether a rule fails to run on a model. -/
def Faults (model : Model) (rule : Rule) : Prop :=
  ∃ cause, rule.run model = .error cause

/-- What a report says of a rule that runs to its end: its name, its question and its findings. -/
def Reports (model : Model) (rule : Rule) (outcome : Outcome) : Prop :=
  outcome.id = rule.id ∧ outcome.description = rule.description ∧
    rule.run model = .ok outcome.findings

/-- A rule has an outcome when it runs without a fault, and the outcome holds what it found. -/
theorem outcome_eq_ok_iff {outcome : Outcome} :
    rule.outcome model = .ok outcome ↔ rule.Reports model outcome := by
  obtain ⟨id, description, findings⟩ := outcome
  unfold Rule.outcome Reports
  cases rule.run model with
  | error cause => simp
  | ok found => simp [eq_comm]

/-- A rule fails when it runs into a fault, and the fault is reported under the name of the rule. -/
theorem outcome_eq_error_iff {fault : Fault} :
    rule.outcome model = .error fault ↔
      rule.run model = .error fault.cause ∧ fault.rule = rule.id := by
  obtain ⟨name, cause⟩ := fault
  unfold Rule.outcome
  cases rule.run model with
  | error own => simp [and_comm, eq_comm]
  | ok found => simp

/-- A rule that is reported did not fail to run. -/
theorem Reports.not_faults {outcome : Outcome} (reports : rule.Reports model outcome) :
    ¬ rule.Faults model := by
  rintro ⟨cause, failed⟩
  rw [reports.2.2] at failed
  cases failed

/-- A rule has no outcome exactly when it fails to run. -/
theorem exists_outcome_eq_error_iff :
    (∃ fault, rule.outcome model = .error fault) ↔ rule.Faults model := by
  simp only [outcome_eq_error_iff]
  constructor
  · rintro ⟨fault, failed, -⟩
    exact ⟨fault.cause, failed⟩
  · rintro ⟨cause, failed⟩
    exact ⟨⟨rule.id, cause⟩, failed, rfl⟩

end Rule

/-! ## Reports -/

namespace Report

/-- How the counts, the success and the findings of a report agree. -/
structure AddsUp (report : Report) : Prop where
  passed_le_total : report.passed ≤ report.total
  passed_add_failed : report.passed + report.failed = report.total
  isSuccess_iff_findings : report.isSuccess = true ↔ report.findings = []
  findings_eq : report.findings = (report.outcomes.map Outcome.findings).flatten

/-- The counts of a report add up, whatever its outcomes are. -/
theorem addsUp (report : Report) : report.AddsUp where
  passed_le_total := List.countP_le_length
  passed_add_failed := Nat.add_sub_of_le List.countP_le_length
  isSuccess_iff_findings := by
    rw [isSuccess_iff, findings, List.flatMap_eq_nil_iff]
    simp only [Outcome.passed, List.isEmpty_iff]
  findings_eq := List.flatMap_def

/-- What two reports share whose outcomes differ in their order at most. -/
structure SameUpToOrder (report other : Report) : Prop where
  outcomes : other.outcomes.Perm report.outcomes
  findings : other.findings.Perm report.findings
  passed : other.passed = report.passed
  failed : other.failed = report.failed
  total : other.total = report.total
  isSuccess : other.isSuccess = report.isSuccess

/-- Reports with the same outcomes in another order have the same counts and findings up to order.
-/
theorem sameUpToOrder {report other : Report} (perm : other.outcomes.Perm report.outcomes) :
    report.SameUpToOrder other := by
  have passed : other.passed = report.passed := perm.countP_eq _
  have total : other.total = report.total := perm.length_eq
  have failed : other.failed = report.failed := by rw [Report.failed, Report.failed, passed, total]
  exact ⟨perm, perm.flatMap_right _, passed, failed, total, by rw [isSuccess, isSuccess, failed]⟩

end Report

/-! ## Validation -/

namespace Model

variable {model : Model} {rules : List Rule}

/-- There is a report when every rule runs to its end, and it has one outcome for each rule. -/
theorem validate_eq_ok_iff {report : Report} :
    model.validate rules = .ok report ↔
      List.Forall₂ (Rule.Reports model) rules report.outcomes := by
  have collected : model.validate rules = .ok report ↔
      rules.mapM (fun rule => rule.outcome model) = .ok report.outcomes := by
    obtain ⟨outcomes⟩ := report
    unfold validate
    cases rules.mapM (fun rule => rule.outcome model) <;>
      simp [bind, Except.bind, pure, Except.pure]
  simp only [collected, mapM_eq_ok_iff, Rule.outcome_eq_ok_iff]

/-- The fault of a validation is that of the first rule that fails to run. -/
theorem validate_eq_error_iff {fault : Fault} :
    model.validate rules = .error fault ↔
      ∃ rule, FirstWith (Rule.Faults model) rules rule ∧
        rule.run model = .error fault.cause ∧ fault.rule = rule.id := by
  have ended : model.validate rules = .error fault ↔
      rules.mapM (fun rule => rule.outcome model) = .error fault := by
    unfold validate
    cases rules.mapM (fun rule => rule.outcome model) <;>
      simp [bind, Except.bind, pure, Except.pure]
  rw [ended, mapM_eq_error_iff]
  -- the rules that fail are named first, as long as their outcomes are still in sight
  simp only [Rule.exists_outcome_eq_error_iff]
  simp only [Rule.outcome_eq_error_iff]

/-- Validation ends early exactly when some rule fails to run. -/
theorem exists_validate_eq_error_iff :
    (∃ fault, model.validate rules = .error fault) ↔ ∃ rule ∈ rules, rule.Faults model := by
  constructor
  · rintro ⟨fault, ended⟩
    obtain ⟨rule, ⟨faults, skipped, rest, rfl, -⟩, -⟩ := validate_eq_error_iff.1 ended
    exact ⟨rule, by simp, faults⟩
  · rintro ⟨rule, mem, faults⟩
    cases ran : model.validate rules with
    | error fault => exact ⟨fault, rfl⟩
    | ok report =>
      have each := (validate_eq_ok_iff.1 ran).imp fun rule outcome reports =>
        And.intro (Rule.Reports.not_faults reports) reports
      exact absurd faults (((List.forall₂_and_left _ _).1 each).1 rule mem)

/-- Two lists of rules are validated by one after the other. -/
theorem validate_append (model : Model) (first second : List Rule) :
    model.validate (first ++ second) = do
      let earlier ← model.validate first
      let later ← model.validate second
      return ⟨earlier.outcomes ++ later.outcomes⟩ := by
  unfold validate
  rw [List.mapM_append]
  cases first.mapM (fun rule => rule.outcome model) with
  | error fault => rfl
  | ok earlier => cases second.mapM (fun rule => rule.outcome model) <;> rfl

/-- Rules in another order have the same outcomes in that order. -/
theorem exists_validate_of_perm {others : List Rule} {report : Report}
    (perm : others.Perm rules) (ran : model.validate rules = .ok report) :
    ∃ other, model.validate others = .ok other ∧ report.SameUpToOrder other := by
  obtain ⟨outcomes, each, reordered⟩ := List.perm_comp_forall₂ perm (validate_eq_ok_iff.1 ran)
  exact ⟨⟨outcomes⟩, validate_eq_ok_iff.2 each, Report.sameUpToOrder reordered⟩

/-- The strict report of a model goes on where the basic one ends. -/
theorem exists_basic_strict (model : Model) :
    ∃ basic strict, model.validate Mode.basic.rules = .ok basic ∧
      model.validate Mode.strict.rules = .ok strict ∧ basic.outcomes <+: strict.outcomes :=
  ⟨_, _, rfl, rfl, List.prefix_append _ _⟩

/-- Validation with any list of rules.  It fails exactly when some rule fails to run, with the fault
of the first such rule; otherwise the report has one outcome for each rule, in the order of the
rules.  Lists of rules one after the other are validated one after the other, and another order of
the rules changes no more than the order of the outcomes.  The counts, the success and the findings
of every report agree.  What the basic mode finds stands at the front of what the strict mode finds,
and a strict success is a basic one. -/
theorem validate_rule_by_rule (model : Model) (rules : List Rule) :
    ((∃ fault, model.validate rules = .error fault) ↔ ∃ rule ∈ rules, rule.Faults model) ∧
    (∀ fault, model.validate rules = .error fault ↔
      ∃ rule, FirstWith (Rule.Faults model) rules rule ∧
        rule.run model = .error fault.cause ∧ fault.rule = rule.id) ∧
    (∀ report, model.validate rules = .ok report ↔
      List.Forall₂ (Rule.Reports model) rules report.outcomes) ∧
    (∀ more, model.validate (rules ++ more) = do
      let earlier ← model.validate rules
      let later ← model.validate more
      return ⟨earlier.outcomes ++ later.outcomes⟩) ∧
    (∀ others report, others.Perm rules → model.validate rules = .ok report →
      ∃ other, model.validate others = .ok other ∧ report.SameUpToOrder other) ∧
    (∀ report : Report, report.AddsUp) ∧
    ∃ basic strict, model.validate Mode.basic.rules = .ok basic ∧
      model.validate Mode.strict.rules = .ok strict ∧ basic.findings <+: strict.findings ∧
      (strict.isSuccess = true → basic.isSuccess = true) := by
  refine ⟨exists_validate_eq_error_iff, fun fault => validate_eq_error_iff,
    fun report => validate_eq_ok_iff, validate_append model rules,
    fun others report => exists_validate_of_perm, Report.addsUp, ?_⟩
  obtain ⟨basic, strict, basicRan, strictRan, front⟩ := exists_basic_strict model
  have findings : basic.findings <+: strict.findings :=
    List.IsPrefix.flatMap front Outcome.findings
  refine ⟨basic, strict, basicRan, strictRan, findings, ?_⟩
  intro success
  have nothing := strict.addsUp.isSuccess_iff_findings.1 success
  rw [nothing, List.prefix_nil] at findings
  exact basic.addsUp.isSuccess_iff_findings.2 findings

/-- Of two rules that fail to run, the first one ends validation. -/
example : (empty "M" "" []).validate [.entityKey, ⟨"broken", "", fun _ => .error "index"⟩,
    ⟨"later", "", fun _ => .error "other"⟩] = .error ⟨"broken", "index"⟩ := rfl

end Model

end ErSchema
