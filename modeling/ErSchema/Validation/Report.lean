import ErSchema.Validation.Rule

/-!
# Validation reports

Validation runs a list of rules in order, whatever earlier rules found, and reports one outcome for
each of them.  Only a rule that fails to run ends validation early, and then there is no report.
-/

set_option autoImplicit false

namespace ErSchema

/-- What one rule found. -/
structure Outcome where
  id : String
  description : String
  findings : List Finding
  deriving DecidableEq, Repr

/-- Whether a rule found nothing. -/
def Outcome.passed (outcome : Outcome) : Bool :=
  outcome.findings.isEmpty

/-- An outcome as text: a header and one indented line for each finding. -/
def Outcome.text (outcome : Outcome) : String :=
  (if outcome.passed then "[PASS] " else "[FAIL] ") ++ outcome.id ++ ": " ++ outcome.description ++
    "\n" ++ String.join (outcome.findings.map fun finding => "    " ++ finding.line ++ "\n")

/-- The outcomes of a validation, in the order in which the rules ran. -/
structure Report where
  outcomes : List Outcome
  deriving DecidableEq, Repr

namespace Report

/-- The number of rules that found nothing. -/
def passed (report : Report) : Nat :=
  report.outcomes.countP Outcome.passed

/-- The number of rules. -/
def total (report : Report) : Nat :=
  report.outcomes.length

/-- The number of rules that found a problem. -/
def failed (report : Report) : Nat :=
  report.total - report.passed

/-- Whether no rule found a problem. -/
def isSuccess (report : Report) : Bool :=
  report.failed == 0

/-- All findings, in the order of the rules. -/
def findings (report : Report) : List Finding :=
  report.outcomes.flatMap Outcome.findings

/-- The counts as one line. -/
def summary (report : Report) : String :=
  toString report.passed ++ " passed, " ++ toString report.failed ++ " failed, " ++
    toString report.total ++ " total"

/-- A report as text: its outcomes, closed by the counts. -/
def text (report : Report) : String :=
  String.join (report.outcomes.map Outcome.text) ++ report.summary

end Report

/-- The failure of a rule to run. -/
structure Fault where
  rule : String
  cause : String
  deriving DecidableEq, Repr

/-- The wording of a fault. -/
def Fault.message (fault : Fault) : String :=
  "Rule '" ++ fault.rule ++ "' failed to run: " ++ fault.cause

/-- The outcome of one rule on a model. -/
def Rule.outcome (rule : Rule) (model : Model) : Except Fault Outcome :=
  match rule.run model with
  | .ok findings => .ok ⟨rule.id, rule.description, findings⟩
  | .error cause => .error ⟨rule.id, cause⟩

/-- The report of a list of rules on a model, or the fault of the first rule that fails to run. -/
def Model.validate (model : Model) (rules : List Rule) : Except Fault Report := do
  return ⟨← rules.mapM (·.outcome model)⟩

end ErSchema
