import ErSchema.Proofs.Lines
import ErSchema.Proofs.Parts
import ErSchema.Proofs.Validation.Outcomes
import ErSchema.Proofs.Validation.ValidLinks

/-!
# The lines of a report

A report is written as one line for each rule, one for each finding and one for the counts
(`Report.layout`).  It reads like that only if none of these texts holds a line break of its own.

A finding quotes names and bounds of the model.  The names are in their normal form, which has no
line break.  A bound that is neither a number nor the absence of a bound is quoted in the text that
was declared, and in that text anything may stand.  So a finding is one line exactly when no text
that it quotes in this way holds a line break (`Finding.Sourced.lineBreaks_line`), and every line
break in such a text adds a line to the report.
-/

set_option autoImplicit false

namespace ErSchema

/-! ## What a finding quotes -/

namespace Finding

/-- The texts that a finding quotes from the model or from the rule, bounds apart. -/
def names : Finding → List String
  | .missingKey entity | .unidentified entity | .noSubclasses entity _ => [entity]
  | .missingParticipant relationship _ | .missingConstraint relationship _
  | .malformedConstraint relationship _ _ | .tooFewValidLinks relationship _ _ => [relationship]
  | .optionalParticipation entity relationship _ => [entity, relationship]
  | .unsuitableKey entity key _ => [entity, key]
  | .custom item reason detail => item :: reason :: detail.toList

/-- The bounds that a finding quotes. -/
def bounds : Finding → List Bound
  | .malformedConstraint _ _ constraint => constraint.bounds
  | .optionalParticipation _ _ minimum => minimum.toList
  | _ => []

/-- The texts that a finding quotes as they were declared: those of its bounds that are neither a
number nor the absence of a bound. -/
def declared (finding : Finding) : List String :=
  finding.bounds.filterMap Bound.declared?

/-- The wording of a problem is one line, unless it is that of a rule of a caller's own. -/
theorem lineBreaks_reason (finding : Finding) :
    lineBreaks finding.reason = match finding with
      | .custom _ reason _ => lineBreaks reason
      | _ => 0 := by
  cases finding with
  | custom item reason detail => rfl
  | malformedConstraint relationship link constraint =>
    refine (lineBreaks_append _ _).trans (Nat.add_eq_zero_iff.2 ⟨?_, ?_⟩)
    · exact lineBreaks_ofList (by decide)
    · exact lineBreaks_ofList (by decide)
  | _ => exact lineBreaks_ofList (by decide)

/-- The wording of a detail is one line, apart from what it quotes. -/
theorem lineBreaks_detail (finding : Finding) :
    lineBreaks (finding.detail.getD "-") = match finding with
      | .malformedConstraint _ _ constraint => lineBreaks constraint.text
      | .optionalParticipation _ relationship minimum =>
        lineBreaks relationship + lineBreaks ((minimum.map Bound.text).getD "-")
      | .unsuitableKey _ key _ => lineBreaks key
      | .custom _ _ detail => lineBreaks (detail.getD "-")
      | _ => 0 := by
  -- each literal is looked through once, so that `simp` only has to add up
  have link : lineBreaks "i=" = 0 := lineBreaks_ofList (by decide)
  have bounds : lineBreaks ", structCon=" = 0 := lineBreaks_ofList (by decide)
  have valid : lineBreaks "validLinks=" = 0 := lineBreaks_ofList (by decide)
  have total : lineBreaks "/" = 0 := lineBreaks_ofList (by decide)
  have relationship : lineBreaks "relationship=" = 0 := lineBreaks_ofList (by decide)
  have minimum : lineBreaks ", min=" = 0 := lineBreaks_ofList (by decide)
  have circle : lineBreaks "s=" = 0 := lineBreaks_ofList (by decide)
  have key : lineBreaks "key=" = 0 := lineBreaks_ofList (by decide)
  have kind : lineBreaks ", kind=" = 0 := lineBreaks_ofList (by decide)
  have kinds (kind : AttributeKind) : lineBreaks kind.text = 0 := by
    cases kind <;> exact lineBreaks_ofList (by decide)
  cases finding with
  | missingKey | unidentified => exact lineBreaks_ofList (by decide)
  | custom => rfl
  | _ =>
    simp only [detail, Option.getD_some, lineBreaks_append, lineBreaks_toString_nat, link, bounds,
      valid, total, relationship, minimum, circle, key, kind, kinds, Nat.zero_add, Nat.add_zero]

/-- The line breaks in a finding are those of the names and of the declared texts that it quotes. -/
theorem lineBreaks_line (finding : Finding) :
    lineBreaks finding.line =
      lineBreaksIn finding.names + lineBreaksIn finding.declared := by
  have start : lineBreaks "X -- " = 0 := lineBreaks_ofList (by decide)
  have about : lineBreaks " | Item: " = 0 := lineBreaks_ofList (by decide)
  have more : lineBreaks " | Info: " = 0 := lineBreaks_ofList (by decide)
  have absent : lineBreaks "-" = 0 := lineBreaks_ofList (by decide)
  have frame : lineBreaks finding.line = lineBreaks finding.reason + lineBreaks finding.item +
      lineBreaks (finding.detail.getD "-") := by
    simp only [line, lineBreaks_append, start, about, more]
    omega
  rw [frame, lineBreaks_reason, lineBreaks_detail]
  cases finding with
  | malformedConstraint relationship link constraint =>
    simp [item, names, declared, bounds, constraint.lineBreaks_text]
  | optionalParticipation entity relationship minimum =>
    cases minimum with
    | none => simp [item, names, declared, bounds, absent]
    | some minimum =>
      have quoted : [minimum].filterMap Bound.declared? = minimum.declared?.toList := by
        cases minimum <;> rfl
      simp [item, names, declared, bounds, minimum.lineBreaks_text, quoted, Nat.add_assoc]
  | custom item reason detail =>
    cases detail <;> simp [Finding.item, names, declared, bounds, absent] <;> omega
  | _ => simp [item, names, declared, bounds]

end Finding

/-! ## What the rules quote -/

/-- Whether a constraint of the model has the bound. -/
def Model.Declares (model : Model) (bound : Bound) : Prop :=
  ∃ relationship ∈ model.relationships, ∃ link ∈ relationship.links,
    ∃ constraint, link.constraint = some constraint ∧ bound ∈ constraint.bounds

/-- Whether a finding quotes parts of the model alone: each name is one line, and the bounds are
those of constraints. -/
structure Finding.Sourced (model : Model) (finding : Finding) : Prop where
  names : ∀ name ∈ finding.names, lineBreaks name = 0
  bounds : ∀ bound ∈ finding.bounds, model.Declares bound

/-- A finding that quotes one name and no bounds is sourced when the name is one line. -/
theorem Finding.Sourced.of_name {model : Model} {finding : Finding} {name : String}
    (names : finding.names = [name]) (bounds : finding.bounds = []) (single : lineBreaks name = 0) :
    finding.Sourced model where
  names := by rwa [names, List.forall_mem_singleton]
  bounds := by simp [bounds]

namespace Finding.Sourced

variable {model : Model} {finding : Finding} (sourced : finding.Sourced model)

include sourced

/-- A text that a finding quotes as it was declared is that of a bound of a constraint. -/
theorem declares {text : String} (mem : text ∈ finding.declared) :
    model.Declares (.other text) := by
  obtain ⟨bound, listed, kept⟩ := List.mem_filterMap.1 mem
  cases bound with
  | other own =>
    cases kept
    exact sourced.bounds _ listed
  | _ => cases kept

/-- A finding is written with as many line breaks as there are in the texts that it quotes as
declared. -/
theorem lineBreaks_line : lineBreaks finding.line = lineBreaksIn finding.declared := by
  rw [Finding.lineBreaks_line, lineBreaksIn_eq_zero_iff.2 sourced.names, Nat.zero_add]

/-- A finding is one line exactly when no newline stands in those texts. -/
theorem linesOf_line_eq_iff :
    linesOf finding.line = [finding.line] ↔ ∀ text ∈ finding.declared, '\n' ∉ text.toList := by
  rw [linesOf_eq_singleton_iff, sourced.lineBreaks_line, lineBreaksIn_eq_zero_iff]
  simp only [lineBreaks_eq_zero_iff]

end Finding.Sourced

namespace Model.Assembled

variable {model : Model} (assembled : model.Assembled) {finding : Finding}

include assembled

/-- The name of an entity of an assembled model is one line. -/
theorem lineBreaks_entity {entity : Entity} (mem : entity ∈ model.entities) :
    lineBreaks entity.name = 0 := by
  obtain ⟨text, name⟩ := (assembled.entities entity mem).exists_name
  rw [name, lineBreaks_ofEntity]

/-- The name of a relationship of an assembled model is one line. -/
theorem lineBreaks_relationship {relationship : Relationship}
    (mem : relationship ∈ model.relationships) : lineBreaks relationship.name = 0 := by
  obtain ⟨kind, name, links, attributes, rfl, -⟩ := assembled.relationships relationship mem
  exact lineBreaks_ofEntity name

/-- What is found about missing keys quotes names of entities. -/
theorem sourced_entityKey (mem : finding ∈ Rule.entityKeyFindings model) :
    finding.Sourced model := by
  obtain ⟨entity, listed, rfl⟩ := List.mem_map.1 mem
  exact .of_name rfl rfl (assembled.lineBreaks_entity (List.mem_filter.1 listed).1)

/-- What the rule about links finds names the relationship, and it quotes the constraint of the link
that it objects to. -/
theorem sourced_relationshipDegree (mem : finding ∈ Rule.relationshipDegreeFindings model) :
    finding.Sourced model := by
  obtain ⟨relationship, listed, mem⟩ := List.mem_flatMap.1 mem
  have name := assembled.lineBreaks_relationship listed
  rcases List.mem_append.1 mem with one | few
  · obtain ⟨⟨link, position⟩, numbered, found⟩ := List.mem_filterMap.1 one
    cases Rule.linkFinding?_eq_some_iff.1 found with
    | participant missing => exact .of_name rfl rfl name
    | constraint resolved missing => exact .of_name rfl rfl name
    | bounds resolved given malformed =>
      refine ⟨by simpa [Finding.names] using name, ?_⟩
      intro bound quoted
      exact ⟨relationship, listed, link, List.fst_mem_of_mem_zipIdx numbered, _, given, quoted⟩
  · split at few
    · obtain rfl := List.mem_singleton.1 few
      exact .of_name rfl rfl name
    · cases few

/-- What the rule about weak entities finds names the entity and its identifying relationship, and
it quotes the minimum of the link that it reports. -/
theorem sourced_weakEntity (mem : finding ∈ Rule.weakEntityFindings model) :
    finding.Sourced model := by
  obtain ⟨⟨id, entity⟩, listed, mem⟩ := List.mem_flatMap.1 mem
  have kept : model.entity? id = some entity := mem_entitiesWithIds.1 (List.mem_filter.1 listed).1
  have name := assembled.lineBreaks_entity (List.mem_of_getElem? kept)
  simp only [Rule.identificationFindings] at mem
  cases found : (model.identifyingRelationship? id).bind model.relationship? with
  | none =>
    rw [found] at mem
    obtain rfl := List.mem_singleton.1 mem
    exact .of_name rfl rfl name
  | some relationship =>
    rw [found] at mem
    obtain ⟨relationshipId, -, found⟩ := Option.bind_eq_some_iff.1 found
    have present : relationship ∈ model.relationships := List.mem_of_getElem? found
    have identifying := assembled.lineBreaks_relationship present
    obtain ⟨link, listed, rfl⟩ := List.mem_map.1 mem
    refine ⟨by simpa [Finding.names] using ⟨name, identifying⟩, ?_⟩
    intro bound quoted
    obtain ⟨constraint, given, minimum⟩ := Option.bind_eq_some_iff.1 (Option.mem_toList.1 quoted)
    exact ⟨relationship, present, link, (List.mem_filter.1 listed).1, constraint, given,
      List.mem_of_getElem? minimum⟩

/-- What is found about empty specializations quotes names of entities. -/
theorem sourced_specializationMembers (mem : finding ∈ Rule.specializationMembersFindings model) :
    finding.Sourced model := by
  obtain ⟨entity, listed, mem⟩ := List.mem_flatMap.1 mem
  obtain ⟨⟨specialization, position⟩, -, rfl⟩ := List.mem_map.1 mem
  exact .of_name rfl rfl (assembled.lineBreaks_entity listed)

/-- What is found about the kinds of keys quotes names of entities and of attributes. -/
theorem sourced_keyKind (mem : finding ∈ Rule.keyKindFindings model) : finding.Sourced model := by
  obtain ⟨entity, listed, found⟩ := List.mem_filterMap.1 mem
  obtain ⟨key, own, found⟩ := Option.bind_eq_some_iff.1 found
  obtain ⟨position, -, own⟩ := Option.bind_eq_some_iff.1 own
  obtain ⟨text, keyName⟩ :=
    ((assembled.entities entity listed).attributes key (List.mem_of_getElem? own)).exists_name
  have name := assembled.lineBreaks_entity listed
  have nameOfKey : lineBreaks key.name = 0 := by rw [keyName, lineBreaks_ofAttribute]
  split at found
  · cases found
    exact ⟨by simpa [Finding.names] using ⟨name, nameOfKey⟩, by simp [Finding.bounds]⟩
  · cases found

/-- The rules of a mode run to their end, their own wording is one line, and what they find quotes
parts of the model alone. -/
theorem sourced_of_mem_rules {mode : Mode} {rule : Rule} (mem : rule ∈ mode.rules) :
    (lineBreaks rule.id = 0 ∧ lineBreaks rule.description = 0) ∧
      ∃ findings, rule.run model = .ok findings ∧ ∀ finding ∈ findings, finding.Sourced model := by
  -- the basic rules are among the strict ones
  have strict : rule ∈ Mode.strict.rules := by
    cases mode with
    | basic => exact List.mem_append_left _ mem
    | strict => exact mem
  simp only [Mode.rules, Mode.basicRules, List.cons_append, List.nil_append, List.mem_cons,
    List.not_mem_nil, or_false] at strict
  have wording : lineBreaks rule.id = 0 ∧ lineBreaks rule.description = 0 := by
    rcases strict with rfl | rfl | rfl | rfl | rfl
    all_goals exact ⟨lineBreaks_ofList (by decide), lineBreaks_ofList (by decide)⟩
  refine ⟨wording, ?_⟩
  rcases strict with rfl | rfl | rfl | rfl | rfl
  · exact ⟨_, rfl, fun finding => assembled.sourced_entityKey⟩
  · exact ⟨_, rfl, fun finding => assembled.sourced_relationshipDegree⟩
  · exact ⟨_, rfl, fun finding => assembled.sourced_weakEntity⟩
  · exact ⟨_, rfl, fun finding => assembled.sourced_specializationMembers⟩
  · exact ⟨_, rfl, fun finding => assembled.sourced_keyKind⟩

end Model.Assembled

/-! ## The lines of a report -/

/-- The header of an outcome. -/
def Outcome.header (outcome : Outcome) : String :=
  (if outcome.passed then "[PASS] " else "[FAIL] ") ++ outcome.id ++ ": " ++ outcome.description

/-- An outcome as it is to be read: a header and one indented line for each finding. -/
def Outcome.layout (outcome : Outcome) : List String :=
  outcome.header :: outcome.findings.map fun finding => "    " ++ finding.line

/-- A report as it is to be read: its outcomes one after the other and a line for the counts. -/
def Report.layout (report : Report) : List String :=
  report.outcomes.flatMap Outcome.layout ++ [report.summary]

/-- The text of an outcome is its layout, with a line break behind each line. -/
theorem Outcome.text_eq (outcome : Outcome) :
    outcome.text = String.join (outcome.layout.map (· ++ "\n")) := by
  have each : outcome.layout.map (· ++ "\n") = (outcome.header ++ "\n") ::
      outcome.findings.map fun finding => "    " ++ finding.line ++ "\n" := by
    simp [layout, Function.comp_def]
  rw [each, String.join_cons]
  rfl

/-- The text of a report is that of its outcomes with the counts below them. -/
theorem Report.text_eq (report : Report) :
    report.text = writeLines (report.outcomes.flatMap Outcome.layout) report.summary := by
  have outcomes : ∀ outcomes : List Outcome, String.join (outcomes.map Outcome.text) =
      String.join ((outcomes.flatMap Outcome.layout).map (· ++ "\n")) := by
    intro outcomes
    induction outcomes with
    | nil => rfl
    | cons outcome rest ih =>
      rw [List.map_cons, String.join_cons, ih, List.flatMap_cons, List.map_append,
        String.join_append, outcome.text_eq]
  rw [text, outcomes, writeLines]

/-- A report is to be read in one line for each rule, one for each finding and one for the counts.
-/
theorem Report.length_layout (report : Report) :
    report.layout.length = report.total + report.findings.length + 1 := by
  unfold layout findings total
  rw [List.length_append, List.length_singleton]
  induction report.outcomes with
  | nil => rfl
  | cons outcome rest ih =>
    simp only [List.flatMap_cons, List.length_append, List.length_cons, Outcome.layout,
      List.length_map] at ih ⊢
    omega

/-- The counts are one line. -/
theorem Report.lineBreaks_summary (report : Report) : lineBreaks report.summary = 0 := by
  have passed : lineBreaks " passed, " = 0 := lineBreaks_ofList (by decide)
  have failed : lineBreaks " failed, " = 0 := lineBreaks_ofList (by decide)
  have total : lineBreaks " total" = 0 := lineBreaks_ofList (by decide)
  simp only [summary, lineBreaks_append, lineBreaks_toString_nat, passed, failed, total]

/-- The texts that the findings of a report quote as they were declared. -/
def Report.declared (report : Report) : List String :=
  report.findings.flatMap Finding.declared

/-- Whether the headers of a report are one line each, and its findings quote parts of the model
alone. -/
structure Report.Sourced (model : Model) (report : Report) : Prop where
  headers : ∀ outcome ∈ report.outcomes, lineBreaks outcome.header = 0
  findings : ∀ finding ∈ report.findings, finding.Sourced model

namespace Report.Sourced

variable {model : Model} {report : Report} (sourced : report.Sourced model)

include sourced

/-- The line breaks inside the lines of a report are those of the declared texts. -/
theorem lineBreaksIn_layout : lineBreaksIn report.layout = lineBreaksIn report.declared := by
  have indent : lineBreaks "    " = 0 := lineBreaks_ofList (by decide)
  -- both sides go outcome by outcome, and within an outcome finding by finding
  have each : ∀ outcome ∈ report.outcomes, lineBreaksIn outcome.layout =
      lineBreaksIn (outcome.findings.flatMap Finding.declared) := by
    intro outcome mem
    rw [Outcome.layout, lineBreaksIn_cons, sourced.headers outcome mem, Nat.zero_add,
      List.map_eq_flatMap]
    apply lineBreaksIn_flatMap_congr
    intro finding found
    have own := sourced.findings finding (List.mem_flatMap.2 ⟨outcome, mem, found⟩)
    rw [lineBreaksIn_cons, lineBreaksIn_nil, Nat.add_zero, lineBreaks_append, indent, Nat.zero_add,
      own.lineBreaks_line]
  rw [layout, lineBreaksIn_append, lineBreaksIn_flatMap_congr each, lineBreaksIn_cons,
    report.lineBreaks_summary, lineBreaksIn_nil, Nat.add_zero, declared, Report.findings,
    List.flatMap_assoc]

/-- Every line break in a declared text adds a line. -/
theorem length_linesOf_text : (linesOf report.text).length =
    report.total + report.findings.length + 1 + lineBreaksIn report.declared := by
  rw [report.text_eq, linesOf_writeLines, length_flatMap_linesOf, ← layout, report.length_layout,
    sourced.lineBreaksIn_layout]

/-- A report reads as its layout exactly when no declared text in it holds a line break. -/
theorem linesOf_text_eq_iff :
    linesOf report.text = report.layout ↔ ∀ text ∈ report.declared, '\n' ∉ text.toList := by
  rw [report.text_eq, layout, linesOf_writeLines_eq_iff, ← layout, sourced.lineBreaksIn_layout,
    lineBreaksIn_eq_zero_iff]
  simp only [lineBreaks_eq_zero_iff]

end Report.Sourced

/-- The report of a mode on parts that callers made has headers of one line each, and its findings
quote parts of the model alone. -/
theorem Model.Assembled.sourced_of_validate {model : Model} (assembled : model.Assembled)
    {mode : Mode} {report : Report} (ran : model.validate mode.rules = .ok report) :
    report.Sourced model := by
  have each : ∀ outcome ∈ report.outcomes, lineBreaks outcome.header = 0 ∧
      ∀ finding ∈ outcome.findings, finding.Sourced model := by
    intro outcome mem
    obtain ⟨rule, listed, name, question, own⟩ :=
      exists_mem_of_forall₂ (validate_eq_ok_iff.1 ran) mem
    obtain ⟨⟨noneInId, noneInDescription⟩, findings, found, sourced⟩ :=
      assembled.sourced_of_mem_rules listed
    obtain rfl : outcome.findings = findings := Except.ok.inj (own.symm.trans found)
    refine ⟨?_, sourced⟩
    have separator : lineBreaks ": " = 0 := lineBreaks_ofList (by decide)
    have verdict : lineBreaks (if outcome.passed then "[PASS] " else "[FAIL] ") = 0 := by
      split
      · exact lineBreaks_ofList (by decide)
      · exact lineBreaks_ofList (by decide)
    rw [Outcome.header, name, question, lineBreaks_append, lineBreaks_append, lineBreaks_append,
      verdict, noneInId, separator, noneInDescription]
  refine ⟨fun outcome mem => (each outcome mem).1, ?_⟩
  intro finding mem
  obtain ⟨outcome, listed, own⟩ := List.mem_flatMap.1 mem
  exact (each outcome listed).2 finding own

/-- The lines of a report of a mode on a model whose parts callers made.  There is always a report.
It reads as a header for each rule, each followed by one line for each of its findings, and a line
for the counts, exactly when no text that its findings quote as it was declared holds a line break;
every such line break adds a line.  Likewise a single finding is one line exactly when no such text
in it holds a line break.  These texts are those of bounds that constraints of the model have. -/
theorem Model.report_lines (model : Model) (mode : Mode) (assembled : model.Assembled) :
    ∃ report, model.validate mode.rules = .ok report ∧
      (linesOf report.text).length =
        report.total + report.findings.length + 1 + lineBreaksIn report.declared ∧
      (linesOf report.text = report.layout ↔ ∀ text ∈ report.declared, '\n' ∉ text.toList) ∧
      ∀ finding ∈ report.findings,
        (linesOf finding.line = [finding.line] ↔
          ∀ text ∈ finding.declared, '\n' ∉ text.toList) ∧
        ∀ text ∈ finding.declared, model.Declares (.other text) := by
  obtain ⟨report, ran⟩ : ∃ report, model.validate mode.rules = .ok report := by
    obtain ⟨basic, strict, basicRan, strictRan, -⟩ := exists_basic_strict model
    cases mode with
    | basic => exact ⟨basic, basicRan⟩
    | strict => exact ⟨strict, strictRan⟩
  have sourced := assembled.sourced_of_validate ran
  refine ⟨report, ran, sourced.length_linesOf_text, sourced.linesOf_text_eq_iff, ?_⟩
  intro finding mem
  have own := sourced.findings finding mem
  exact ⟨own.linesOf_line_eq_iff, fun text => own.declares⟩

/-- Calls that build a library in which a reader borrows as often as a text says. -/
def libraryCalls (least : String) : List Model.Operation := [
  .addEntity ((Entity.ofName .regular "reader").addAttributes [.ofName .simple "card" true]),
  .addEntity ((Entity.ofName .regular "book").addAttributes [.ofName .simple "shelf mark" true]),
  .addRelationship (.ofName .regular "borrows" [
    .ofRole (some ⟨0⟩) (some (.ofPair (.other least) .many)) "",
    .ofRole (some ⟨1⟩) (some .partialSingle) ""] [])]

/-- Callers made the parts of the library, and its report quotes the text once. -/
theorem library_quotes (least : String) :
    let library := (Model.empty "Library" "" []).run (libraryCalls least)
    library.Assembled ∧ ∃ report, library.validate Mode.basic.rules = .ok report ∧
      report.total = 3 ∧ report.findings.length = 2 ∧ report.declared = [least] := by
  -- neither the counts nor the quoted text depend on a name, so the names are never computed
  refine ⟨(Model.assembled_empty "Library" "" []).run ?_, _, rfl, rfl, rfl, rfl⟩
  simp only [libraryCalls, List.forall_mem_cons]
  refine ⟨?_, ?_, ?_, by simp⟩
  · exact (Entity.Assembled.named _ _).withAttribute (.named _ _ _)
  · exact (Entity.Assembled.named _ _).withAttribute (.named _ _ _)
  · exact ⟨_, _, _, [], rfl, by simp⟩

/-- A text of one line leaves the report with its six lines. -/
theorem report_lines_library :
    let library := (Model.empty "Library" "" []).run (libraryCalls "few")
    library.Assembled ∧ ∃ report, library.validate Mode.basic.rules = .ok report ∧
      linesOf report.text = report.layout ∧ (linesOf report.text).length = 6 := by
  intro library
  obtain ⟨assembled, report, ran, total, findings, declared⟩ := library_quotes "few"
  obtain ⟨same, ranToo, length, reads, -⟩ := library.report_lines .basic assembled
  obtain rfl : same = report := Except.ok.inj (ranToo.symm.trans ran)
  have single : ∀ text ∈ same.declared, '\n' ∉ text.toList := by
    rw [declared]
    decide
  refine ⟨assembled, same, ran, reads.2 single, ?_⟩
  rw [length, total, findings, declared]
  decide

/-- A text of two lines splits the line of the finding that quotes it, and the report has a line
that no rule wrote. -/
theorem library_splits :
    let library := (Model.empty "Library" "" []).run
      (libraryCalls "few\n[PASS] audit: Is all well")
    library.Assembled ∧ ∃ report, library.validate Mode.basic.rules = .ok report ∧
      report.total + report.findings.length + 1 = 6 ∧ (linesOf report.text).length = 7 ∧
      ∃ finding ∈ report.findings, linesOf finding.line ≠ [finding.line] := by
  intro library
  obtain ⟨assembled, report, ran, total, findings, declared⟩ :=
    library_quotes "few\n[PASS] audit: Is all well"
  have sourced : report.Sourced library := assembled.sourced_of_validate ran
  refine ⟨assembled, report, ran, by rw [total, findings], ?_, ?_⟩
  · rw [sourced.length_linesOf_text, total, findings, declared]
    decide
  · have quoted : "few\n[PASS] audit: Is all well" ∈ report.declared := by
      rw [declared]
      exact List.mem_singleton_self _
    obtain ⟨finding, listed, quoted⟩ := List.mem_flatMap.1 quoted
    refine ⟨finding, listed, ?_⟩
    intro single
    have none := (sourced.findings finding listed).linesOf_line_eq_iff.1 single _ quoted
    exact none (by decide)

end ErSchema
