import ErSchema.Proofs.CommandLine.Batch

/-!
# Where diagrams are found

After a batch, a location for DOT files holds the last diagram that was drawn for it.  Next to the
schemas every location belongs to one schema, so each schema that was processed finds its own
diagram there.  In a directory for outputs the locations belong to names instead, and of several
schemas with one name only the last that loads keeps its diagram, although none of them counts as a
failure.
-/

set_option autoImplicit false

namespace ErSchema.CommandLine

open FileTree

/-- The path of the DOT file that is written for an input. -/
def dotPath (outDir : Option String) (input : String) : String :=
  outputPath (schemaPath input) outDir OutputFormat.dot.extension

/-! ## One schema -/

section Step

variable {program : LayoutProgram} {config : Config} {outDir : Option String} {input : String}
  {tree final : FileTree} {result : Except ProcessingError Unit} {location : Location}

/-- Formats have different extensions. -/
theorem extension_injective : Function.Injective OutputFormat.extension := by
  intro first second same
  cases first <;> cases second <;> first | rfl | exact absurd same (by decide)

/-- An image does not go where DOT files are. -/
theorem not_targets_image (rooted : tree.Rooted) (loads : tree.Loads (schemaPath input))
    (dotFile : HasExtension location OutputFormat.dot.extension) (image : config.format ≠ .dot) :
    ¬ tree.Targets (outputPath (schemaPath input) outDir config.format.extension) location := by
  intro targets
  have isExtension := Path.isExtension_format config.format
  have hasExtension := hasExtension_of_output rooted isExtension loads targets
  exact image (extension_injective
    (hasExtension.unique isExtension (Path.isExtension_format .dot) dotFile))

/-- What becomes of a location for DOT files when a schema is processed: the diagram of the schema
if it goes there, and else what it was. -/
theorem Processing.node?_eq (rooted : tree.Rooted)
    (dotFile : HasExtension location OutputFormat.dot.extension)
    (processing : Processing program config outDir (schemaPath input) tree result final)
    {selected : Bool}
    (goesThere : tree.Loads (schemaPath input) →
      (selected = true ↔ tree.Targets (dotPath outDir input) location)) :
    final.node? location =
      ((if selected then tree.diagram? config.style (schemaPath input) else none).map
        fun dot => Node.file dot.toUTF8).or (tree.node? location) := by
  cases processing with
  | undrawn undrawn => simp [undrawn]
  | drawn drawn drawing =>
    have loads := exists_diagram_iff_loads.1 ⟨_, drawn⟩
    have noImage : config.format ≠ .dot → ¬ tree.Targets
        (outputPath (schemaPath input) outDir config.format.extension) location :=
      not_targets_image rooted loads dotFile
    have goesThere := goesThere loads
    cases selected with
    | true =>
      rw [if_pos rfl, drawn]
      exact drawing.node?_eq (goesThere.1 rfl) noImage
    | false =>
      apply drawing.writes.differsWithin.unchanged
      rintro ⟨output, rfl | ⟨format, rfl⟩, targets⟩
      · exact Bool.false_ne_true (goesThere.2 targets)
      · exact noImage format targets

end Step

/-! ## Several schemas -/

/-- The diagram of the last of the selected inputs whose schemas load. -/
def lastDiagram (tree : FileTree) (style : Style) (selects : String → Bool)
    (inputs : List String) : Option String :=
  (inputs.filterMap fun input =>
    if selects input then tree.diagram? style (schemaPath input) else none).getLast?

section Last

variable {tree : FileTree} {style : Style} {selects : String → Bool} {input : String}
  {inputs : List String} {dot : String}

/-- The first input has the last diagram only if no later one has a diagram. -/
theorem lastDiagram_cons :
    lastDiagram tree style selects (input :: inputs) =
      (lastDiagram tree style selects inputs).or
        (if selects input then tree.diagram? style (schemaPath input) else none) := by
  unfold lastDiagram
  rw [List.filterMap_cons]
  split
  · next undrawn => rw [undrawn, Option.or_none]
  · next drawn => rw [drawn, List.getLast?_cons, Option.or_some]

/-- There is a last diagram when some selected input has one. -/
theorem exists_lastDiagram (mem : input ∈ inputs) (selected : selects input = true)
    (drawn : tree.diagram? style (schemaPath input) = some dot) :
    ∃ last, lastDiagram tree style selects inputs = some last := by
  have found : dot ∈ inputs.filterMap fun input =>
      if selects input then tree.diagram? style (schemaPath input) else none :=
    List.mem_filterMap.2 ⟨input, mem, by rw [if_pos selected, drawn]⟩
  exact ⟨_, List.getLast?_eq_some_getLast (List.ne_nil_of_mem found)⟩

/-- The last diagram is that of a selected input. -/
theorem exists_mem_of_lastDiagram (last : lastDiagram tree style selects inputs = some dot) :
    ∃ input ∈ inputs, selects input = true ∧
      tree.diagram? style (schemaPath input) = some dot := by
  obtain ⟨input, mem, found⟩ := List.mem_filterMap.1 (List.mem_of_getLast? last)
  split at found
  · next selected => exact ⟨input, mem, selected, found⟩
  · cases found

/-- The last diagram stays the same while schemas are spared. -/
theorem SparesSchemas.lastDiagram_eq {after : FileTree} (spares : SparesSchemas tree after)
    (rooted : tree.Rooted) :
    lastDiagram after style selects inputs = lastDiagram tree style selects inputs := by
  simp only [lastDiagram, spares.diagram?_eq rooted]

end Last

section Batch

variable {program : LayoutProgram} {config : Config} {outDir : Option String}
  {inputs : List String} {tree final : FileTree} {failures : List Failure} {location : Location}

/-- A location for DOT files holds the last diagram that goes there. -/
theorem Batch.node?_eq (rooted : tree.Rooted)
    (dotFile : HasExtension location OutputFormat.dot.extension)
    (batch : Batch program config outDir inputs tree failures final) {selects : String → Bool}
    (goesThere : ∀ input ∈ inputs, tree.Loads (schemaPath input) →
      (selects input = true ↔ tree.Targets (dotPath outDir input) location)) :
    final.node? location =
      ((lastDiagram tree config.style selects inputs).map fun dot => Node.file dot.toUTF8).or
        (tree.node? location) := by
  induction batch with
  | nil tree => rfl
  | cons processing _ ih =>
    -- The later inputs go last, so their diagrams come before what the first has left.
    have spares := processing.sparesSchemas rooted
    have head := processing.node?_eq rooted dotFile (goesThere _ List.mem_cons_self)
    have tail := ih (spares.rooted rooted) fun input mem => by
      rw [spares.loads_iff rooted, DiffersWithin.targets_iff spares]
      exact goesThere input (List.mem_cons_of_mem _ mem)
    rw [tail, head, spares.lastDiagram_eq rooted, lastDiagram_cons, Option.map_or,
      Option.or_assoc]

/-- A DOT file holds the last diagram that goes to its location. -/
theorem Batch.readText_dotPath (rooted : tree.Rooted)
    (batch : Batch program config outDir inputs tree failures final) {selects : String → Bool}
    {input last : String} (targets : tree.Targets (dotPath outDir input) location)
    (dotFile : HasExtension location OutputFormat.dot.extension)
    (goesThere : ∀ other ∈ inputs, tree.Loads (schemaPath other) →
      (selects other = true ↔ tree.Targets (dotPath outDir other) location))
    (drawn : lastDiagram tree config.style selects inputs = some last) :
    final.readText (dotPath outDir input) = .ok last := by
  have holds := batch.node?_eq rooted dotFile goesThere
  rw [drawn, Option.map_some, Option.some_or] at holds
  have spares := batch.sparesSchemas rooted
  exact readText_of_node? ((DiffersWithin.locate_iff spares).2 targets.1) holds

/-- An input that is not among the failures can be processed. -/
theorem Batch.processable (rooted : tree.Rooted)
    (batch : Batch program config outDir inputs tree failures final) {input : String}
    (mem : input ∈ inputs) (succeeds : schemaPath input ∉ failures.map Failure.path) :
    Processable program config outDir (schemaPath input) tree := by
  classical
  rw [batch.paths_eq rooted, List.mem_filter, decide_eq_true_eq, not_and, not_not] at succeeds
  exact succeeds (List.mem_map_of_mem mem)

end Batch

/-! ## Where DOT files meet -/

section Meet

variable {tree : FileTree} {input other : String} {location : Location}

/-- Whether two inputs stand for schemas whose files have the same name. -/
def namesake (input other : String) : Bool :=
  Path.fileName? (schemaPath other) == Path.fileName? (schemaPath input)

/-- In a directory for outputs, the DOT files of two schemas meet when the schemas are namesakes. -/
theorem namesake_iff_targets (rooted : tree.Rooted) {directory : String}
    (loads : tree.Loads (schemaPath input)) (otherLoads : tree.Loads (schemaPath other))
    (targets : tree.Targets (dotPath (some directory) input) location) :
    namesake input other = true ↔ tree.Targets (dotPath (some directory) other) location := by
  obtain ⟨front, stem, filled, plain, endsIn⟩ := exists_stem_of_loads rooted loads
  obtain ⟨front', stem', filled', plain', endsIn'⟩ := exists_stem_of_loads rooted otherLoads
  have isExtension := Path.isExtension_format .dot
  have name := endsIn.fileName?_eq (Path.name_ne_dot filled)
  have name' := endsIn'.fileName?_eq (Path.name_ne_dot filled')
  rw [if_neg (Path.name_ne_dots filled Path.isExtension_schema)] at name
  rw [if_neg (Path.name_ne_dots filled' Path.isExtension_schema)] at name'
  rw [namesake, beq_iff_eq]
  constructor
  · intro same
    have path : dotPath (some directory) other = dotPath (some directory) input := by
      simp only [dotPath, outputPath, same, name, Option.getD_some]
    rw [path]
    exact targets
  · intro meets
    obtain ⟨home, -, rfl⟩ :=
      exists_directory_of_output rooted isExtension filled plain endsIn targets
    obtain ⟨home', -, same⟩ :=
      exists_directory_of_output rooted isExtension filled' plain' endsIn' meets
    have names := List.singleton_inj.1 (List.append_inj' same rfl).2
    rw [name, name', (ofList_extension_inj isExtension isExtension names).1]

/-- Next to the schemas, DOT files meet only when they are drawn from one file. -/
theorem diagram?_eq_of_meet (rooted : tree.Rooted) (loads : tree.Loads (schemaPath input))
    (otherLoads : tree.Loads (schemaPath other))
    (targets : tree.Targets (dotPath none input) location)
    (meets : tree.Targets (dotPath none other) location) (style : Style) :
    tree.diagram? style (schemaPath other) = tree.diagram? style (schemaPath input) := by
  obtain ⟨front, stem, filled, plain, endsIn⟩ := exists_stem_of_loads rooted loads
  obtain ⟨front', stem', filled', plain', endsIn'⟩ := exists_stem_of_loads rooted otherLoads
  obtain ⟨schema, reads⟩ := loads.exists_targets
  obtain ⟨schema', reads'⟩ := otherLoads.exists_targets
  have isExtension := Path.isExtension_format .dot
  obtain ⟨home, rfl, rfl⟩ :=
    exists_directory_of_output_beside rooted isExtension filled plain endsIn reads targets
  obtain ⟨home', rfl, same⟩ :=
    exists_directory_of_output_beside rooted isExtension filled' plain' endsIn' reads' meets
  -- Both schemas stand in the directory of the DOT file and have its stem.
  obtain ⟨homes, names⟩ := List.append_inj' same rfl
  obtain ⟨rfl, -⟩ := ofList_extension_inj isExtension isExtension (List.singleton_inj.1 names)
  subst homes
  simp only [diagram?, readText, reads.1, reads'.1]

end Meet

/-! ## Runs -/

section Found

variable {program : LayoutProgram} {config : Config} {inputs : List String} {input own : String}
  {tree final : FileTree} {failures : List Failure} {location : Location}

/-- Next to the schemas a DOT file holds the diagram of its own schema. -/
theorem Batch.readText_beside (rooted : tree.Rooted)
    (batch : Batch program config none inputs tree failures final) (mem : input ∈ inputs)
    (drawn : tree.diagram? config.style (schemaPath input) = some own)
    (targets : tree.Targets (dotPath none input) location) :
    final.readText (dotPath none input) = .ok own := by
  -- Whether two paths meet is not a matter of their names here, so it is asked of the tree.
  classical
  have loads := exists_diagram_iff_loads.1 ⟨own, drawn⟩
  have dotFile := hasExtension_of_output rooted (Path.isExtension_format .dot) loads targets
  have found : ∃ last, lastDiagram tree config.style
      (fun other => decide (tree.Targets (dotPath none other) location)) inputs = some last :=
    exists_lastDiagram mem (decide_eq_true targets) drawn
  obtain ⟨last, isLast⟩ := found
  obtain ⟨other, -, meets, drawn'⟩ := exists_mem_of_lastDiagram isLast
  have same := diagram?_eq_of_meet rooted loads (exists_diagram_iff_loads.1 ⟨last, drawn'⟩)
    targets (of_decide_eq_true meets) config.style
  rw [drawn, drawn'] at same
  rw [← Option.some.inj same]
  exact batch.readText_dotPath rooted targets dotFile (fun _ _ _ => decide_eq_true_iff) isLast

/-- In a directory for outputs a DOT file holds the diagram of the last namesake. -/
theorem Batch.readText_gathered (rooted : tree.Rooted) {directory : String}
    (batch : Batch program config (some directory) inputs tree failures final)
    (mem : input ∈ inputs) (drawn : tree.diagram? config.style (schemaPath input) = some own)
    (targets : tree.Targets (dotPath (some directory) input) location) :
    ∃ last, lastDiagram tree config.style (namesake input) inputs = some last ∧
      final.readText (dotPath (some directory) input) = .ok last := by
  have loads := exists_diagram_iff_loads.1 ⟨own, drawn⟩
  have dotFile := hasExtension_of_output rooted (Path.isExtension_format .dot) loads targets
  have selected : namesake input input = true := beq_self_eq_true _
  obtain ⟨last, isLast⟩ := exists_lastDiagram mem selected drawn
  refine ⟨last, isLast, batch.readText_dotPath rooted targets dotFile ?_ isLast⟩
  exact fun other _ otherLoads => namesake_iff_targets rooted loads otherLoads targets

end Found

section Run

variable {tree : FileTree} {surroundings : Surroundings} {arguments : Arguments} {config : Config}
  (program : LayoutProgram)

/-- Where the diagram of an input is found after a run in which it does not fail.  Next to the
schemas its DOT file holds its own diagram.  In a directory for outputs it holds the diagram of the
last input whose schema has the same file name and loads. -/
theorem run_draws (rooted : tree.Rooted)
    (loaded : foundConfig tree surroundings arguments = .ok config) :
    ∃ failures, (outcomeIn tree surroundings program arguments).result = .ok failures ∧
      ∀ input ∈ arguments.inputs, schemaPath input ∉ failures.map Failure.path →
        ∃ own last, tree.diagram? config.style (schemaPath input) = some own ∧
          (treeAfter tree surroundings program arguments).readText
            (dotPath arguments.outDir input) = .ok last ∧
          (arguments.outDir = none → last = own) ∧
          (arguments.outDir ≠ none →
            lastDiagram tree config.style (namesake input) arguments.inputs = some last) := by
  obtain ⟨failures, ended, batch⟩ := batch_run program loaded
  refine ⟨failures, ended, fun input mem succeeds => ?_⟩
  obtain ⟨own, drawn, ⟨location, targets⟩, -⟩ := batch.processable rooted mem succeeds
  cases directory : arguments.outDir with
  | none =>
    rw [directory] at batch targets
    have read := batch.readText_beside rooted mem drawn targets
    exact ⟨own, own, drawn, read, fun _ => rfl, fun given => absurd rfl given⟩
  | some directory =>
    rw [directory] at batch targets
    obtain ⟨last, isLast, read⟩ := batch.readText_gathered rooted mem drawn targets
    exact ⟨own, last, drawn, read, fun none => absurd none (by simp), fun _ => isLast⟩

/-- A command line that draws two schemas of one name into one directory. -/
def gatheringBoth : Arguments :=
  gathering.withInputs ["a/x", "b/x"]

/-- Neither of the two schemas fails. -/
theorem result_gatheringBoth :
    (outcomeIn twoHomes bareSurroundings .unavailable gatheringBoth).result = .ok [] := by
  decide +kernel

/-- Behind the first schema the diagram of the last namesake is found. -/
theorem twoHomes_draws :
    twoHomes.Rooted ∧ foundConfig twoHomes bareSurroundings gatheringBoth = .ok {} ∧
    ∃ last,
      (treeAfter twoHomes bareSurroundings .unavailable gatheringBoth).readText
        (dotPath (some "out") "a/x") = .ok last ∧
      lastDiagram twoHomes {} (namesake "a/x") ["a/x", "b/x"] = some last := by
  have loaded : foundConfig twoHomes bareSurroundings gatheringBoth = .ok {} := foundConfig_twoHomes
  obtain ⟨failures, ended, draws⟩ := run_draws .unavailable twoHomes_rooted loaded
  obtain rfl : failures = [] := Except.ok.inj (ended.symm.trans result_gatheringBoth)
  obtain ⟨own, last, -, read, -, isLast⟩ := draws "a/x" List.mem_cons_self (by simp)
  exact ⟨twoHomes_rooted, loaded, last, read, isLast (by decide)⟩

/-- The diagram of a schema that does not fail can be lost to a namesake. -/
theorem twoHomes_loses :
    (outcomeIn twoHomes bareSurroundings .unavailable gatheringBoth).result = .ok [] ∧
    ¬ ∀ input ∈ ["a/x", "b/x"], ∃ own,
      twoHomes.diagram? {} (schemaPath input) = some own ∧
        (treeAfter twoHomes bareSurroundings .unavailable gatheringBoth).readText
          (dotPath (some "out") input) = .ok own := by
  refine ⟨result_gatheringBoth, fun all => ?_⟩
  obtain ⟨own, drawn, read⟩ := all "a/x" List.mem_cons_self
  have differs : ((treeAfter twoHomes bareSurroundings .unavailable gatheringBoth).readText
      (dotPath (some "out") "a/x")).toOption ≠ twoHomes.diagram? {} (schemaPath "a/x") := by
    decide +kernel
  rw [read, drawn] at differs
  exact differs rfl

end Run

end ErSchema.CommandLine
