import ErSchema.Proofs.CommandLine.Outputs

/-!
# Processing several inputs

A batch processes each input in the tree that the inputs before it have left, whether they failed or
not.  No step changes a schema, and no step makes or removes a directory, so every step finds what
it would find if it came first.  Whether an input fails is therefore decided by the tree in which
the batch starts, although its error is not: a path through a name that an earlier output has taken
fails with another error than before.
-/

set_option autoImplicit false

namespace ErSchema.CommandLine

open FileTree

/-! ## What a batch can do -/

/-- What is recorded when the schema at a path has been processed. -/
def failuresOf (path : String) : Except ProcessingError Unit → List Failure
  | .ok () => []
  | .error error => [⟨path, error⟩]

section Batch

variable (program : LayoutProgram) (config : Config) (outDir : Option String)

/-- What processing inputs one after the other can do: the failures, and the tree at the end. -/
inductive Batch : List String → FileTree → List Failure → FileTree → Prop where
  | nil (tree : FileTree) : Batch [] tree [] tree
  | cons {input : String} {rest : List String} {tree middle final : FileTree}
      {result : Except ProcessingError Unit} {failures : List Failure} :
      Processing program config outDir (schemaPath input) tree result middle →
      Batch rest middle failures final →
      Batch (input :: rest) tree (failuresOf (schemaPath input) result ++ failures) final

/-- The outputs for those inputs whose schemas load. -/
def IsBatchOutput (inputs : List String) (tree : FileTree) (output : String) : Prop :=
  ∃ input ∈ inputs, tree.Loads (schemaPath input) ∧
    IsOutput config outDir (schemaPath input) output

variable (arguments : Arguments)

/-- What a run does with one input is the processing of its schema, and what it records is the
failure. -/
theorem processing_processInput (tree : FileTree) (input : String) :
    ∃ result,
      Processing program config arguments.outDir (schemaPath input) tree result
        (tree.perform (processInput access program config arguments input)).2 ∧
      (tree.perform (processInput access program config arguments input)).1.1 =
        failuresOf (schemaPath input) result := by
  have processing := processing_processFile program config arguments.outDir (schemaPath input)
    arguments.mode tree
  unfold processInput
  rw [← schemaPath, perform_bind]
  -- What was performed is hidden, or the unifier would run it.
  generalize tree.perform (processFile access program config arguments.mode arguments.outDir
    (schemaPath input)) = performed at processing ⊢
  obtain ⟨⟨result, transcript⟩, next⟩ := performed
  cases result <;> exact ⟨_, processing, rfl⟩

/-- The inputs are processed from first to last, each in the tree that those before it have left. -/
theorem perform_processInputs_cons (tree : FileTree) (input : String) (rest : List String) :
    tree.perform (processInputs access program config arguments (input :: rest)) =
      let first := tree.perform (processInput access program config arguments input)
      let later := first.2.perform (processInputs access program config arguments rest)
      ((first.1.1 ++ later.1.1, first.1.2.append later.1.2), later.2) := by
  rw [processInputs, perform_bind]
  generalize tree.perform (processInput access program config arguments input) = first
  rw [perform_bind, perform_pure]

/-- What a run does with its inputs is a batch. -/
theorem batch_processInputs (tree : FileTree) (inputs : List String) :
    Batch program config arguments.outDir inputs tree
      (tree.perform (processInputs access program config arguments inputs)).1.1
      (tree.perform (processInputs access program config arguments inputs)).2 := by
  induction inputs generalizing tree with
  | nil => exact .nil tree
  | cons input rest ih =>
    obtain ⟨result, processing, recorded⟩ :=
      processing_processInput program config arguments tree input
    simp only [perform_processInputs_cons, recorded]
    exact .cons processing (ih _)

end Batch

/-! ## What a batch keeps -/

namespace Batch

variable {program : LayoutProgram} {config : Config} {outDir : Option String}
  {inputs : List String} {tree final : FileTree} {failures : List Failure}

/-- A batch spares schemas, because each of its steps does. -/
theorem sparesSchemas (rooted : tree.Rooted)
    (batch : Batch program config outDir inputs tree failures final) :
    SparesSchemas tree final := by
  induction batch with
  | nil tree => exact .refl tree
  | cons processing _ ih =>
    have first := processing.sparesSchemas rooted
    exact first.trans (ih (first.rooted rooted))

open scoped Classical in
/-- A step records the path of the schema unless the schema can be processed. -/
theorem paths_failuresOf {path : String} {result : Except ProcessingError Unit}
    (processing : Processing program config outDir path tree result final) :
    (failuresOf path result).map Failure.path =
      [path].filter fun path => ¬ Processable program config outDir path tree := by
  have succeeds := processing.eq_ok_iff
  cases result with
  | ok => simp [failuresOf, succeeds.1 rfl]
  | error error =>
    have fails : ¬ Processable program config outDir path tree := mt succeeds.2 (by simp)
    simp [failuresOf, fails]

open scoped Classical in
/-- The failures are those of the schemas that cannot be processed when the batch starts. -/
theorem paths_eq (rooted : tree.Rooted)
    (batch : Batch program config outDir inputs tree failures final) :
    failures.map Failure.path = (inputs.map schemaPath).filter fun path =>
      ¬ Processable program config outDir path tree := by
  induction batch with
  | nil tree => rfl
  | @cons input rest tree middle _ _ _ processing _ ih =>
    -- The rest is a batch in the next tree, in which the same schemas can be processed.
    have spares := processing.sparesSchemas rooted
    have later : (rest.map schemaPath).filter
          (fun path => ¬ Processable program config outDir path middle) =
        (rest.map schemaPath).filter
          fun path => ¬ Processable program config outDir path tree := by
      apply List.filter_congr
      intro path mem
      obtain ⟨other, -, rfl⟩ := List.mem_map.1 mem
      rw [spares.processable_iff rooted]
    rw [List.map_append, paths_failuresOf processing, ih (spares.rooted rooted), later,
      ← List.filter_append]
    rfl

/-- A batch writes outputs alone, and only for schemas that load when it starts. -/
theorem writes (rooted : tree.Rooted)
    (batch : Batch program config outDir inputs tree failures final) :
    tree.Writes (IsBatchOutput config outDir inputs tree) final := by
  induction batch with
  | nil tree => exact Relation.ReflTransGen.refl
  | @cons input rest tree middle final _ _ processing _ ih =>
    have spares := processing.sparesSchemas rooted
    have first : tree.Writes (IsBatchOutput config outDir (input :: rest) tree) middle := by
      apply processing.writes.mono
      rintro output ⟨loads, isOutput⟩
      exact ⟨input, List.mem_cons_self, loads, isOutput⟩
    have later : middle.Writes (IsBatchOutput config outDir (input :: rest) tree) final := by
      apply (ih (spares.rooted rooted)).mono
      rintro output ⟨other, mem, loads, isOutput⟩
      exact ⟨other, List.mem_cons_of_mem _ mem, (spares.loads_iff rooted).1 loads, isOutput⟩
    exact first.trans later

end Batch

/-! ## Runs -/

/-- A command line with other inputs. -/
def Arguments.withInputs (arguments : Arguments) (inputs : List String) : Arguments :=
  { arguments with inputs }

section Spelling

variable {m : Type → Type} [Monad m] (files : FileAccess m) (program : LayoutProgram)
  (config : Config) (arguments : Arguments) {inputs inputs' : List String}

/-- A batch depends on the paths of its schemas, however its inputs spell them. -/
theorem processInputs_congr (others : List String)
    (same : inputs.map schemaPath = inputs'.map schemaPath) :
    processInputs files program config (arguments.withInputs others) inputs =
      processInputs files program config arguments inputs' := by
  induction inputs generalizing inputs' with
  | nil =>
    obtain rfl : inputs' = [] := List.map_eq_nil_iff.1 same.symm
    rfl
  | cons input rest ih =>
    obtain ⟨input', rest', rfl, first, later⟩ := List.map_eq_cons_iff.1 same.symm
    have step : processInput files program config (arguments.withInputs others) input =
        processInput files program config arguments input' := by
      unfold processInput
      rw [← schemaPath, ← schemaPath, first]
      rfl
    rw [processInputs, processInputs, step, ih later.symm]

/-- So does a run. -/
theorem run_congr (surroundings : Surroundings)
    (same : inputs.map schemaPath = inputs'.map schemaPath) :
    run files surroundings (arguments.withInputs inputs) program =
      run files surroundings (arguments.withInputs inputs') program := by
  have batch (config : Config) :=
    processInputs_congr files program config (arguments.withInputs inputs') inputs same
  refine bind_congr fun found => ?_
  cases found with
  | error error => rfl
  | ok config => exact congrArg (· >>= _) (batch _)

end Spelling

section Run

variable (tree : FileTree) (surroundings : Surroundings) (program : LayoutProgram)
  (arguments : Arguments)

/-- The configuration that a run finds in a tree. -/
def foundConfig : Except ConfigError Config :=
  (tree.perform (loadConfig access surroundings arguments.config)).1

/-- What a run in a tree leaves behind besides files. -/
def outcomeIn : Outcome :=
  (tree.perform (run access surroundings arguments program)).1

/-- The tree after a run. -/
def treeAfter : FileTree :=
  (tree.perform (run access surroundings arguments program)).2

/-- Looking for a configuration file changes nothing. -/
theorem perform_locate (candidates : List Candidate) :
    (tree.perform (locate access candidates)).2 = tree := by
  induction candidates with
  | nil => rfl
  | cons candidate rest ih =>
    rw [locate, perform_bind, perform_isFile]
    split
    · rfl
    · split
      · rfl
      · exact ih

/-- Looking for the configuration changes nothing. -/
theorem perform_loadConfig (flag : Option String) :
    (tree.perform (loadConfig access surroundings flag)).2 = tree := by
  have located := perform_locate tree (candidates surroundings flag)
  rw [loadConfig, perform_bind, located]
  split
  · rfl
  · rfl
  · rw [readConfig, perform_bind, perform_readText]
    split <;> rfl

variable {tree surroundings arguments}

/-- Without a configuration a run ends at once. -/
theorem perform_run_of_error {error : ConfigError}
    (failed : foundConfig tree surroundings arguments = .error error) :
    tree.perform (run access surroundings arguments program) = (⟨.error error, {}⟩, tree) := by
  rw [foundConfig] at failed
  rw [run, perform_bind, perform_loadConfig, failed]
  rfl

/-- With a configuration a run processes its inputs, with the settings of the command line put in.
-/
theorem perform_run_of_ok {config : Config}
    (loaded : foundConfig tree surroundings arguments = .ok config) :
    tree.perform (run access surroundings arguments program) =
      let batch := tree.perform
        (processInputs access program (arguments.amend config) arguments arguments.inputs)
      (⟨.ok batch.1.1, batch.1.2⟩, batch.2) := by
  rw [foundConfig] at loaded
  rw [run, perform_bind, perform_loadConfig, loaded]
  rfl

/-- A run with a configuration that loads is a batch. -/
theorem batch_run {config : Config}
    (loaded : foundConfig tree surroundings arguments = .ok config) :
    ∃ failures, (outcomeIn tree surroundings program arguments).result = .ok failures ∧
      Batch program (arguments.amend config) arguments.outDir arguments.inputs tree failures
        (treeAfter tree surroundings program arguments) := by
  rw [outcomeIn, treeAfter, perform_run_of_ok program loaded]
  exact ⟨_, rfl, batch_processInputs program _ arguments tree arguments.inputs⟩

end Run

/-! ## Independence -/

/-- The paths of the schemas on which a run fails. -/
def Outcome.failedPaths (outcome : Outcome) : List String :=
  match outcome.result with
  | .error _ => []
  | .ok failures => failures.map Failure.path

section Independence

variable {tree : FileTree} {surroundings : Surroundings} {arguments : Arguments} {config : Config}
  (program : LayoutProgram)

/-- What becomes of an input that stands alone. -/
theorem batch_alone
    (loaded : foundConfig tree surroundings arguments = .ok config) (input : String) :
    ∃ result final,
      (outcomeIn tree surroundings program (arguments.withInputs [input])).result =
        .ok (failuresOf (schemaPath input) result) ∧
      Processing program (arguments.amend config) arguments.outDir (schemaPath input) tree result
        final := by
  have same : foundConfig tree surroundings (arguments.withInputs [input]) = .ok config := loaded
  obtain ⟨failures, ended, batch⟩ := batch_run program same
  cases batch with
  | cons processing rest =>
    cases rest
    rw [List.append_nil] at ended
    exact ⟨_, _, ended, processing⟩

open scoped Classical in
/-- A run comes to an end, and its failures are those of the runs in which each input stands alone.
No input is skipped, and none fails or succeeds because of another: the failures are those of the
inputs whose schemas cannot be processed in the tree in which the run starts. -/
theorem run_fails_as_alone (rooted : tree.Rooted)
    (loaded : foundConfig tree surroundings arguments = .ok config) :
    ∃ failures, (outcomeIn tree surroundings program arguments).result = .ok failures ∧
      failures.map Failure.path = (arguments.inputs.flatMap fun input =>
        (outcomeIn tree surroundings program (arguments.withInputs [input])).failedPaths) ∧
      (∀ input ∈ arguments.inputs,
        (outcomeIn tree surroundings program (arguments.withInputs [input])).result = .ok [] ∨
        ∃ error, (outcomeIn tree surroundings program (arguments.withInputs [input])).result =
          .ok [⟨schemaPath input, error⟩]) ∧
      failures.map Failure.path = (arguments.inputs.map schemaPath).filter fun path =>
        ¬ Processable program (arguments.amend config) arguments.outDir path tree := by
  obtain ⟨failures, ended, batch⟩ := batch_run program loaded
  have paths := batch.paths_eq rooted
  refine ⟨failures, ended, ?_, ?_, paths⟩
  · rw [paths, List.map_eq_flatMap, List.filter_flatMap]
    refine List.flatMap_congr fun input _ => ?_
    obtain ⟨result, final, alone, processing⟩ := batch_alone program loaded input
    rw [Outcome.failedPaths, alone, ← Batch.paths_failuresOf processing]
  · intro input _
    obtain ⟨result, final, alone, -⟩ := batch_alone program loaded input
    cases result with
    | ok => exact .inl alone
    | error error => exact .inr ⟨error, alone⟩

/-- Two directories, each with a schema of the same name, and a directory for outputs. -/
def twoHomes : FileTree where
  nodes :=
    [(["a"], .directory), (["b"], .directory), (["out"], .directory),
      (["a", "x.dbcs"], .file "name = \"A\"".toUTF8),
      (["b", "x.dbcs"], .file "name = \"B\"".toUTF8)]
  workingDirectory := []

/-- The directories stand in the root, which is a directory. -/
theorem twoHomes_rooted : twoHomes.Rooted := by
  apply rooted_of_forall_mem
  intro entry mem isDirectory
  simp only [twoHomes, List.mem_cons, List.not_mem_nil, or_false] at mem
  rcases mem with rfl | rfl | rfl | rfl | rfl
  · rfl
  · rfl
  · rfl
  · cases isDirectory
  · cases isDirectory

/-- Surroundings without a configuration file. -/
def bareSurroundings : Surroundings := ⟨"/", none, none⟩

/-- A command line that draws both schemas, and one that is missing, into one directory. -/
def gathering : Arguments :=
  { inputs := ["a/x", "c/x", "b/x"], format := some .dot, outDir := some "out" }

/-- Without a configuration file the defaults are found. -/
theorem foundConfig_twoHomes : foundConfig twoHomes bareSurroundings gathering = .ok {} := by
  decide +kernel

/-- Of the three schemas only the missing one fails, with the others around it and alone. -/
theorem twoHomes_fails_as_alone :
    twoHomes.Rooted ∧ foundConfig twoHomes bareSurroundings gathering = .ok {} ∧
    ∃ failures,
      (outcomeIn twoHomes bareSurroundings .unavailable gathering).result = .ok failures ∧
      failures.map Failure.path = (["a/x", "c/x", "b/x"].flatMap fun input =>
        (outcomeIn twoHomes bareSurroundings .unavailable
          (gathering.withInputs [input])).failedPaths) ∧
      failures.map Failure.path = [schemaPath "c/x"] ∧
      ∀ input ∈ ["a/x", "c/x", "b/x"],
        (Processable .unavailable (gathering.amend {}) (some "out") (schemaPath input) twoHomes ↔
          input ≠ "c/x") := by
  classical
  obtain ⟨failures, ended, paths, -, unprocessable⟩ :=
    run_fails_as_alone .unavailable twoHomes_rooted foundConfig_twoHomes
  have alone : (["a/x", "c/x", "b/x"].flatMap fun input =>
      (outcomeIn twoHomes bareSurroundings .unavailable
        (gathering.withInputs [input])).failedPaths) = [schemaPath "c/x"] := by
    decide +kernel
  have missing : failures.map Failure.path = [schemaPath "c/x"] := paths.trans alone
  refine ⟨twoHomes_rooted, foundConfig_twoHomes, failures, ended, paths, missing, ?_⟩
  intro input mem
  have listed : schemaPath input ∈ gathering.inputs.map schemaPath := List.mem_map_of_mem mem
  have fails : schemaPath input = schemaPath "c/x" ↔
      ¬ Processable .unavailable (gathering.amend {}) (some "out") (schemaPath input) twoHomes := by
    rw [← List.mem_singleton, ← missing, unprocessable, List.mem_filter, decide_eq_true_eq]
    exact and_iff_right listed
  have apart : ∀ other ∈ ["a/x", "c/x", "b/x"],
      (schemaPath other = schemaPath "c/x" ↔ other = "c/x") := by
    decide +kernel
  rw [← not_iff_not, ← fails, apart input mem, not_not]

end Independence

/-! ## What a run writes -/

section Frame

variable {tree : FileTree} {surroundings : Surroundings} {arguments : Arguments} {config : Config}
  (program : LayoutProgram)

/-- A batch can be interrupted anywhere and taken up in the tree that it has left. -/
theorem perform_processInputs_append (before after : List String) :
    (tree.perform (processInputs access program config arguments (before ++ after))).2 =
      ((tree.perform (processInputs access program config arguments before)).2.perform
        (processInputs access program config arguments after)).2 := by
  induction before generalizing tree with
  | nil => rfl
  | cons input rest ih =>
    rw [List.cons_append, perform_processInputs_cons, perform_processInputs_cons, ih]

/-- An input that does not load can be left out. -/
theorem perform_processInputs_of_not_loads (rooted : tree.Rooted) {input : String}
    (unloaded : ¬ tree.Loads (schemaPath input)) (before after : List String) :
    (tree.perform (processInputs access program config arguments (before ++ input :: after))).2 =
      (tree.perform (processInputs access program config arguments (before ++ after))).2 := by
  have batch := batch_processInputs program config arguments tree before
  rw [← (batch.sparesSchemas rooted).loads_iff rooted] at unloaded
  obtain ⟨result, processing, -⟩ := processing_processInput program config arguments _ input
  have unchanged := processing.eq_of_not_loads unloaded
  simp only [perform_processInputs_append, perform_processInputs_cons, unchanged]

/-- The tree after a run is what processing its inputs makes of the tree. -/
theorem treeAfter_withInputs (loaded : foundConfig tree surroundings arguments = .ok config)
    (inputs : List String) :
    treeAfter tree surroundings program (arguments.withInputs inputs) =
      (tree.perform
        (processInputs access program (arguments.amend config) arguments inputs)).2 := by
  have loaded : foundConfig tree surroundings (arguments.withInputs inputs) = .ok config := loaded
  rw [treeAfter, perform_run_of_ok program loaded]
  have same : processInputs access program (arguments.amend config) (arguments.withInputs inputs)
      inputs = processInputs access program (arguments.amend config) arguments inputs :=
    processInputs_congr access program _ arguments inputs rfl
  exact congrArg (fun batch => (tree.perform batch).2) same

variable (config) in
/-- Whether a tree comes from another by writing the outputs for those inputs whose schemas load. -/
structure WritesOutputs (outDir : Option String) (inputs : List String)
    (before after : FileTree) : Prop where
  writes : before.Writes (IsBatchOutput config outDir inputs before) after
  changed : ∀ location, after.node? location ≠ before.node? location →
    ∃ output, IsBatchOutput config outDir inputs before output ∧ before.Targets output location
  apart : ∀ output, IsBatchOutput config outDir inputs before output →
    Path.extension? output ≠ some Schema.fileExtension
  schemas : ∀ location, HasExtension location Schema.fileExtension →
    after.node? location = before.node? location

/-- A batch writes the outputs for its inputs and nothing else. -/
theorem Batch.writesOutputs {outDir : Option String} {inputs : List String}
    {failures : List Failure} {final : FileTree} (rooted : tree.Rooted)
    (batch : Batch program config outDir inputs tree failures final) :
    WritesOutputs config outDir inputs tree final where
  writes := batch.writes rooted
  changed location changed := by
    by_contra outside
    exact changed ((batch.writes rooted).differsWithin.unchanged location outside)
  apart := by
    rintro output ⟨input, -, loads, isOutput⟩
    exact extension?_output rooted loads isOutput
  schemas location schema := (batch.sparesSchemas rooted).unchanged location (not_not.2 schema)

/-- A run writes nothing but the outputs for those inputs whose schemas load, so it never writes to
a schema.  An input that does not load might as well not be there, and without a configuration
nothing is written at all. -/
theorem run_writes_outputs (rooted : tree.Rooted) :
    (∀ error, foundConfig tree surroundings arguments = .error error →
      treeAfter tree surroundings program arguments = tree) ∧
    ∀ config, foundConfig tree surroundings arguments = .ok config →
      WritesOutputs (arguments.amend config) arguments.outDir arguments.inputs tree
        (treeAfter tree surroundings program arguments) ∧
      ∀ before input later, arguments.inputs = before ++ input :: later →
        ¬ tree.Loads (schemaPath input) →
        treeAfter tree surroundings program arguments =
          treeAfter tree surroundings program (arguments.withInputs (before ++ later)) := by
  refine ⟨fun error failed => ?_, fun config loaded => ⟨?_, ?_⟩⟩
  · rw [treeAfter, perform_run_of_error program failed]
  · obtain ⟨failures, -, batch⟩ := batch_run program loaded
    exact batch.writesOutputs program rooted
  · intro before input later inputs unloaded
    have same : arguments.withInputs (before ++ input :: later) = arguments := by
      rw [← inputs]
      rfl
    have whole := treeAfter_withInputs program loaded (before ++ input :: later)
    rw [same, perform_processInputs_of_not_loads program rooted unloaded] at whole
    rw [whole, treeAfter_withInputs program loaded]

/-- The missing schema might as well not have been named. -/
theorem twoHomes_written :
    twoHomes.Rooted ∧ foundConfig twoHomes bareSurroundings gathering = .ok {} ∧
    WritesOutputs (gathering.amend {}) (some "out") ["a/x", "c/x", "b/x"] twoHomes
      (treeAfter twoHomes bareSurroundings .unavailable gathering) ∧
    ¬ twoHomes.Loads (schemaPath "c/x") ∧
    treeAfter twoHomes bareSurroundings .unavailable gathering =
      treeAfter twoHomes bareSurroundings .unavailable
        (gathering.withInputs ["a/x", "b/x"]) := by
  obtain ⟨writes, spared⟩ :=
    (run_writes_outputs .unavailable twoHomes_rooted).2 _ foundConfig_twoHomes
  have missing : ¬ twoHomes.Loads (schemaPath "c/x") := by
    rintro ⟨source, -, -, read, -⟩
    have absent : twoHomes.readText (schemaPath "c/x") = .error .notFound := by decide +kernel
    rw [absent] at read
    cases read
  exact ⟨twoHomes_rooted, foundConfig_twoHomes, writes, missing,
    spared ["a/x"] "c/x" ["b/x"] rfl missing⟩

end Frame

end ErSchema.CommandLine
