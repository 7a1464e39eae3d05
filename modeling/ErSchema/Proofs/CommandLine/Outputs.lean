import ErSchema.Proofs.CommandLine.Processing

/-!
# Where outputs go

A schema that can be read lies at a location whose name ends in the extension of schemas, and what
is written for it goes to locations with the same stem and the extension of a format; without a
directory for outputs, in the directory of the schema.  So outputs never hit schemas, and everything
that is decided by schemas and directories alone stays as it was: `SparesSchemas`.
-/

set_option autoImplicit false

namespace ErSchema

open FileTree

namespace FileTree

variable {tree : FileTree} {path : String} {location : Location}

/-- A schema that loads is a file. -/
theorem Loads.exists_targets (loads : tree.Loads path) :
    ∃ location, tree.Targets path location := by
  obtain ⟨source, -, -, read, -⟩ := loads
  obtain ⟨location, bytes, located, holds, -⟩ := readText_eq_ok_iff.1 read
  exact ⟨location, located, by simp [holds]⟩

/-- A path with an extension that was given to it ends in a stem and this extension when it leads to
a file. -/
theorem Rooted.exists_stem (rooted : tree.Rooted) {extension : String}
    (isExtension : Path.IsExtension extension)
    (targets : tree.Targets (Path.withExtension path extension) location) :
    ∃ front stem, stem ≠ [] ∧ '/' ∉ stem ∧
      Path.EndsIn (Path.withExtension path extension) front (stem ++ '.' :: extension.toList) := by
  rcases Path.withExtension_cases path isExtension with unnamed | named
  · exact absurd (rooted.directory_of_unnamed unnamed targets.1) targets.2
  · exact named

/-- The location of a file with a stem and an extension. -/
theorem Targets.of_endsIn {front stem : List Char} {extension : String}
    (targets : tree.Targets path location) (isExtension : Path.IsExtension extension)
    (filled : stem ≠ []) (endsIn : Path.EndsIn path front (stem ++ '.' :: extension.toList)) :
    ∃ directory, tree.walk (tree.start path) (Path.names front) = .ok directory ∧
      location = directory ++ [String.ofList (stem ++ '.' :: extension.toList)] := by
  obtain ⟨-, directory, walked, -, -, rfl⟩ := (locate_eq_ok_iff_of_endsIn endsIn).1 targets.1
  exact ⟨directory, walked,
    descend_of_ordinary (Path.name_ne_dot filled) (Path.name_ne_dots filled isExtension)⟩

/-- A path that ends in two dots leads to a directory. -/
theorem Rooted.not_targets_dots (rooted : tree.Rooted) {front : List Char}
    (endsIn : Path.EndsIn path front ['.', '.']) : ¬ tree.Targets path location := by
  intro targets
  have unnamed : Path.fileName? path = none := endsIn.fileName?_eq (by decide)
  exact targets.2 (rooted.directory_of_unnamed unnamed targets.1)

end FileTree

namespace CommandLine

/-- The path of the schema that an input stands for. -/
def schemaPath (input : String) : String :=
  Path.withExtension input Schema.fileExtension

variable {tree : FileTree} {path extension : String} {outDir : Option String} {location : Location}
  {front stem : List Char}

/-- The output for a schema goes to a location with the stem of the schema. -/
theorem exists_directory_of_output (rooted : tree.Rooted)
    (isExtension : Path.IsExtension extension) (filled : stem ≠ []) (plain : '/' ∉ stem)
    (endsIn : Path.EndsIn path front (stem ++ '.' :: Schema.fileExtension.toList))
    (targets : tree.Targets (outputPath path outDir extension) location) :
    ∃ directory,
      tree.walk (tree.start (outputPath path outDir extension))
        (Path.names (Path.frontOf (outDir.getD (Path.parent path)))) = .ok directory ∧
      location = directory ++ [String.ofList (stem ++ '.' :: extension.toList)] := by
  have output := endsIn.outputPath filled plain Path.isExtension_schema isExtension outDir
  by_cases dot : stem = ['.']
  · rw [Path.renamed, if_pos dot] at output
    exact absurd targets (rooted.not_targets_dots output)
  · rw [Path.renamed, if_neg dot] at output
    exact targets.of_endsIn isExtension filled output

/-- Without a directory for outputs, the output for a schema goes to the directory of the schema. -/
theorem exists_directory_of_output_beside (rooted : tree.Rooted)
    (isExtension : Path.IsExtension extension) (filled : stem ≠ []) (plain : '/' ∉ stem)
    (endsIn : Path.EndsIn path front (stem ++ '.' :: Schema.fileExtension.toList))
    {schema : Location} (schemaTargets : tree.Targets path schema)
    (targets : tree.Targets (outputPath path none extension) location) :
    ∃ directory,
      schema = directory ++ [String.ofList (stem ++ '.' :: Schema.fileExtension.toList)] ∧
      location = directory ++ [String.ofList (stem ++ '.' :: extension.toList)] := by
  obtain ⟨directory, walked, rfl⟩ :=
    exists_directory_of_output rooted isExtension filled plain endsIn targets
  obtain ⟨home, walkedHome, rfl⟩ :=
    schemaTargets.of_endsIn Path.isExtension_schema filled endsIn
  refine ⟨directory, ?_, rfl⟩
  obtain ⟨⟨dots, names⟩, head⟩ := endsIn.front_parent (Path.name_ne_dot filled)
  have output := endsIn.outputPath filled plain Path.isExtension_schema isExtension none
  -- Both paths start at one place and differ, before the name, in dots alone.
  have same : tree.start (outputPath path none extension) = tree.start path := by
    rw [start, start, output.isAbsolute_eq, endsIn.isAbsolute_eq, Option.getD_none, head]
  rw [same, Option.getD_none] at walked
  rw [names, walk_append_eq_ok_iff] at walkedHome
  obtain ⟨middle, walkedMiddle, dotted⟩ := walkedHome
  obtain rfl : middle = directory := Except.ok.inj (walkedMiddle.symm.trans walked)
  rw [walk_dots_eq_ok dotted]

/-! ## Outputs and schemas -/

section Spared

variable {input output : String} {config : Config}

/-- The path of a schema that loads ends in a stem and the extension of schemas. -/
theorem exists_stem_of_loads (rooted : tree.Rooted) (loads : tree.Loads (schemaPath input)) :
    ∃ front stem, stem ≠ [] ∧ '/' ∉ stem ∧
      Path.EndsIn (schemaPath input) front (stem ++ '.' :: Schema.fileExtension.toList) := by
  obtain ⟨location, targets⟩ := loads.exists_targets
  exact rooted.exists_stem Path.isExtension_schema targets

/-- A schema lies at a location with the extension of schemas. -/
theorem hasExtension_of_schema (rooted : tree.Rooted)
    (targets : tree.Targets (schemaPath input) location) :
    HasExtension location Schema.fileExtension := by
  obtain ⟨front, stem, filled, -, endsIn⟩ := rooted.exists_stem Path.isExtension_schema targets
  obtain ⟨directory, -, rfl⟩ := targets.of_endsIn Path.isExtension_schema filled endsIn
  exact ⟨directory, stem, rfl⟩

/-- An output for a schema that loads goes to a location with the extension of the output. -/
theorem hasExtension_of_output (rooted : tree.Rooted) (isExtension : Path.IsExtension extension)
    (loads : tree.Loads (schemaPath input))
    (targets : tree.Targets (outputPath (schemaPath input) outDir extension) location) :
    HasExtension location extension := by
  obtain ⟨front, stem, filled, plain, endsIn⟩ := exists_stem_of_loads rooted loads
  obtain ⟨directory, -, rfl⟩ :=
    exists_directory_of_output rooted isExtension filled plain endsIn targets
  exact ⟨directory, stem, rfl⟩

/-- Every output has the extension of a format. -/
theorem IsOutput.exists_format (isOutput : IsOutput config outDir path output) :
    ∃ format : OutputFormat, output = outputPath path outDir format.extension := by
  rcases isOutput with dot | ⟨-, image⟩
  · exact ⟨_, dot⟩
  · exact ⟨_, image⟩

/-- The extension of a format is never that of schemas. -/
theorem extension_ne_schema (format : OutputFormat) :
    format.extension ≠ Schema.fileExtension := by
  cases format <;> decide

/-- Outputs do not go where schemas lie. -/
theorem not_hasExtension_of_output (rooted : tree.Rooted)
    (loads : tree.Loads (schemaPath input))
    (isOutput : IsOutput config outDir (schemaPath input) output)
    (targets : tree.Targets output location) :
    ¬ HasExtension location Schema.fileExtension := by
  intro schema
  obtain ⟨format, rfl⟩ := isOutput.exists_format
  have isExtension := Path.isExtension_format format
  have hasExtension := hasExtension_of_output rooted isExtension loads targets
  exact extension_ne_schema format
    (hasExtension.unique isExtension Path.isExtension_schema schema)

/-- An output for a schema that loads does not have the extension of schemas. -/
theorem extension?_output (rooted : tree.Rooted) (loads : tree.Loads (schemaPath input))
    (isOutput : IsOutput config outDir (schemaPath input) output) :
    Path.extension? output ≠ some Schema.fileExtension := by
  obtain ⟨format, rfl⟩ := isOutput.exists_format
  obtain ⟨front, stem, filled, plain, endsIn⟩ := exists_stem_of_loads rooted loads
  have isExtension := Path.isExtension_format format
  have ends := endsIn.outputPath filled plain Path.isExtension_schema isExtension outDir
  by_cases dot : stem = ['.']
  · rw [Path.renamed, if_pos dot] at ends
    rw [Path.extension?, ends.fileName?_eq (by decide)]
    simp
  · rw [Path.renamed, if_neg dot] at ends
    rw [ends.extension?_eq filled isExtension]
    simpa using extension_ne_schema format

/-- Whether a tree has come from another by changes of files that are not schemas. -/
def SparesSchemas : FileTree → FileTree → Prop :=
  DiffersWithin fun location => ¬ HasExtension location Schema.fileExtension

/-- Processing a schema changes no schema. -/
theorem Processing.sparesSchemas {program : LayoutProgram} {result : Except ProcessingError Unit}
    {final : FileTree} (rooted : tree.Rooted)
    (processing : Processing program config outDir (schemaPath input) tree result final) :
    SparesSchemas tree final := by
  apply processing.writes.differsWithin.mono
  rintro location ⟨output, ⟨loads, isOutput⟩, targets⟩
  exact not_hasExtension_of_output rooted loads isOutput targets

namespace SparesSchemas

variable {before after : FileTree} (spares : SparesSchemas before after) (rooted : before.Rooted)

include spares rooted

/-- A spared schema is read as before. -/
theorem readText_eq_ok_iff {text : String} :
    after.readText (schemaPath input) = .ok text ↔ before.readText (schemaPath input) = .ok text :=
  DiffersWithin.readText_iff spares fun _ targets =>
    not_not.2 (hasExtension_of_schema rooted targets)

/-- A spared schema loads when it did before. -/
theorem loads_iff : after.Loads (schemaPath input) ↔ before.Loads (schemaPath input) := by
  simp only [Loads, spares.readText_eq_ok_iff rooted]

/-- A schema has the same diagram as before when no schema has changed. -/
theorem diagram?_eq (style : Style) :
    after.diagram? style (schemaPath input) = before.diagram? style (schemaPath input) := by
  ext dot
  simp only [diagram?_eq_some_iff, spares.readText_eq_ok_iff rooted]

/-- Whether a schema can be processed does not depend on files that are not schemas. -/
theorem processable_iff {program : LayoutProgram} :
    Processable program config outDir (schemaPath input) after ↔
      Processable program config outDir (schemaPath input) before := by
  simp only [Processable, Drawable, spares.diagram?_eq rooted, DiffersWithin.writable_iff spares]

end SparesSchemas

end Spared

end CommandLine

end ErSchema
