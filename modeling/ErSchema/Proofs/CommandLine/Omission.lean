import ErSchema.Proofs.CommandLine.Batch

/-!
# Schemas without their extension

The extension of a schema may be left off on the command line, because every input gets it back.
An input that has an extension of its own loses this one for it.  A stem with a dot inside is such
an input when it stands alone: what follows its last dot goes, and the path of another schema
results.
-/

set_option autoImplicit false

namespace ErSchema.CommandLine

open FileTree

/-- A path, or the stem of a name, with the extension of schemas behind it. -/
def spelledOut (short : String) : String :=
  short ++ "." ++ Schema.fileExtension

/-- A path that is spelled out has a dot and the extension of schemas at its end. -/
theorem toList_spelledOut (short : String) :
    (spelledOut short).toList = short.toList ++ '.' :: Schema.fileExtension.toList := by
  simp [spelledOut]

/-! ## The stem of a schema -/

section Stem

variable {short : String} {front stem : List Char}

/-- A path that is spelled out ends in the spelled out name. -/
theorem endsIn_spelledOut (endsIn : Path.EndsIn short front stem) :
    Path.EndsIn (spelledOut short) front (stem ++ '.' :: Schema.fileExtension.toList) where
  toList_eq := by rw [toList_spelledOut, endsIn.toList_eq, List.append_assoc]
  isFront := endsIn.isFront
  nonempty := by simp
  plain := by simp [endsIn.plain, Path.isExtension_schema.noSlash]

/-- A path with the extension behind it ends in a name. -/
theorem exists_endsIn_spelledOut (short : String) :
    ∃ front name, name ≠ ['.'] ∧ Path.EndsIn (spelledOut short) front name := by
  have last : (spelledOut short).toList.getLast? = some 's' := by
    rw [toList_spelledOut, List.getLast?_append_of_ne_nil _ (List.cons_ne_nil _ _)]
    rfl
  have nonempty : spelledOut short ≠ "" := by
    intro empty
    rw [empty] at last
    cases last
  have continued : Path.endsWithSlash (spelledOut short) = false := by
    rw [Path.endsWithSlash, last]
    rfl
  obtain ⟨front, name, endsIn⟩ := Path.exists_endsIn nonempty continued
  refine ⟨front, name, ?_, endsIn⟩
  rintro rfl
  rw [endsIn.toList_eq, List.getLast?_concat] at last
  exact absurd last (by decide)

/-- The path of a schema without its extension ends in the stem of its file name. -/
theorem exists_endsIn_stem {stem : String} (filled : stem ≠ "")
    (named : Path.fileName? (spelledOut short) = some (spelledOut stem)) :
    ∃ front, Path.EndsIn short front stem.toList := by
  obtain ⟨front, name, ordinary, endsIn⟩ := exists_endsIn_spelledOut short
  have same : name = stem.toList ++ '.' :: Schema.fileExtension.toList := by
    rw [endsIn.fileName?_eq ordinary] at named
    split at named
    · cases named
    · rw [← toList_spelledOut, ← Option.some.inj named, String.toList_ofList]
  subst same
  have shorter := endsIn.toList_eq
  rw [toList_spelledOut, ← List.append_assoc] at shorter
  refine ⟨front, List.append_cancel_right shorter, endsIn.isFront, ?_, ?_⟩
  · exact mt String.toList_eq_nil_iff.1 filled
  · exact fun slash => endsIn.plain (List.mem_append_left _ slash)

/-- A path with the extension of schemas keeps it. -/
theorem schemaPath_spelledOut (endsIn : Path.EndsIn short front stem) (ordinary : stem ≠ ['.']) :
    schemaPath (spelledOut short) = spelledOut short := by
  have whole := endsIn_spelledOut endsIn
  rw [schemaPath, whole.withExtension_eq endsIn.nonempty Path.isExtension_schema
    Path.isExtension_schema, Path.renamed, if_neg ordinary, ← whole.toList_eq, String.ofList_toList]

/-- A stem without a dot behind its first character gets the extension back. -/
theorem schemaPath_of_plain (endsIn : Path.EndsIn short front stem) (ordinary : stem ≠ ['.'])
    (noDot : '.' ∉ stem.tail) : schemaPath short = spelledOut short :=
  endsIn.withExtension_of_plain ordinary noDot Path.isExtension_schema

/-- A stem with a dot inside loses what follows the last one. -/
theorem schemaPath_of_dotted {first rest : List Char}
    (endsIn : Path.EndsIn short front (first ++ '.' :: rest)) (filled : first ≠ [])
    (ordinary : first ≠ ['.']) (noDot : '.' ∉ rest) :
    schemaPath short = spelledOut (String.ofList (front ++ first)) := by
  have named : first ++ '.' :: rest ≠ ['.', '.'] := by
    rcases first with _ | ⟨char, _ | ⟨second, more⟩⟩
    · exact absurd rfl filled
    · intro dots
      exact ordinary (congrArg (List.take 1) dots)
    · simp
  rw [schemaPath, endsIn.withExtension_of_dotted filled noDot named Path.isExtension_schema,
    Path.renamed, if_neg ordinary, ← String.toList_inj, toList_spelledOut, String.toList_ofList,
    String.toList_ofList, List.append_assoc]

/-- What is left of such a stem is too short. -/
theorem schemaPath_ne (endsIn : Path.EndsIn short front stem) (dot : '.' ∈ stem.tail) :
    schemaPath short ≠ spelledOut short := by
  suffices shorter : (schemaPath short).toList.length < (spelledOut short).toList.length by
    intro same
    rw [same] at shorter
    exact lt_irrefl _ shorter
  obtain ⟨first, rest, filled, noDot, rfl⟩ := Path.exists_splitName_of_mem_tail dot
  rw [toList_spelledOut, List.length_append, List.length_cons]
  by_cases dots : first ++ '.' :: rest = ['.', '.']
  · -- Two dots name no file and get no extension.
    have unnamed : Path.fileName? short = none := by
      rw [endsIn.fileName?_eq (Path.name_ne_dot filled), if_pos dots]
    have unchanged : schemaPath short = short := by
      simp [schemaPath, Path.withExtension, unnamed]
    rw [unchanged]
    omega
  · have kept := Path.length_renamed_le filled Schema.fileExtension
    rw [schemaPath, endsIn.withExtension_of_dotted filled noDot dots Path.isExtension_schema,
      String.toList_ofList, endsIn.toList_eq]
    simp only [List.length_append, List.length_cons]
    omega

end Stem

/-! ## Runs -/

/-- The extension of a schema can be left off exactly when the stem of its name has no dot behind
its first character, and a run is then the same with it and without it.  Otherwise the path of
the schema becomes another one, in which the stem ends before its last dot.  What stands before that
dot must be a stem itself, neither empty nor a single dot: a single dot gets no extension and becomes
two dots instead, see `renamed`. -/
theorem run_without_extension {m : Type → Type} [Monad m] (files : FileAccess m)
    (surroundings : Surroundings) (program : LayoutProgram) (arguments : Arguments)
    {short stem : String} (filled : stem ≠ "") (ordinary : stem ≠ ".")
    (named : Path.fileName? (spelledOut short) = some (spelledOut stem)) :
    schemaPath (spelledOut short) = spelledOut short ∧
    (schemaPath short = spelledOut short ↔ '.' ∉ stem.toList.tail) ∧
    ('.' ∉ stem.toList.tail →
      (∀ outDir extension, outputPath (schemaPath short) outDir extension =
        outputPath (schemaPath (spelledOut short)) outDir extension) ∧
      ∀ before after : List String,
        run files surroundings (arguments.withInputs (before ++ short :: after)) program =
          run files surroundings (arguments.withInputs (before ++ spelledOut short :: after))
            program) ∧
    ∀ first rest : String, stem = first ++ "." ++ rest → first ≠ "" → first ≠ "." →
      '.' ∉ rest.toList →
      ∃ front, short = front ++ stem ∧ schemaPath short = spelledOut (front ++ first) := by
  obtain ⟨front, endsIn⟩ := exists_endsIn_stem filled named
  have notDot : stem.toList ≠ ['.'] := fun dot => ordinary (String.toList_inj.1 dot)
  have long := schemaPath_spelledOut endsIn notDot
  refine ⟨long, ⟨?_, schemaPath_of_plain endsIn notDot⟩, ?_, ?_⟩
  · intro same dot
    exact schemaPath_ne endsIn dot same
  · intro plain
    have same : schemaPath short = schemaPath (spelledOut short) := by
      rw [long, schemaPath_of_plain endsIn notDot plain]
    refine ⟨fun outDir extension => by rw [same], fun before after => ?_⟩
    apply run_congr
    simp only [List.map_append, List.map_cons, same]
  · rintro first rest rfl firstFilled firstOrdinary noDot
    refine ⟨String.ofList front, ?_, ?_⟩
    · rw [← String.toList_inj, String.toList_append, String.toList_ofList, endsIn.toList_eq]
    · have cut : (first ++ "." ++ rest).toList = first.toList ++ '.' :: rest.toList := by simp
      rw [cut] at endsIn
      have nonempty : first.toList ≠ [] := mt String.toList_eq_nil_iff.1 firstFilled
      have notDot : first.toList ≠ ['.'] := fun dot => firstOrdinary (String.toList_inj.1 dot)
      rw [schemaPath_of_dotted endsIn nonempty notDot noDot, String.ofList_append,
        String.ofList_toList]

/-- A name that starts with a dot, in a directory with a dot in its name. -/
theorem run_without_extension_hidden :
    Path.fileName? (spelledOut "rev.2/.uni") = some (spelledOut ".uni") ∧
    schemaPath "rev.2/.uni" = spelledOut "rev.2/.uni" ∧
    ∀ before after : List String,
      run access bareSurroundings (gathering.withInputs (before ++ "rev.2/.uni" :: after))
          .unavailable =
        run access bareSurroundings
          (gathering.withInputs (before ++ spelledOut "rev.2/.uni" :: after)) .unavailable := by
  have named : Path.fileName? (spelledOut "rev.2/.uni") = some (spelledOut ".uni") := by
    decide +kernel
  obtain ⟨-, restored, same, -⟩ := run_without_extension access bareSurroundings .unavailable
    gathering (by decide) (by decide) named
  have plain : '.' ∉ ".uni".toList.tail := by decide
  exact ⟨named, restored.2 plain, (same plain).2⟩

/-- The extension cannot be left off when the stem looks as if it had one, and a schema whose stem
is a dot is not even found under its own path. -/
theorem notes_lose_ending :
    (Path.fileName? (spelledOut "notes.txt") = some (spelledOut "notes.txt") ∧
      schemaPath "notes.txt" = spelledOut "notes" ∧
      schemaPath "notes.txt" ≠ spelledOut "notes.txt" ∧
      outputPath (schemaPath "notes.txt") none "dot" = "notes.dot" ∧
      outputPath (schemaPath (spelledOut "notes.txt")) none "dot" = "notes.txt.dot") ∧
    Path.fileName? (spelledOut ".") = some (spelledOut ".") ∧
      schemaPath (spelledOut ".") ≠ spelledOut "." := by
  decide +kernel

end ErSchema.CommandLine
