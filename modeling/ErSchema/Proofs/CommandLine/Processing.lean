import ErSchema.CommandLine.Run
import ErSchema.Proofs.FileSystem.Tree

/-!
# Processing one schema in a tree of files

Processing reads one file and writes at most two.  `Drawing` and `Processing` say all that can
happen: where the work stopped, with which error, and what has been written by then.  From them
follow three facts about one schema: whether it is processed is decided by the tree in which the
work starts; nothing is written but the outputs of a schema that was read and loaded; and when the
diagram can be written, the DOT file holds it afterwards, whatever becomes of the image.
-/

set_option autoImplicit false

namespace ErSchema

/-- The diagram of the schema at a path, if it can be read and loaded. -/
def FileTree.diagram? (tree : FileTree) (style : Style) (path : String) : Option String :=
  match tree.readText path with
  | .error _ => none
  | .ok source =>
    match Schema.load source with
    | .error _ => none
    | .ok (model, _) => some (model.dot style)

/-- A schema has a diagram when it can be read and loaded, and the diagram is that of its model. -/
theorem FileTree.diagram?_eq_some_iff {tree : FileTree} {style : Style} {path dot : String} :
    tree.diagram? style path = some dot ↔
      ∃ source model warnings, tree.readText path = .ok source ∧
        Schema.load source = .ok (model, warnings) ∧ model.dot style = dot := by
  unfold diagram?
  cases tree.readText path with
  | error error => simp
  | ok source =>
    cases loaded : Schema.load source with
    | error error => simp [loaded]
    | ok outcome => simp [loaded, Prod.ext_iff]

/-- Whether the schema at a path can be read and loaded. -/
def FileTree.Loads (tree : FileTree) (path : String) : Prop :=
  ∃ source model warnings,
    tree.readText path = .ok source ∧ Schema.load source = .ok (model, warnings)

/-- A schema has a diagram, in whatever style, when it can be read and loaded. -/
theorem FileTree.exists_diagram_iff_loads {tree : FileTree} {style : Style} {path : String} :
    (∃ dot, tree.diagram? style path = some dot) ↔ tree.Loads path := by
  simp only [diagram?_eq_some_iff]
  constructor
  · rintro ⟨-, source, model, warnings, read, loaded, -⟩
    exact ⟨source, model, warnings, read, loaded⟩
  · rintro ⟨source, model, warnings, read, loaded⟩
    exact ⟨_, source, model, warnings, read, loaded, rfl⟩

/-- A schema is drawn when it loads, because validation always comes to a report. -/
theorem processSchema_cases (style : Style) (mode : Mode) (source : String) :
    (∃ error, Schema.load source = .error error ∧
      processSchema style mode source = .error (.load error source)) ∨
    ∃ model warnings report, Schema.load source = .ok (model, warnings) ∧
      processSchema style mode source =
        .ok ⟨report, model.dot style, LogEntry.ofWarnings warnings⟩ := by
  cases loaded : Schema.load source with
  | error error =>
    refine .inl ⟨error, rfl, ?_⟩
    simp [processSchema, loaded, Except.mapError, bind, Except.bind]
  | ok loaded' =>
    obtain ⟨model, warnings⟩ := loaded'
    obtain ⟨report, validated⟩ : ∃ report, model.validate mode.rules = .ok report := by
      cases mode <;> exact ⟨_, rfl⟩
    refine .inr ⟨model, warnings, report, rfl, ?_⟩
    simp [processSchema, loaded, validated, Except.mapError, bind, Except.bind, pure, Except.pure]

/-! ## Actions on a tree -/

namespace FileTree

/-- What an action answers, and the tree that it leaves. -/
def perform {α : Type} (tree : FileTree) (action : StateM FileTree α) : α × FileTree :=
  (action.run tree).run

section Perform

variable {α β : Type} (tree : FileTree) (path : String) (bytes : ByteArray)

/-- An answer by itself leaves the tree as it is. -/
@[simp] theorem perform_pure (answer : α) : tree.perform (pure answer) = (answer, tree) := rfl

/-- The second action is performed in the tree that the first has left. -/
@[simp] theorem perform_bind (action : StateM FileTree α) (next : α → StateM FileTree β) :
    tree.perform (action >>= next) =
      (tree.perform action).2.perform (next (tree.perform action).1) := rfl

/-- Changing an answer changes nothing in the tree. -/
@[simp] theorem perform_map (action : StateM FileTree α) (change : α → β) :
    tree.perform (change <$> action) =
      (change (tree.perform action).1, (tree.perform action).2) := rfl

/-- Asking for a file changes nothing. -/
@[simp] theorem perform_isFile :
    tree.perform (access.isFile path) = (tree.isFile path, tree) := rfl

/-- Reading changes nothing. -/
@[simp] theorem perform_readText :
    tree.perform (access.readText path) = (tree.readText path, tree) := rfl

/-- A write that succeeds leaves the tree with the file in it. -/
theorem perform_write_ok {next : FileTree} (written : tree.write path bytes = .ok next) :
    tree.perform (access.write path bytes) = (.ok (), next) := by
  have got : tree.perform get = (tree, tree) := rfl
  have put (other : FileTree) : tree.perform (set other) = ((), other) := rfl
  simp [access, got, put, written]

/-- A write that fails leaves the tree as it is. -/
theorem perform_write_error {error : FileError}
    (refused : tree.write path bytes = .error error) :
    tree.perform (access.write path bytes) = (.error error, tree) := by
  have got : tree.perform get = (tree, tree) := rfl
  simp [access, got, refused]

end Perform

end FileTree

namespace CommandLine

open FileTree

/-! ## Writing a diagram -/

section Drawing

variable (program : LayoutProgram) (config : Config) (outDir : Option String) (path : String)

/-- What writing a diagram can do to a tree, and how it can end. -/
inductive Drawing (dot : String) (tree : FileTree) :
    Except ProcessingError Unit → FileTree → Prop where
  | refused {error : FileError} :
      tree.write (outputPath path outDir OutputFormat.dot.extension) dot.toUTF8 = .error error →
      Drawing dot tree (.error (.file error)) tree
  | dot {next : FileTree} :
      tree.write (outputPath path outDir OutputFormat.dot.extension) dot.toUTF8 = .ok next →
      config.format = .dot → Drawing dot tree (.ok ()) next
  | unrendered {next : FileTree} {error : ProcessingError} :
      tree.write (outputPath path outDir OutputFormat.dot.extension) dot.toUTF8 = .ok next →
      config.format ≠ .dot → config.renderBy program dot = .error error →
      Drawing dot tree (.error error) next
  | unsaved {next : FileTree} {image : ByteArray} {error : FileError} :
      tree.write (outputPath path outDir OutputFormat.dot.extension) dot.toUTF8 = .ok next →
      config.format ≠ .dot → config.renderBy program dot = .ok image →
      next.write (outputPath path outDir config.format.extension) image = .error error →
      Drawing dot tree (.error (.file error)) next
  | image {next last : FileTree} {image : ByteArray} :
      tree.write (outputPath path outDir OutputFormat.dot.extension) dot.toUTF8 = .ok next →
      config.format ≠ .dot → config.renderBy program dot = .ok image →
      next.write (outputPath path outDir config.format.extension) image = .ok last →
      Drawing dot tree (.ok ()) last

/-- What writing a diagram does to a tree is a drawing. -/
theorem drawing_writeDiagram (dot : String) (tree : FileTree) :
    Drawing program config outDir path dot tree
      (tree.perform (writeDiagram access program config outDir path dot)).1
      (tree.perform (writeDiagram access program config outDir path dot)).2 := by
  unfold writeDiagram
  rw [perform_bind]
  cases first : tree.write (outputPath path outDir OutputFormat.dot.extension) dot.toUTF8 with
  | error error =>
    rw [perform_write_error _ _ _ first]
    exact .refused first
  | ok next =>
    rw [perform_write_ok _ _ _ first]
    by_cases format : config.format = .dot
    · simpa [format] using .dot first format
    · cases rendered : config.renderBy program dot with
      | error error => simpa [format] using .unrendered first format rendered
      | ok image =>
        simp only [if_neg format, perform_bind]
        cases second : next.write (outputPath path outDir config.format.extension) image with
        | error error =>
          rw [perform_write_error _ _ _ second]
          exact .unsaved first format rendered second
        | ok last =>
          rw [perform_write_ok _ _ _ second]
          exact .image first format rendered second

/-- The outputs that are written for the schema at a path: its DOT file and, in another format, its
image. -/
def IsOutput (output : String) : Prop :=
  output = outputPath path outDir OutputFormat.dot.extension ∨
    config.format ≠ .dot ∧ output = outputPath path outDir config.format.extension

/-- Whether the diagram of a schema can be written and rendered in the tree. -/
def Drawable (tree : FileTree) (dot : String) : Prop :=
  tree.Writable (outputPath path outDir OutputFormat.dot.extension) ∧
    (config.format = .dot ∨ ∃ image, config.renderBy program dot = .ok image ∧
      tree.Writable (outputPath path outDir config.format.extension))

variable {program config outDir path} {dot : String} {tree final : FileTree}
  {result : Except ProcessingError Unit}

/-- Writing a diagram succeeds when everything can be written and rendered before it starts. -/
theorem Drawing.eq_ok_iff (drawing : Drawing program config outDir path dot tree result final) :
    result = .ok () ↔ Drawable program config outDir path tree dot := by
  cases drawing with
  | refused refused =>
    exact iff_of_false (by simp) fun drawable => not_writable_of_error refused drawable.1
  | dot written format =>
    exact iff_of_true rfl ⟨exists_write_iff.1 ⟨_, written⟩, .inl format⟩
  | unrendered written format rendered =>
    refine iff_of_false (by simp) fun drawable => ?_
    obtain same | ⟨image, rendered', -⟩ := drawable.2
    · exact format same
    · rw [rendered] at rendered'
      cases rendered'
  | unsaved written format rendered refused =>
    -- The image is refused after the DOT file was written, and so it would have been before.
    refine iff_of_false (by simp) fun drawable => ?_
    obtain same | ⟨-, -, writable⟩ := drawable.2
    · exact format same
    · rw [← (DiffersWithin.of_write written).writable_iff] at writable
      exact not_writable_of_error refused writable
  | image written format rendered written' =>
    have writable := exists_write_iff.1 ⟨_, written'⟩
    rw [(DiffersWithin.of_write written).writable_iff] at writable
    exact iff_of_true rfl ⟨exists_write_iff.1 ⟨_, written⟩, .inr ⟨_, rendered, writable⟩⟩

/-- Writing a diagram writes outputs alone. -/
theorem Drawing.writes (drawing : Drawing program config outDir path dot tree result final) :
    tree.Writes (IsOutput config outDir path) final := by
  cases drawing with
  | refused => exact Relation.ReflTransGen.refl
  | dot written => exact .of_write (.inl rfl) written
  | unrendered written => exact .of_write (.inl rfl) written
  | unsaved written => exact .of_write (.inl rfl) written
  | image written format _ written' =>
    have first : tree.Writes (IsOutput config outDir path) _ := .of_write (.inl rfl) written
    have second : Writes (IsOutput config outDir path) _ final :=
      .of_write (.inr ⟨format, rfl⟩) written'
    exact first.trans second

/-- The DOT file holds the diagram afterwards, even if the image fails. -/
theorem Drawing.node?_eq {location : Location}
    (drawing : Drawing program config outDir path dot tree result final)
    (targets : tree.Targets (outputPath path outDir OutputFormat.dot.extension) location)
    (apart : config.format ≠ .dot →
      ¬ tree.Targets (outputPath path outDir config.format.extension) location) :
    final.node? location = some (.file dot.toUTF8) := by
  cases drawing with
  | refused refused => exact absurd ⟨location, targets⟩ (not_writable_of_error refused)
  | dot written => exact node?_of_write written targets
  | unrendered written => exact node?_of_write written targets
  | unsaved written => exact node?_of_write written targets
  | image written format _ written' =>
    have apart := apart format
    rw [← (DiffersWithin.of_write written).targets_iff] at apart
    rw [(DiffersWithin.of_write written').unchanged location apart]
    exact node?_of_write written targets

end Drawing

/-! ## Processing a schema -/

section Processing

variable (program : LayoutProgram) (config : Config) (outDir : Option String) (path : String)

/-- What processing the schema at a path can do to a tree, and how it can end: without a diagram it
fails and leaves the tree alone, and else it writes the diagram. -/
inductive Processing (tree : FileTree) : Except ProcessingError Unit → FileTree → Prop where
  | undrawn {error : ProcessingError} :
      tree.diagram? config.style path = none → Processing tree (.error error) tree
  | drawn {dot : String} {result : Except ProcessingError Unit} {final : FileTree} :
      tree.diagram? config.style path = some dot →
      Drawing program config outDir path dot tree result final → Processing tree result final

/-- What processing a schema does to a tree is a processing, in either mode. -/
theorem processing_processFile (mode : Mode) (tree : FileTree) :
    Processing program config outDir path tree
      (tree.perform (processFile access program config mode outDir path)).1.1
      (tree.perform (processFile access program config mode outDir path)).2 := by
  unfold processFile
  rw [perform_bind, perform_readText]
  cases read : tree.readText path with
  | error error => exact .undrawn (by rw [diagram?, read])
  | ok source =>
    obtain ⟨error, loaded, processed⟩ | ⟨model, warnings, report, loaded, processed⟩ :=
      processSchema_cases config.style mode source
    · have undrawn : tree.diagram? config.style path = none := by
        simp only [diagram?, read, loaded]
      simpa [processed] using .undrawn undrawn
    · have drawn : tree.diagram? config.style path = some (model.dot config.style) := by
        simp only [diagram?, read, loaded]
      have drawing := drawing_writeDiagram program config outDir path (model.dot config.style) tree
      simpa [processed] using .drawn drawn drawing

variable {program config outDir path} {tree final : FileTree} {result : Except ProcessingError Unit}

variable (program config outDir path tree) in
/-- Whether the tree has a diagram for the schema that can be written and rendered. -/
def Processable : Prop :=
  ∃ dot, tree.diagram? config.style path = some dot ∧
    Drawable program config outDir path tree dot

/-- Whether processing succeeds is decided before it starts. -/
theorem Processing.eq_ok_iff
    (processing : Processing program config outDir path tree result final) :
    result = .ok () ↔ Processable program config outDir path tree := by
  unfold Processable
  cases processing with
  | undrawn undrawn => simp [undrawn]
  | drawn drawn drawing => simp [drawn, drawing.eq_ok_iff]

/-- A schema that does not load leaves the tree as it is. -/
theorem Processing.eq_of_not_loads
    (processing : Processing program config outDir path tree result final)
    (unloaded : ¬ tree.Loads path) : final = tree := by
  cases processing with
  | undrawn => rfl
  | drawn drawn _ => exact absurd (exists_diagram_iff_loads.1 ⟨_, drawn⟩) unloaded

/-- Processing writes outputs alone, and only for a schema that can be read and loaded. -/
theorem Processing.writes
    (processing : Processing program config outDir path tree result final) :
    tree.Writes (fun output => tree.Loads path ∧ IsOutput config outDir path output) final := by
  cases processing with
  | undrawn => exact Relation.ReflTransGen.refl
  | drawn drawn drawing =>
    have loads := exists_diagram_iff_loads.1 ⟨_, drawn⟩
    exact drawing.writes.mono fun output isOutput => ⟨loads, isOutput⟩

end Processing

end CommandLine

end ErSchema
