import ErSchema.FileSystem.Tree
import ErSchema.Proofs.Path
import Mathlib.Data.List.Basic
import Mathlib.Logic.Relation

/-!
# Reading and writing in a tree

A path is followed in two steps: what stands before its last component leads to a directory, and the
last component leads from there to the location that the path denotes.  Only directories decide
where a path leads, and writing makes or replaces a file.  So two trees that differ in files alone
give every path the same location, and a path can be written in one when it can be written in the
other; `DiffersWithin` says of two trees that they differ in files alone, and at which locations.
-/

set_option autoImplicit false

namespace ErSchema

/-! ## Following paths -/

/-- Whether the operating system looks a path up at all. -/
structure Path.Admissible (path : String) : Prop where
  nonempty : path ≠ ""
  noNul : Char.ofNat 0 ∉ path.toList
  short : path.utf8ByteSize ≤ FileTree.pathLimit

namespace FileTree

/-- Every directory of the tree stands in a directory. -/
def Rooted (tree : FileTree) : Prop :=
  ∀ location, tree.node? location = some .directory →
    tree.node? location.dropLast = some .directory

/-- It is enough to look at the entries of a tree to see that it is rooted. -/
theorem rooted_of_forall_mem {tree : FileTree}
    (stands : ∀ entry ∈ tree.nodes, entry.2 = .directory →
      tree.node? entry.1.dropLast = some .directory) : tree.Rooted := by
  intro location isDirectory
  cases location with
  | nil => rfl
  | cons name names =>
    obtain ⟨before, after, nodes, -⟩ := List.lookup_eq_some_iff.1 isDirectory
    exact stands (name :: names, .directory) (by rw [nodes]; simp) rfl

/-- The location from which a path is followed. -/
def start (tree : FileTree) (path : String) : Location :=
  if Path.isAbsolute path then [] else tree.workingDirectory

/-- Where a component leads from a directory. -/
def descend (directory : Location) (name : String) : Location :=
  if name = "." then directory
  else if name = ".." then directory.dropLast
  else directory ++ [name]

section Walk

variable {tree : FileTree} {here there : Location} {name : String} {names : List String}

/-- Without names the walk stays where it is. -/
theorem walk_nil_eq_ok_iff : tree.walk here [] = .ok there ↔ there = here := by
  rw [walk, Except.ok.injEq, eq_comm]

/-- A walk takes its first step from a directory, with a name that is not too long. -/
theorem walk_cons_eq_ok_iff :
    tree.walk here (name :: names) = .ok there ↔
      tree.node? here = some .directory ∧ name.utf8ByteSize ≤ componentLimit ∧
        tree.walk (descend here name) names = .ok there := by
  unfold descend
  rw [walk]
  cases found : tree.node? here with
  | none => simp
  | some node =>
    cases node with
    | file bytes => simp
    | directory =>
      by_cases long : name.utf8ByteSize > componentLimit
      · simp [long, Nat.not_le.2 long]
      · simp only [if_neg long, Nat.not_lt.1 long, true_and]
        split_ifs <;> rfl

/-- A walk can be interrupted anywhere and taken up from there. -/
theorem walk_append_eq_ok_iff {later : List String} :
    tree.walk here (names ++ later) = .ok there ↔
      ∃ middle, tree.walk here names = .ok middle ∧ tree.walk middle later = .ok there := by
  induction names generalizing here with
  | nil => simp [walk]
  | cons name names ih =>
    simp only [List.cons_append, walk_cons_eq_ok_iff, ih]
    constructor
    · rintro ⟨directory, short, middle, before, after⟩
      exact ⟨middle, ⟨directory, short, before⟩, after⟩
    · rintro ⟨middle, ⟨directory, short, before⟩, after⟩
      exact ⟨directory, short, middle, before, after⟩

/-- The last component leads on from the directory to which the others lead. -/
theorem walk_concat_eq_ok_iff :
    tree.walk here (names ++ [name]) = .ok there ↔
      ∃ directory, tree.walk here names = .ok directory ∧
        tree.node? directory = some .directory ∧ name.utf8ByteSize ≤ componentLimit ∧
        there = descend directory name := by
  simp only [walk_append_eq_ok_iff, walk_cons_eq_ok_iff, walk_nil_eq_ok_iff]

/-- Dots do not lead away from a directory. -/
theorem walk_dots_eq_ok {dots : Nat}
    (walked : tree.walk here (List.replicate dots ".") = .ok there) : there = here := by
  induction dots with
  | zero => exact (Except.ok.inj walked).symm
  | succ dots ih =>
    rw [List.replicate_succ, walk_cons_eq_ok_iff] at walked
    exact ih walked.2.2

end Walk

section Locate

variable {tree : FileTree} {path : String} {location : Location}

/-- A path denotes a location when the operating system looks it up and the walk along its
components gets there. -/
theorem locate_eq_ok_iff :
    tree.locate path = .ok location ↔
      Path.Admissible path ∧
        tree.walk (tree.start path) (Path.components path) = .ok location := by
  unfold locate start
  by_cases empty : path = ""
  · simp only [empty]
    exact iff_of_false (by simp) fun found => found.1.nonempty rfl
  by_cases nul : Char.ofNat 0 ∈ path.toList
  · simp only [List.contains_iff_mem.2 nul]
    exact iff_of_false (by simp [empty]) fun found => found.1.noNul nul
  by_cases long : path.utf8ByteSize > pathLimit
  · exact iff_of_false (by simp [empty, nul, long]) fun found =>
      absurd found.1.short (Nat.not_le.2 long)
  have admissible : Path.Admissible path := ⟨empty, nul, Nat.not_lt.1 long⟩
  simp [empty, nul, long, admissible]

/-- A path that ends in a name denotes what the name denotes in the directory before it. -/
theorem locate_eq_ok_iff_of_endsIn {front name : List Char}
    (endsIn : Path.EndsIn path front name) :
    tree.locate path = .ok location ↔
      Path.Admissible path ∧ ∃ directory,
        tree.walk (tree.start path) (Path.names front) = .ok directory ∧
          tree.node? directory = some .directory ∧
          (String.ofList name).utf8ByteSize ≤ componentLimit ∧
          location = descend directory (String.ofList name) := by
  rw [locate_eq_ok_iff, endsIn.components_eq, walk_concat_eq_ok_iff]

/-- A path that names no file denotes a directory, if anything. -/
theorem Rooted.directory_of_unnamed (rooted : tree.Rooted)
    (unnamed : Path.fileName? path = none) (located : tree.locate path = .ok location) :
    tree.node? location = some .directory := by
  obtain ⟨admissible, walked⟩ := locate_eq_ok_iff.1 located
  cases slash : Path.endsWithSlash path with
  | true =>
    rw [Path.components, slash, if_pos rfl, walk_concat_eq_ok_iff] at walked
    obtain ⟨directory, -, isDirectory, -, rfl⟩ := walked
    simpa [descend] using isDirectory
  | false =>
    obtain ⟨front, name, endsIn⟩ := Path.exists_endsIn admissible.nonempty slash
    rw [endsIn.components_eq, walk_concat_eq_ok_iff] at walked
    obtain ⟨directory, -, isDirectory, -, rfl⟩ := walked
    by_cases dot : name = ['.']
    · simpa [dot, descend] using isDirectory
    · rw [endsIn.fileName?_eq dot] at unnamed
      have dots : name = ['.', '.'] := by_contra fun named => by simp [named] at unnamed
      simpa [dots, descend] using rooted _ isDirectory

end Locate

/-! ## Reading and writing -/

section Access

variable {tree next : FileTree} {path text : String} {bytes : ByteArray}

/-- Whether a path denotes a location at which there is a file or nothing yet. -/
def Targets (tree : FileTree) (path : String) (location : Location) : Prop :=
  tree.locate path = .ok location ∧ tree.node? location ≠ some .directory

/-- Whether a file can be written at a path. -/
def Writable (tree : FileTree) (path : String) : Prop :=
  ∃ location, tree.Targets path location

/-- Reading gives the text whose bytes are in the file that a path denotes. -/
theorem readText_eq_ok_iff :
    tree.readText path = .ok text ↔
      ∃ location bytes, tree.locate path = .ok location ∧
        tree.node? location = some (.file bytes) ∧ String.fromUTF8? bytes = some text := by
  unfold readText
  cases located : tree.locate path with
  | error error => simp [bind, Except.bind]
  | ok location =>
    cases found : tree.node? location with
    | none => simp [bind, Except.bind, found]
    | some node =>
      cases node with
      | directory => simp [bind, Except.bind, found]
      | file bytes =>
        cases decoded : String.fromUTF8? bytes <;>
          simp [bind, Except.bind, pure, Except.pure, found, decoded]

/-- Writing puts a file at the location that a path targets. -/
theorem write_eq_ok_iff :
    tree.write path bytes = .ok next ↔
      ∃ location, tree.Targets path location ∧
        next = tree.put location (.file bytes) := by
  unfold write Targets
  cases located : tree.locate path with
  | error error => simp [bind, Except.bind]
  | ok location =>
    cases found : tree.node? location with
    | none => simp [bind, Except.bind, pure, Except.pure, found, eq_comm]
    | some node =>
      cases node <;> simp [bind, Except.bind, pure, Except.pure, found, eq_comm]

/-- Whether bytes can be written does not depend on the bytes. -/
theorem exists_write_iff :
    (∃ next, tree.write path bytes = .ok next) ↔ tree.Writable path := by
  simp only [write_eq_ok_iff, Writable]
  constructor
  · rintro ⟨next, location, targets, -⟩
    exact ⟨location, targets⟩
  · rintro ⟨location, targets⟩
    exact ⟨_, location, targets, rfl⟩

/-- Removing one key does not change what another key finds. -/
theorem lookup_filter_of_ne (entries : List (Location × Node)) {location other : Location}
    (different : other ≠ location) :
    (entries.filter (·.1 ≠ location)).lookup other = entries.lookup other := by
  induction entries with
  | nil => rfl
  | cons entry entries ih =>
    by_cases removed : entry.1 = location
    · have missed : (other == entry.1) = false := by simpa [removed] using different
      rw [List.filter_cons_of_neg (by simpa using removed), ih, List.lookup_cons, missed]
    · rw [List.filter_cons_of_pos (by simpa using removed), List.lookup_cons, ih, List.lookup_cons]

/-- Where writing fails, nothing can be written. -/
theorem not_writable_of_error {error : FileError}
    (refused : tree.write path bytes = .error error) : ¬ tree.Writable path := by
  intro writable
  obtain ⟨next, written⟩ := exists_write_iff.2 writable
  rw [refused] at written
  cases written

/-- Putting a node at a location changes what is there and nothing else. -/
theorem node?_put {location other : Location} {node : Node} (below : location ≠ []) :
    (tree.put location node).node? other =
      if other = location then some node else tree.node? other := by
  by_cases same : other = location
  · subst same
    simp [node?, put, below]
  · have missed : (other == location) = false := by simpa using same
    simp only [node?, put, List.lookup_cons, missed, lookup_filter_of_ne _ same, if_neg same]

/-- The root is a directory, so whatever is not a directory lies below it. -/
theorem ne_nil_of_not_directory {location : Location}
    (free : tree.node? location ≠ some .directory) : location ≠ [] := by
  rintro rfl
  exact free rfl

/-- A text is read back from its bytes. -/
theorem fromUTF8?_toUTF8 (text : String) : String.fromUTF8? text.toUTF8 = some text := by
  unfold String.fromUTF8?
  exact dif_pos text.isValidUTF8

/-- What is written stands where its path leads. -/
theorem node?_of_write {location : Location} (written : tree.write path bytes = .ok next)
    (targets : tree.Targets path location) :
    next.node? location = some (.file bytes) := by
  obtain ⟨location', targets', rfl⟩ := write_eq_ok_iff.1 written
  obtain rfl : location' = location := Except.ok.inj (targets'.1.symm.trans targets.1)
  rw [node?_put (ne_nil_of_not_directory targets.2), if_pos rfl]

/-- What has been written is read. -/
theorem readText_of_node? {location : Location} (located : tree.locate path = .ok location)
    (holds : tree.node? location = some (.file text.toUTF8)) : tree.readText path = .ok text :=
  readText_eq_ok_iff.2 ⟨location, _, located, holds, fromUTF8?_toUTF8 text⟩

end Access

/-! ## Locations with an extension -/

/-- Whether the name at the end of a location ends in a dot and an extension. -/
def HasExtension (location : Location) (extension : String) : Prop :=
  ∃ directory stem, location = directory ++ [String.ofList (stem ++ '.' :: extension.toList)]

/-- A name that is neither a dot nor two dots leads to the entry of this name. -/
theorem descend_of_ordinary {directory : Location} {name : List Char} (noDot : name ≠ ['.'])
    (noDots : name ≠ ['.', '.']) :
    descend directory (String.ofList name) = directory ++ [String.ofList name] := by
  have noDot : String.ofList name ≠ "." := fun same => noDot (String.ofList_injective same)
  have noDots : String.ofList name ≠ ".." := fun same => noDots (String.ofList_injective same)
  rw [descend, if_neg noDot, if_neg noDots]

/-- Two names with extensions are the same when their stems and their extensions are. -/
theorem ofList_extension_inj {stem other : List Char} {first second : String}
    (isFirst : Path.IsExtension first) (isSecond : Path.IsExtension second)
    (same : String.ofList (stem ++ '.' :: first.toList) =
      String.ofList (other ++ '.' :: second.toList)) : stem = other ∧ first = second := by
  -- A name is split at its last dot if a character comes before that, so one is put in front.
  have split := congrArg (fun name => Path.splitName ('x' :: name)) (String.ofList_injective same)
  simp only [← List.cons_append] at split
  rw [Path.splitName_append (List.cons_ne_nil _ _) isFirst.noDot,
    Path.splitName_append (List.cons_ne_nil _ _) isSecond.noDot] at split
  obtain ⟨stems, extensions⟩ := Prod.ext_iff.1 split
  exact ⟨List.cons_injective stems, String.toList_injective (Option.some.inj extensions)⟩

/-- A location has one extension. -/
theorem HasExtension.unique {location : Location} {first second : String}
    (isFirst : Path.IsExtension first) (isSecond : Path.IsExtension second)
    (hasFirst : HasExtension location first) (hasSecond : HasExtension location second) :
    first = second := by
  obtain ⟨directory, stem, rfl⟩ := hasFirst
  obtain ⟨directory', other, same⟩ := hasSecond
  have names := (List.append_inj' same rfl).2
  exact (ofList_extension_inj isFirst isSecond (List.singleton_inj.1 names)).2

/-! ## Trees that differ in files -/

/-- Whether one tree has come from another by making and replacing files at some locations. -/
structure DiffersWithin (changed : Location → Prop) (before after : FileTree) : Prop where
  workingDirectory : after.workingDirectory = before.workingDirectory
  directory_iff : ∀ location,
    after.node? location = some .directory ↔ before.node? location = some .directory
  unchanged : ∀ location, ¬ changed location → after.node? location = before.node? location

namespace DiffersWithin

variable {changed more : Location → Prop} {before middle after : FileTree}

/-- A tree differs from itself nowhere. -/
theorem refl (tree : FileTree) : DiffersWithin changed tree tree :=
  ⟨rfl, fun _ => Iff.rfl, fun _ _ => rfl⟩

/-- What two steps change lies within what either may change. -/
theorem trans (lower : DiffersWithin changed before middle)
    (upper : DiffersWithin changed middle after) : DiffersWithin changed before after where
  workingDirectory := upper.workingDirectory.trans lower.workingDirectory
  directory_iff location := (upper.directory_iff location).trans (lower.directory_iff location)
  unchanged location outside :=
    (upper.unchanged location outside).trans (lower.unchanged location outside)

/-- A tree that differs within some locations differs within more of them. -/
theorem mono (differs : DiffersWithin changed before after)
    (wider : ∀ location, changed location → more location) : DiffersWithin more before after where
  workingDirectory := differs.workingDirectory
  directory_iff := differs.directory_iff
  unchanged location outside := differs.unchanged location (mt (wider location) outside)

/-- Writing changes the one location that the path denotes. -/
theorem of_write {path : String} {bytes : ByteArray}
    (written : before.write path bytes = .ok after) :
    DiffersWithin (before.Targets path) before after := by
  obtain ⟨location, ⟨located, free⟩, rfl⟩ := write_eq_ok_iff.1 written
  have below := ne_nil_of_not_directory free
  refine ⟨rfl, fun other => ?_, fun other outside => ?_⟩
  · rw [node?_put below]
    split
    · next same => simp [same, free]
    · rfl
  · have different : other ≠ location := fun same => outside (same ▸ ⟨located, free⟩)
    rw [node?_put below, if_neg different]

section

variable (differs : DiffersWithin changed before after) {path text : String}

include differs

/-- Walks lead to the same places, because the directories are the same. -/
theorem walk_eq_ok_iff {here there : Location} {names : List String} :
    after.walk here names = .ok there ↔ before.walk here names = .ok there := by
  induction names generalizing here with
  | nil => rw [walk_nil_eq_ok_iff, walk_nil_eq_ok_iff]
  | cons name names ih =>
    rw [walk_cons_eq_ok_iff, walk_cons_eq_ok_iff, differs.directory_iff, ih]

/-- Paths denote the same locations in both trees. -/
theorem locate_iff {location : Location} :
    after.locate path = .ok location ↔ before.locate path = .ok location := by
  rw [locate_eq_ok_iff, locate_eq_ok_iff, differs.walk_eq_ok_iff, start, start,
    differs.workingDirectory]

/-- Paths target the same locations in both trees. -/
theorem targets_iff {location : Location} :
    after.Targets path location ↔ before.Targets path location := by
  rw [Targets, Targets, differs.locate_iff, ne_eq, ne_eq, differs.directory_iff]

/-- The same paths can be written to in both trees. -/
theorem writable_iff : after.Writable path ↔ before.Writable path := by
  simp only [Writable, differs.targets_iff]

/-- A tree stays rooted when files alone are changed. -/
theorem rooted (rooted : before.Rooted) : after.Rooted := by
  intro location isDirectory
  rw [differs.directory_iff] at isDirectory ⊢
  exact rooted location isDirectory

/-- A path that does not lead to a changed location denotes what it denoted before. -/
theorem node?_eq (outside : ∀ location, before.Targets path location → ¬ changed location)
    {location : Location} (located : before.locate path = .ok location) :
    after.node? location = before.node? location := by
  -- A directory is not a target, but it cannot change.
  by_cases isDirectory : before.node? location = some .directory
  · rw [isDirectory, differs.directory_iff, isDirectory]
  · exact differs.unchanged location (outside location ⟨located, isDirectory⟩)

/-- A file outside of what may change is read as before. -/
theorem readText_iff (outside : ∀ location, before.Targets path location → ¬ changed location) :
    after.readText path = .ok text ↔ before.readText path = .ok text := by
  simp only [readText_eq_ok_iff, differs.locate_iff]
  constructor
  · rintro ⟨location, bytes, located, holds, decoded⟩
    rw [differs.node?_eq outside located] at holds
    exact ⟨location, bytes, located, holds, decoded⟩
  · rintro ⟨location, bytes, located, holds, decoded⟩
    rw [← differs.node?_eq outside located] at holds
    exact ⟨location, bytes, located, holds, decoded⟩

end

end DiffersWithin

/-! ## Series of writes -/

/-- Whether a tree comes from another by writing files at paths of a set, one after the other. -/
def Writes (allowed : String → Prop) : FileTree → FileTree → Prop :=
  Relation.ReflTransGen fun before after =>
    ∃ path bytes, allowed path ∧ before.write path bytes = .ok after

namespace Writes

variable {allowed more : String → Prop} {before after : FileTree}

/-- One write is a sequence of writes. -/
theorem of_write {path : String} {bytes : ByteArray} (isAllowed : allowed path)
    (written : before.write path bytes = .ok after) : before.Writes allowed after :=
  .single ⟨path, bytes, isAllowed, written⟩

/-- A sequence of writes to allowed paths is one to more of them. -/
theorem mono (writes : before.Writes allowed after) (wider : ∀ path, allowed path → more path) :
    before.Writes more after := by
  refine Relation.ReflTransGen.mono ?_ _ _ writes
  rintro _ _ ⟨path, bytes, isAllowed, written⟩
  exact ⟨path, bytes, wider path isAllowed, written⟩

/-- A series of writes changes the locations that its paths denote. -/
theorem differsWithin (writes : before.Writes allowed after) :
    DiffersWithin (fun location => ∃ path, allowed path ∧ before.Targets path location)
      before after := by
  induction writes with
  | refl => exact .refl before
  | tail _ last ih =>
    obtain ⟨path, bytes, isAllowed, written⟩ := last
    refine ih.trans ((DiffersWithin.of_write written).mono fun location targets => ?_)
    exact ⟨path, isAllowed, ih.targets_iff.1 targets⟩

end Writes

end FileTree

end ErSchema
