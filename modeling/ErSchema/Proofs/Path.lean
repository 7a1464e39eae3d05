import ErSchema.CommandLine.Run
import Mathlib.Data.List.Basic
import Mathlib.Data.List.TakeWhile
import Mathlib.Tactic.Conv
import Mathlib.Tactic.Set

/-!
# The names at the end of paths

A path that is neither empty nor ends with a slash ends in a name, `EndsIn`.  A new extension
changes this name and nothing before it, and the file of an output path is put behind a directory,
so all questions about the paths of a run are questions about the names in which they end.
-/

set_option autoImplicit false

namespace ErSchema.Path

/-! ## Names between slashes -/

/-- The empty text has no names. -/
@[simp] theorem names_nil : names [] = [] := rfl

/-- What stands before a name: nothing, or a text that ends with a slash. -/
def IsFront (front : List Char) : Prop :=
  front = [] ∨ ∃ before, front = before ++ ['/']

/-- A slash separates the names before it from those behind it. -/
theorem names_slash (before after : List Char) :
    names (before ++ '/' :: after) = names before ++ names after := by
  simp [names, List.splitOn_append_cons_self]

/-- A slash at the end adds no name. -/
theorem names_concat_slash (before : List Char) : names (before ++ ['/']) = names before := by
  rw [names_slash, names_nil, List.append_nil]

/-- A text without slashes is one name. -/
theorem names_singleton {name : List Char} (nonempty : name ≠ []) (plain : '/' ∉ name) :
    names name = [String.ofList name] := by
  simp [names, List.splitOn_eq_singleton plain, nonempty]

/-- A name behind a front is the last of the names. -/
theorem IsFront.names_append {front name : List Char} (isFront : IsFront front)
    (nonempty : name ≠ []) (plain : '/' ∉ name) :
    names (front ++ name) = names front ++ [String.ofList name] := by
  rcases isFront with rfl | ⟨before, rfl⟩
  · rw [names_nil, List.nil_append, List.nil_append, names_singleton nonempty plain]
  · rw [List.append_assoc, List.singleton_append, names_slash, names_concat_slash,
      names_singleton nonempty plain]

/-! ## The name at the end -/

/-- A path that ends in a name. -/
structure EndsIn (path : String) (front name : List Char) : Prop where
  toList_eq : path.toList = front ++ name
  isFront : IsFront front
  nonempty : name ≠ []
  plain : '/' ∉ name

namespace EndsIn

variable {path : String} {front name : List Char} (endsIn : EndsIn path front name)

include endsIn

/-- A path that ends in a name does not end with a slash. -/
theorem endsWithSlash_eq_false : endsWithSlash path = false := by
  have last : path.toList.getLast? = name.getLast? := by
    rw [endsIn.toList_eq, List.getLast?_append_of_ne_nil _ endsIn.nonempty]
  have other : name.getLast? ≠ some '/' := fun slash =>
    endsIn.plain (List.mem_of_getLast? slash)
  simpa [endsWithSlash, last] using other

/-- The components of a path that ends in a name are those before the name, and the name. -/
theorem components_eq : components path = names front ++ [String.ofList name] := by
  rw [components, endsIn.endsWithSlash_eq_false, if_neg Bool.false_ne_true, endsIn.toList_eq,
    endsIn.isFront.names_append endsIn.nonempty endsIn.plain]

/-- A path is absolute when what stands before its name starts with a slash. -/
theorem isAbsolute_eq : isAbsolute path = (front.head? == some '/') := by
  rw [isAbsolute, endsIn.toList_eq]
  rcases endsIn.isFront with rfl | ⟨before, rfl⟩
  · have other : name.head? ≠ some '/' := fun slash =>
      endsIn.plain (List.mem_of_head? slash)
    simpa using other
  · cases before <;> simp

end EndsIn

/-! ## Splitting -/

/-- What is left of a reversed path before its last name. -/
theorem isFront_dropWhile (reversed : List Char) :
    IsFront (reversed.dropWhile (· ≠ '/')).reverse := by
  cases left : reversed.dropWhile (· ≠ '/') with
  | nil => exact .inl rfl
  | cons char rest =>
    have stops := List.head?_dropWhile_not (· ≠ '/') reversed
    rw [left] at stops
    obtain rfl : char = '/' := by simpa using stops
    exact .inr ⟨rest.reverse, List.reverse_cons⟩

/-- What is taken up to the first slash holds no slash. -/
theorem plain_takeWhile (reversed : List Char) : '/' ∉ reversed.takeWhile (· ≠ '/') := by
  intro mem
  simpa using List.mem_takeWhile_imp mem

/-- A path that is not empty and does not end with a slash ends in a name. -/
theorem exists_endsIn {path : String} (nonempty : path ≠ "")
    (continued : endsWithSlash path = false) : ∃ front name, EndsIn path front name := by
  set reversed := path.toList.reverse with reversed_eq
  refine ⟨(reversed.dropWhile (· ≠ '/')).reverse, (reversed.takeWhile (· ≠ '/')).reverse, ?_,
    isFront_dropWhile reversed, ?_, ?_⟩
  · rw [← List.reverse_append, List.takeWhile_append_dropWhile, reversed_eq, List.reverse_reverse]
  · cases shape : reversed with
    | nil =>
      have empty : path.toList = [] := List.reverse_eq_nil_iff.1 (reversed_eq ▸ shape)
      exact absurd (String.toList_eq_nil_iff.1 empty) nonempty
    | cons char rest =>
      have last : path.toList.getLast? = some char := by
        rw [← List.head?_reverse, ← reversed_eq, shape, List.head?_cons]
      have different : char ≠ '/' := by simpa [endsWithSlash, last] using continued
      simp [different]
  · simpa using plain_takeWhile reversed

/-- Dropping as many items as were taken leaves what comes after them. -/
theorem drop_length_takeWhile {α : Type} (holds : α → Bool) (items : List α) :
    items.drop (items.takeWhile holds).length = items.dropWhile holds := by
  calc
    items.drop (items.takeWhile holds).length =
        (items.takeWhile holds ++ items.dropWhile holds).drop (items.takeWhile holds).length := by
      rw [List.takeWhile_append_dropWhile]
    _ = items.dropWhile holds := List.drop_left

/-- What stands before the last component of a path is a front. -/
theorem isFront_parent (path : String) : IsFront (split path).parent := by
  rw [split, drop_length_takeWhile]
  exact isFront_dropWhile _

/-- The last component of a path holds no slash. -/
theorem plain_last (path : String) : '/' ∉ (split path).last := by
  intro mem
  exact plain_takeWhile _ (List.mem_reverse.1 mem)

/-- A text that does not hold the character at which taking stops is taken as a whole. -/
theorem takeWhile_append_of_notMem {stop : Char} {first second : List Char}
    (absent : stop ∉ first) :
    (first ++ second).takeWhile (· ≠ stop) = first ++ second.takeWhile (· ≠ stop) := by
  apply List.takeWhile_append_of_pos
  intro char mem
  have different : char ≠ stop := fun same => absent (same ▸ mem)
  simpa using different

/-- Nothing is ignored at the end of a path that ends neither with a slash nor with a dot behind
one. -/
theorem ignoredLength_eq_zero {reversed : List Char} (noSlash : reversed.head? ≠ some '/')
    (noDot : ∀ rest, reversed ≠ '.' :: '/' :: rest) : ignoredLength reversed = 0 := by
  unfold ignoredLength
  split
  · simp at noSlash
  · exact absurd rfl (noDot _)
  · rfl

/-- A path that ends in a name is split before it, unless the name is a dot, which is ignored. -/
theorem EndsIn.split_eq {path : String} {front name : List Char} (endsIn : EndsIn path front name)
    (ordinary : name ≠ ['.']) : split path = ⟨front, name, []⟩ := by
  have reversed : path.toList.reverse = name.reverse ++ front.reverse := by
    rw [endsIn.toList_eq, List.reverse_append]
  have taken : (name.reverse ++ front.reverse).takeWhile (· ≠ '/') = name.reverse := by
    have before : front.reverse.takeWhile (· ≠ '/') = [] := by
      rcases endsIn.isFront with rfl | ⟨before, rfl⟩ <;> simp
    rw [takeWhile_append_of_notMem (by simpa using endsIn.plain), before, List.append_nil]
  have none : ignoredLength (name.reverse ++ front.reverse) = 0 := by
    have plain : '/' ∉ name.reverse := by simpa using endsIn.plain
    have longer : name.reverse ≠ ['.'] := by simpa [List.reverse_eq_iff] using ordinary
    apply ignoredLength_eq_zero
    · have nonempty : name.reverse ≠ [] := by simpa using endsIn.nonempty
      rw [List.head?_append_of_ne_nil _ nonempty]
      exact fun slash => plain (List.mem_of_head? slash)
    · intro rest same
      rcases shape : name.reverse with _ | ⟨first, _ | ⟨second, more⟩⟩
      · exact endsIn.nonempty (List.reverse_eq_nil_iff.1 shape)
      · simp_all
      · simp_all
  simp only [split, reversed, none, List.drop_zero, taken, List.take_zero]
  simp

/-- The file name of a path that ends in a name is this name, unless it stands for a directory. -/
theorem EndsIn.fileName?_eq {path : String} {front name : List Char}
    (endsIn : EndsIn path front name) (ordinary : name ≠ ['.']) :
    fileName? path = if name = ['.', '.'] then none else some (String.ofList name) := by
  simp [fileName?, endsIn.split_eq ordinary, endsIn.nonempty, ordinary]

/-! ## Extensions -/

/-- A text that can follow the last dot of a name. -/
structure IsExtension (extension : String) : Prop where
  nonempty : extension ≠ ""
  noDot : '.' ∉ extension.toList
  noSlash : '/' ∉ extension.toList

/-- Every format has an extension. -/
theorem isExtension_format (format : OutputFormat) : IsExtension format.extension := by
  cases format <;> exact ⟨by decide, by decide, by decide⟩

/-- The extension of schemas can follow the last dot of a name. -/
theorem isExtension_schema : IsExtension Schema.fileExtension :=
  ⟨by decide, by decide, by decide⟩

/-- The stem of a name is not empty and holds only characters of the name. -/
theorem splitName_stem {name : List Char} (nonempty : name ≠ []) :
    (splitName name).1 ≠ [] ∧ (splitName name).1 ⊆ name := by
  unfold splitName
  extract_lets extension stem
  split
  · exact ⟨nonempty, List.Subset.refl _⟩
  · next kept =>
    exact ⟨by simpa using (not_or.1 kept).2, List.take_subset _ _⟩

/-- A name is cut at its last dot, if there is something before that dot. -/
theorem splitName_append {stem extension : List Char} (nonempty : stem ≠ [])
    (noDot : '.' ∉ extension) :
    splitName (stem ++ '.' :: extension) = (stem, some extension) := by
  have found : ((stem ++ '.' :: extension).reverse.takeWhile (· ≠ '.')).reverse = extension := by
    rw [List.reverse_append, List.reverse_cons, List.append_assoc,
      takeWhile_append_of_notMem (by simpa using noDot)]
    simp
  have kept : (stem ++ '.' :: extension).length - extension.length - 1 = stem.length := by
    rw [List.length_append, List.length_cons]
    omega
  have longer : extension.length ≠ (stem ++ '.' :: extension).length := by
    rw [List.length_append, List.length_cons]
    omega
  simp only [splitName, found, kept, List.take_left]
  exact if_neg (not_or.2 ⟨longer, by simpa using nonempty⟩)

/-- A dot at the start of a name does not count. -/
theorem splitName_of_notMem_tail {name : List Char} (noDot : '.' ∉ name.tail) :
    splitName name = (name, none) := by
  cases name with
  | nil => rfl
  | cons first rest =>
    have taken : (first :: rest).reverse.takeWhile (· ≠ '.') =
        rest.reverse ++ [first].takeWhile (· ≠ '.') := by
      rw [List.reverse_cons, takeWhile_append_of_notMem (by simpa using noDot)]
    unfold splitName
    rw [taken]
    by_cases dot : first = '.' <;> simp [dot]

/-- A name is cut at its last dot when it has one behind its first character. -/
theorem exists_splitName_of_mem_tail {name : List Char} (dot : '.' ∈ name.tail) :
    ∃ stem extension, stem ≠ [] ∧ '.' ∉ extension ∧ name = stem ++ '.' :: extension := by
  cases name with
  | nil => cases dot
  | cons first rest =>
    rw [List.tail_cons, ← List.mem_reverse] at dot
    obtain ⟨after, before, cut, absent⟩ := List.eq_append_cons_of_mem dot
    refine ⟨first :: before.reverse, after.reverse, List.cons_ne_nil _ _, by simpa using absent, ?_⟩
    rw [← List.reverse_reverse rest, cut]
    simp

/-- The name that a new extension makes of a stem.  A stem that is a dot becomes two dots. -/
def renamed (stem : List Char) (extension : String) : List Char :=
  if stem = ['.'] then ['.', '.'] else stem ++ '.' :: extension.toList

section Extension

variable {path : String} {front stem : List Char} {old extension : String}

/-- A new extension does not make a name empty. -/
theorem renamed_ne_nil (stem : List Char) (extension : String) : renamed stem extension ≠ [] := by
  unfold renamed
  split <;> simp

/-- A new extension adds itself and a dot to a stem, or less. -/
theorem length_renamed_le (nonempty : stem ≠ []) (extension : String) :
    (renamed stem extension).length ≤ stem.length + extension.toList.length + 1 := by
  have filled : 0 < stem.length := List.length_pos_iff.2 nonempty
  unfold renamed
  split
  · rw [List.length_cons, List.length_singleton]
    omega
  · rw [List.length_append, List.length_cons]
    omega

/-- A new extension brings no slash into a name. -/
theorem slash_notMem_renamed (plain : '/' ∉ stem) (isExtension : IsExtension extension) :
    '/' ∉ renamed stem extension := by
  unfold renamed
  split
  · decide
  · simp [plain, isExtension.noSlash]

/-- A stem with something behind a dot is no single dot. -/
theorem name_ne_dot {extension : List Char} (nonempty : stem ≠ []) :
    stem ++ '.' :: extension ≠ ['.'] := by
  cases stem with
  | nil => exact absurd rfl nonempty
  | cons char rest => simp

/-- A stem with an extension is not two dots. -/
theorem name_ne_dots (nonempty : stem ≠ []) (isExtension : IsExtension extension) :
    stem ++ '.' :: extension.toList ≠ ['.', '.'] := by
  intro same
  have length := congrArg List.length same
  have stemFilled : 0 < stem.length := List.length_pos_iff.2 nonempty
  have extensionFilled : 0 < extension.toList.length :=
    List.length_pos_iff.2 (mt String.toList_eq_nil_iff.1 isExtension.nonempty)
  simp only [List.length_append, List.length_cons, List.length_nil] at length
  omega

/-- A path whose name has a dot behind its first character gets another extension in place of what
follows the last dot. -/
theorem EndsIn.withExtension_of_dotted {old : List Char}
    (endsIn : EndsIn path front (stem ++ '.' :: old)) (nonempty : stem ≠ []) (noDot : '.' ∉ old)
    (named : stem ++ '.' :: old ≠ ['.', '.']) (isExtension : IsExtension extension) :
    withExtension path extension = String.ofList (front ++ renamed stem extension) := by
  have ordinary : stem ++ '.' :: old ≠ ['.'] := name_ne_dot nonempty
  have filled : extension.isEmpty = false := by simpa using isExtension.nonempty
  rw [withExtension, endsIn.fileName?_eq ordinary, endsIn.split_eq ordinary]
  simp only [splitName_append nonempty noDot, if_neg named, filled, renamed]
  by_cases dot : stem = ['.'] <;> simp [dot, String.ext_iff]

/-- A path with a stem and an extension gets another extension in place of the one that it has. -/
theorem EndsIn.withExtension_eq (endsIn : EndsIn path front (stem ++ '.' :: old.toList))
    (nonempty : stem ≠ []) (isOld : IsExtension old) (isExtension : IsExtension extension) :
    withExtension path extension = String.ofList (front ++ renamed stem extension) :=
  endsIn.withExtension_of_dotted nonempty isOld.noDot (name_ne_dots nonempty isOld) isExtension

/-- A path whose name has no dot behind its first character gets an extension behind this name. -/
theorem EndsIn.withExtension_of_plain {name : List Char} (endsIn : EndsIn path front name)
    (ordinary : name ≠ ['.']) (noDot : '.' ∉ name.tail) (isExtension : IsExtension extension) :
    withExtension path extension = path ++ "." ++ extension := by
  have named : name ≠ ['.', '.'] := by
    rintro rfl
    exact noDot List.mem_cons_self
  have filled : extension.isEmpty = false := by simpa using isExtension.nonempty
  rw [withExtension, endsIn.fileName?_eq ordinary, endsIn.split_eq ordinary]
  simp [splitName_of_notMem_tail noDot, if_neg named, filled, ← endsIn.toList_eq,
    String.append_assoc]

/-- What follows the stem of the file name of a path. -/
def extension? (path : String) : Option String :=
  (fileName? path).bind fun name => (splitName name.toList).2.map String.ofList

/-- The extension of a path is what follows the stem of its name. -/
theorem EndsIn.extension?_eq (endsIn : EndsIn path front (stem ++ '.' :: old.toList))
    (nonempty : stem ≠ []) (isOld : IsExtension old) : extension? path = some old := by
  rw [extension?, endsIn.fileName?_eq (name_ne_dot nonempty),
    if_neg (name_ne_dots nonempty isOld), Option.bind_some, String.toList_ofList,
    splitName_append nonempty isOld.noDot, Option.map_some, String.ofList_toList]

/-- A path with an extension that was given to it names no file, or ends in a stem followed by this
extension. -/
theorem withExtension_cases (path : String) (isExtension : IsExtension extension) :
    fileName? (withExtension path extension) = none ∨
      ∃ front stem, stem ≠ [] ∧ '/' ∉ stem ∧
        EndsIn (withExtension path extension) front (stem ++ '.' :: extension.toList) := by
  cases unnamed : (fileName? path).isNone with
  | true =>
    have unchanged : withExtension path extension = path := by simp [withExtension, unnamed]
    exact .inl (unchanged.symm ▸ Option.isNone_iff_eq_none.1 unnamed)
  | false =>
    have filled : (split path).last ≠ [] := by
      intro empty
      simp [fileName?, empty] at unnamed
    obtain ⟨nonempty, within⟩ := splitName_stem filled
    have plain : '/' ∉ (splitName (split path).last).1 := fun mem => plain_last path (within mem)
    have text : extension.isEmpty = false := by simpa using isExtension.nonempty
    have isFront := isFront_parent path
    by_cases dots : (splitName (split path).last).1 = ['.'] ∧
        (splitName (split path).last).2.isSome ∧ (split path).ignored = []
    · left
      have changed : withExtension path extension =
          String.ofList ((split path).parent ++ ['.', '.']) := by
        simp [withExtension, unnamed, dots]
      have endsIn : EndsIn (withExtension path extension) (split path).parent ['.', '.'] :=
        ⟨by rw [changed, String.toList_ofList], isFront, by decide, by decide⟩
      exact endsIn.fileName?_eq (by decide)
    · right
      refine ⟨(split path).parent, (splitName (split path).last).1, nonempty, plain, ?_, isFront,
        by simp, by simp [plain, isExtension.noSlash]⟩
      simp only [withExtension, unnamed, if_neg dots, text]
      simp

end Extension

/-! ## Directories -/

/-- What stands before a name inside a directory. -/
def frontOf (directory : String) : List Char :=
  if directory.isEmpty || endsWithSlash directory then directory.toList
  else directory.toList ++ ['/']

/-- A name can be put behind a directory. -/
theorem isFront_frontOf (directory : String) : IsFront (frontOf directory) := by
  unfold frontOf
  split
  · next ends =>
    rcases Bool.or_eq_true_iff.1 ends with empty | slash
    · exact .inl (String.toList_eq_nil_iff.2 (by simpa using empty))
    · obtain ⟨before, same⟩ := List.getLast?_eq_some_iff.1 (beq_iff_eq.1 slash)
      exact .inr ⟨before, same⟩
  · exact .inr ⟨_, rfl⟩

/-- Going into a directory adds no name to it. -/
theorem names_frontOf (directory : String) :
    names (frontOf directory) = names directory.toList := by
  unfold frontOf
  split
  · rfl
  · exact names_concat_slash _

/-- A file inside a directory has a path that ends in the name of the file. -/
theorem endsIn_join (directory : String) {name : List Char} (nonempty : name ≠ [])
    (plain : '/' ∉ name) :
    EndsIn (join directory (String.ofList name)) (frontOf directory) name := by
  refine ⟨?_, isFront_frontOf directory, nonempty, plain⟩
  have relative : isAbsolute (String.ofList name) = false := by
    have other : name.head? ≠ some '/' := fun slash => plain (List.mem_of_head? slash)
    simpa [isAbsolute] using other
  rw [join, relative, if_neg Bool.false_ne_true, frontOf]
  split <;> simp

/-- Going into a directory keeps the first character of its path. -/
theorem head?_frontOf {directory : String} (nonempty : directory.toList ≠ []) :
    (frontOf directory).head? = directory.toList.head? := by
  unfold frontOf
  split
  · rfl
  · exact List.head?_append_of_ne_nil _ nonempty

/-- The slashes and dots that are ignored at the end of a path add only dots to its names. -/
theorem names_ignored (reversed : List Char) :
    ∃ dots, names reversed.reverse =
      names (reversed.drop (ignoredLength reversed)).reverse ++ List.replicate dots "." := by
  fun_induction ignoredLength reversed with
  | case1 rest ih =>
    obtain ⟨dots, same⟩ := ih
    exact ⟨dots, by rw [List.reverse_cons, names_concat_slash, same, List.drop_succ_cons]⟩
  | case2 rest ih =>
    obtain ⟨dots, same⟩ := ih
    refine ⟨dots + 1, ?_⟩
    have dot : names ['.'] = ["."] := names_singleton (by decide) (by decide)
    rw [List.reverse_cons, List.reverse_cons, List.append_assoc, List.singleton_append, names_slash,
      dot, same, List.append_assoc, List.replicate_succ']
    rfl
  | case3 reversed _ _ => exact ⟨0, by simp⟩

/-- A path that is ignored as a whole starts with a slash. -/
theorem getLast?_of_ignored (reversed : List Char) (nonempty : reversed ≠ [])
    (ignored : reversed.drop (ignoredLength reversed) = []) : reversed.getLast? = some '/' := by
  fun_induction ignoredLength reversed with
  | case1 rest ih =>
    cases rest with
    | nil => rfl
    | cons char more => exact ih (by simp) ignored
  | case2 rest ih =>
    cases rest with
    | nil => rfl
    | cons char more => exact ih (by simp) ignored
  | case3 reversed _ _ => exact absurd ignored nonempty

/-- The directory of a path stands for what stands before the name of the path: it has the same
names, but for dots, and is absolute when the path is. -/
theorem EndsIn.front_parent {path : String} {front name : List Char}
    (endsIn : EndsIn path front name) (ordinary : name ≠ ['.']) :
    (∃ dots, names front = names (frontOf (parent path)) ++ List.replicate dots ".") ∧
      (frontOf (parent path)).head? = front.head? := by
  have parent_eq : parent path = String.ofList
      (if (front.reverse.drop (ignoredLength front.reverse)).isEmpty then front.reverse.take 1
        else (front.reverse.drop (ignoredLength front.reverse)).reverse) := by
    rw [parent, endsIn.split_eq ordinary]
  obtain ⟨dots, same⟩ := names_ignored front.reverse
  rw [List.reverse_reverse] at same
  rw [names_frontOf, parent_eq, String.toList_ofList]
  cases left : front.reverse.drop (ignoredLength front.reverse) with
  | nil =>
    rw [left] at same
    rcases endsIn.isFront with rfl | ⟨before, rfl⟩
    · exact ⟨⟨0, rfl⟩, rfl⟩
    · -- Nothing is left of a path such as `//./name`, whose directory is the root.
      have absolute := getLast?_of_ignored _ (by simp) left
      rw [List.getLast?_reverse] at absolute
      have root : names ['/'] = [] := names_concat_slash []
      refine ⟨⟨dots, ?_⟩, ?_⟩
      · simpa [root] using same
      · rw [absolute]
        simp [frontOf, endsWithSlash]
  | cons char rest =>
    have kept : front = (char :: rest).reverse ++
        (front.reverse.take (ignoredLength front.reverse)).reverse := by
      rw [← left, ← List.reverse_append, List.take_append_drop, List.reverse_reverse]
    refine ⟨⟨dots, ?_⟩, ?_⟩
    · simpa [left] using same
    · rw [head?_frontOf (by simp)]
      conv_rhs => rw [kept]
      simp

/-- The path of an output ends in the stem of the input, followed by the extension of the output. -/
theorem EndsIn.outputPath {path : String} {front stem : List Char} {old extension : String}
    (endsIn : EndsIn path front (stem ++ '.' :: old.toList)) (nonempty : stem ≠ [])
    (plain : '/' ∉ stem) (isOld : IsExtension old) (isExtension : IsExtension extension)
    (outDir : Option String) :
    EndsIn (CommandLine.outputPath path outDir extension) (frontOf (outDir.getD (parent path)))
      (renamed stem extension) := by
  have fileName := endsIn.fileName?_eq (name_ne_dot nonempty)
  rw [if_neg (name_ne_dots nonempty isOld)] at fileName
  have alone : EndsIn (String.ofList (stem ++ '.' :: old.toList)) []
      (stem ++ '.' :: old.toList) :=
    ⟨String.toList_ofList, .inl rfl, endsIn.nonempty, endsIn.plain⟩
  have file : withExtension (String.ofList (stem ++ '.' :: old.toList)) extension =
      String.ofList (renamed stem extension) := alone.withExtension_eq nonempty isOld isExtension
  have joined (directory : String) := endsIn_join directory (renamed_ne_nil stem extension)
    (slash_notMem_renamed plain isExtension)
  cases outDir with
  | some directory =>
    simp only [CommandLine.outputPath, fileName, Option.getD_some, file]
    exact joined directory
  | none =>
    simp only [CommandLine.outputPath, withFileName, fileName, Option.getD_some, file]
    exact joined (parent path)

end ErSchema.Path
