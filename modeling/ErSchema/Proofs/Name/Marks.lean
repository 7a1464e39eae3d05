import ErSchema.Name
import Mathlib.Data.List.Chain

/-!
# Marks

The identifier of a node is put together from names.  A small `a` after an underscore marks that the
name of an attribute follows, and a small `s` after an underscore that the number of a circle does.
A text can be cut at its marks because names hold none: capital letters are never `a` or `s`, and in
the name of an attribute the letter after an underscore is a capital.

That a capital is never one of these letters is a fact about the case mappings.  It is read off the
tables once: no entry of a table leads to the letter (`avoids`), so only the letter itself could
have it in its image.
-/

set_option autoImplicit false

namespace ErSchema

namespace Unicode

/-! ## Characters that a case mapping does not reach -/

/-- Whether a code point lies between the first and the last image of a range. -/
def ShiftedRange.spans (range : ShiftedRange) (code : Nat) : Bool :=
  range.target ≤ code && code ≤ range.target + (range.last - range.first)

/-- Whether no entry of a case mapping leads to a code point. -/
def avoids (expansions : List (Nat × List Nat)) (ranges : List ShiftedRange) (code : Nat) : Bool :=
  expansions.all (fun entry => !entry.2.contains code) &&
    ranges.all (fun range => !range.spans code)

/-- Only a character other than the first code point is the image of a single code point. -/
theorem eq_toNat_of_ofNat_eq {code : Nat} {c : Char} (visible : c.toNat ≠ 0)
    (same : Char.ofNat code = c) : code = c.toNat := by
  subst same
  by_cases valid : code.isValidChar
  · have image : Char.ofNat code = Char.ofNatAux code valid := dif_pos valid
    exact (congrArg Char.toNat image).symm
  · have image : (Char.ofNat code).toNat = 0 := congrArg Char.toNat (dif_neg valid)
    exact absurd image visible

/-- A code point that no range leads to is the image of itself alone. -/
theorem eq_of_shift_eq {ranges : List ShiftedRange} {code image : Nat}
    (unreached : ∀ range ∈ ranges, range.spans image = false) (same : shift ranges code = image) :
    code = image := by
  unfold shift at same
  cases found : ranges.findSome? (·.image? code) with
  | none => simpa [found] using same
  | some moved =>
    obtain ⟨range, mem, hit⟩ := List.exists_of_findSome?_eq_some found
    have apart := unreached range mem
    rw [found, Option.getD_some] at same
    unfold ShiftedRange.image? at hit
    split at hit
    · next inside =>
      have moved_eq : range.target + (code - range.first) = moved := Option.some.inj hit
      simp only [ShiftedRange.spans, Bool.and_eq_false_iff, decide_eq_false_iff_not] at apart
      omega
    · cases hit

/-- A character that no entry of a case mapping leads to is in the image of itself alone. -/
theorem eq_of_mem_mapCase {expansions : List (Nat × List Nat)} {ranges : List ShiftedRange}
    {c image : Char} (visible : image.toNat ≠ 0)
    (unreached : avoids expansions ranges image.toNat = true)
    (mem : image ∈ mapCase expansions ranges c) : c = image := by
  simp only [avoids, Bool.and_eq_true, List.all_eq_true, Bool.not_eq_true'] at unreached
  unfold mapCase at mem
  cases found : expansions.lookup c.toNat with
  | some codes =>
    rw [found] at mem
    obtain ⟨code, listed, same⟩ := List.mem_map.1 mem
    have code_eq := eq_toNat_of_ofNat_eq visible same
    obtain ⟨before, after, split, -⟩ := List.lookup_eq_some_iff.1 found
    have entry : (c.toNat, codes) ∈ expansions := by simp [split]
    have absent := unreached.1 _ entry
    rw [← code_eq] at absent
    simp [listed] at absent
  | none =>
    rw [found] at mem
    have shifted := eq_toNat_of_ofNat_eq visible (List.mem_singleton.1 mem).symm
    have code_eq := eq_of_shift_eq unreached.2 shifted
    rw [← Char.ofNat_toNat c, code_eq, Char.ofNat_toNat]

/-- No character is mapped to nothing. -/
theorem mapCase_ne_nil {expansions : List (Nat × List Nat)}
    (full : ∀ entry ∈ expansions, entry.2 ≠ []) (ranges : List ShiftedRange) (c : Char) :
    mapCase expansions ranges c ≠ [] := by
  unfold mapCase
  cases found : expansions.lookup c.toNat with
  | some codes =>
    obtain ⟨before, after, split, -⟩ := List.lookup_eq_some_iff.1 found
    have entry : (c.toNat, codes) ∈ expansions := by simp [split]
    simpa using full _ entry
  | none => simp

/-- Every character has an upper case. -/
theorem upper_ne_nil (c : Char) : upper c ≠ [] :=
  mapCase_ne_nil (by decide) upperRanges c

/-- Every character has a lower case. -/
theorem lower_ne_nil (c : Char) : lower c ≠ [] :=
  mapCase_ne_nil (by decide) lowerRanges c

/-- What is neither a letter nor a number is not in the image of one under a case mapping whose
tables do not lead to it. -/
theorem notMem_mapCase {expansions : List (Nat × List Nat)} {ranges : List ShiftedRange}
    {c image : Char} (letter : isAlphanumeric c = true) (visible : image.toNat ≠ 0)
    (unreached : avoids expansions ranges image.toNat = true)
    (other : isAlphanumeric image = false) : image ∉ mapCase expansions ranges c := by
  intro mem
  obtain rfl := eq_of_mem_mapCase visible unreached mem
  rw [letter] at other
  cases other

/-- The underscore is no letter. -/
theorem isAlphanumeric_underscore : isAlphanumeric '_' = false := by decide +kernel

/-- A character that the case mappings of letters do not lead to: it is no letter itself, and the
tables do not lead to it. -/
structure Unreached (image : Char) : Prop where
  visible : image.toNat ≠ 0
  upper : avoids upperExpansions upperRanges image.toNat = true
  lower : avoids lowerExpansions lowerRanges image.toNat = true
  other : isAlphanumeric image = false

/-- No letter has an underscore in its upper or lower case. -/
theorem unreached_underscore : Unreached '_' :=
  ⟨by decide, by decide, by decide, isAlphanumeric_underscore⟩

/-- No letter has a carriage return in its upper or lower case. -/
theorem unreached_return : Unreached '\r' :=
  ⟨by decide, by decide, by decide, by decide +kernel⟩

/-- No letter has a newline in its upper or lower case. -/
theorem unreached_newline : Unreached '\n' :=
  ⟨by decide, by decide, by decide, by decide +kernel⟩

section Unreached

variable {c image : Char} (unreached : Unreached image) (letter : isAlphanumeric c = true)

include unreached letter

/-- A character that is not reached stands in no upper case of a letter. -/
theorem Unreached.notMem_upper : image ∉ Unicode.upper c :=
  notMem_mapCase letter unreached.visible unreached.upper unreached.other

/-- A character that is not reached stands in no lower case of a letter. -/
theorem Unreached.notMem_lower : image ∉ Unicode.lower c :=
  notMem_mapCase letter unreached.visible unreached.lower unreached.other

end Unreached

end Unicode

namespace Name

open Unicode

/-- Whether a character is a mark when it stands after an underscore. -/
def isMark (c : Char) : Bool :=
  c = 'a' || c = 's'

/-- A capital is not a letter of a mark, because both letters have capitals of their own. -/
theorem isMark_eq_false_of_mem_upper {c image : Char} (mem : image ∈ upper c) :
    isMark image = false := by
  rw [Bool.eq_false_iff]
  intro mark
  simp only [isMark, Bool.or_eq_true, decide_eq_true_eq] at mark
  rcases mark with rfl | rfl
  · obtain rfl := eq_of_mem_mapCase (by decide) (by decide) mem
    exact absurd mem (by decide)
  · obtain rfl := eq_of_mem_mapCase (by decide) (by decide) mem
    exact absurd mem (by decide)

/-- A text without marks: after no underscore comes a letter of a mark. -/
def Unmarked (text : List Char) : Prop :=
  text.IsChain fun first second => ¬ (first = '_' ∧ isMark second = true)

/-- Characters that are no underscores may be put before a text without marks. -/
theorem Unmarked.append {before text : List Char} (none : '_' ∉ before) (unmarked : Unmarked text) :
    Unmarked (before ++ text) := by
  induction before with
  | nil => exact unmarked
  | cons c rest ih =>
    simp only [List.mem_cons, not_or] at none
    refine List.isChain_cons.2 ⟨?_, ih none.2⟩
    rintro next - ⟨rfl, -⟩
    exact none.1 rfl

/-- A text without the letters of marks has no marks. -/
theorem unmarked_of_forall {text : List Char} (none : ∀ c ∈ text, isMark c = false) :
    Unmarked text := by
  induction text with
  | nil => exact .nil
  | cons c rest ih =>
    simp only [List.mem_cons, forall_eq_or_imp] at none
    refine List.isChain_cons.2 ⟨?_, ih none.2⟩
    rintro next head ⟨-, mark⟩
    rw [none.2 next (List.mem_of_mem_head? head)] at mark
    cases mark

/-! ## Names of entities -/

/-- The name of an entity consists of capitals of letters and of underscores. -/
theorem mem_ofEntity {text : String} {c : Char} (mem : c ∈ (ofEntity text).toList) :
    (∃ letter, isAlphanumeric letter = true ∧ c ∈ upper letter) ∨ c = '_' := by
  simp only [ofEntity, String.toList_ofList, List.mem_flatMap] at mem
  obtain ⟨source, -, mem⟩ := mem
  unfold entityChar at mem
  split at mem
  · next letter => exact .inl ⟨source, letter, mem⟩
  · split at mem
    · exact .inr (List.mem_singleton.1 mem)
    · cases mem

/-- The name of an entity has no letter of a mark at all. -/
theorem isMark_eq_false_of_mem_ofEntity {text : String} {c : Char}
    (mem : c ∈ (ofEntity text).toList) : isMark c = false := by
  rcases mem_ofEntity mem with ⟨letter, -, mem⟩ | rfl
  · exact isMark_eq_false_of_mem_upper mem
  · rfl

/-! ## Names of attributes -/

/-- The name of an attribute consists of forms of letters and of underscores. -/
theorem mem_attributeChars {atStart : Bool} {text : List Char} {c : Char}
    (mem : c ∈ attributeChars atStart text) :
    (∃ letter, isAlphanumeric letter = true ∧ (c ∈ upper letter ∨ c ∈ lower letter)) ∨ c = '_' := by
  fun_induction attributeChars atStart text with
  | case1 => cases mem
  | case2 atStart source rest letter ih =>
    rcases List.mem_append.1 mem with mem | mem
    · refine .inl ⟨source, letter, ?_⟩
      split at mem
      · exact .inl mem
      · exact .inr mem
    · exact ih mem
  | case3 atStart source rest _ _ ih =>
    rcases List.mem_cons.1 mem with rfl | mem
    · exact .inr rfl
    · exact ih mem
  | case4 atStart source rest _ _ ih => exact ih mem

/-- The name of an attribute has no marks, and it may follow an underscore when it begins a word. -/
theorem unmarked_attributeChars (text : List Char) :
    Unmarked (attributeChars false text) ∧ Unmarked ('_' :: attributeChars true text) := by
  induction text with
  | nil => exact ⟨.nil, .singleton _⟩
  | cons c rest ih =>
    unfold attributeChars
    by_cases letter : isAlphanumeric c = true
    · -- letters bring no underscore, and after an underscore the first letter is a capital
      have unscored := unreached_underscore.notMem_upper letter
      have unscored' := unreached_underscore.notMem_lower letter
      simp only [letter, if_true, Bool.false_eq_true, if_false]
      refine ⟨ih.1.append unscored', List.isChain_cons.2 ⟨?_, ih.1.append unscored⟩⟩
      rintro next head ⟨-, mark⟩
      rw [List.head?_append_of_ne_nil _ (upper_ne_nil c)] at head
      rw [isMark_eq_false_of_mem_upper (List.mem_of_mem_head? head)] at mark
      cases mark
    · by_cases separator : isSeparator c = true
      · simp only [letter, separator, if_true, Bool.false_eq_true, if_false]
        refine ⟨ih.2, List.isChain_cons.2 ⟨?_, ih.2⟩⟩
        rintro next head ⟨-, mark⟩
        obtain rfl : '_' = next := by simpa using head
        cases mark
      · simpa only [letter, separator, Bool.false_eq_true, if_false] using ih

/-! ## Names in a diagram -/

/-- Letters do not lead to it, so a character is in the name of an entity only if it is an
underscore. -/
theorem notMem_ofEntity {c : Char} (unreached : Unreached c) (unscored : c ≠ '_') (text : String) :
    c ∉ (ofEntity text).toList := by
  intro mem
  rcases mem_ofEntity mem with ⟨letter, alphanumeric, mem⟩ | same
  · exact unreached.notMem_upper alphanumeric mem
  · exact unscored same

/-- A character that is not reached stands in no name of an attribute, unless it is the underscore.
-/
theorem notMem_ofAttribute {c : Char} (unreached : Unreached c) (unscored : c ≠ '_')
    (text : String) : c ∉ (ofAttribute text).toList := by
  intro mem
  rw [ofAttribute, String.toList_ofList] at mem
  rcases mem_attributeChars mem with ⟨letter, alphanumeric, mem | mem⟩ | same
  · exact unreached.notMem_upper alphanumeric mem
  · exact unreached.notMem_lower alphanumeric mem
  · exact unscored same

/-- What diagrams need of a name: that identifiers can be cut at their marks, and that the name can
be read back. -/
structure Plain (name : String) : Prop where
  unmarked : Unmarked name.toList
  noReturn : '\r' ∉ name.toList

/-- The names of entities are plain, whatever text they are made of. -/
theorem plain_ofEntity (text : String) : Plain (ofEntity text) where
  unmarked := unmarked_of_forall fun _ mem => isMark_eq_false_of_mem_ofEntity mem
  noReturn := notMem_ofEntity unreached_return (by decide) text

/-- So are the names of attributes. -/
theorem plain_ofAttribute (text : String) : Plain (ofAttribute text) where
  unmarked := by
    rw [ofAttribute, String.toList_ofList]
    exact (List.isChain_cons.1 (unmarked_attributeChars text.toList).2).2
  noReturn := notMem_ofAttribute unreached_return (by decide) text

end Name

end ErSchema
