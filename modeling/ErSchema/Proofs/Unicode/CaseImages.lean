import ErSchema.Proofs.Name.Marks

/-!
# Case mappings applied to their own images

When a name is reduced a second time, the case mappings meet characters that they brought forth
themselves.  Two facts about the tables say what happens then: no image is mapped any further
(`upper_of_mem_upper`, `lower_of_mem_lower`), and the image of a letter begins with a letter
(`isAlphanumeric_of_upper_eq_cons`, `isAlphanumeric_of_lower_eq_cons`).  Here and below a letter is
an alphanumeric character.

Both are facts about two thousand code points.  A set of code points is written as one number with a
bit for each of them, so that two sets are compared by one operation on numbers.
-/

set_option autoImplicit false

namespace ErSchema.Unicode

/-! ## Sets of code points as numbers -/

/-- The number whose bits are set at the given code points. -/
def codeBits : List Nat → Nat
  | [] => 0
  | code :: rest => 1 <<< code ||| codeBits rest

/-- The number whose bits are set at the code points in a list of ranges. -/
def rangeBits : List CodeRange → Nat
  | [] => 0
  | range :: rest =>
    (1 <<< (range.last + 1 - range.first) - 1) <<< range.first ||| rangeBits rest

/-- A bit is set exactly for the code points of the list. -/
theorem testBit_codeBits {codes : List Nat} {code : Nat} :
    (codeBits codes).testBit code = true ↔ code ∈ codes := by
  induction codes with
  | nil => simp [codeBits]
  | cons first rest ih =>
    rw [codeBits, Nat.one_shiftLeft, Nat.testBit_or, Bool.or_eq_true, Nat.testBit_two_pow, ih,
      decide_eq_true_eq, List.mem_cons]
    exact or_congr_left eq_comm

/-- A bit is set exactly for the code points in one of the ranges. -/
theorem testBit_rangeBits {ranges : List CodeRange} {code : Nat} :
    (rangeBits ranges).testBit code = ranges.any (·.contains code) := by
  induction ranges with
  | nil => simp [rangeBits]
  | cons range rest ih =>
    rw [rangeBits, Nat.testBit_or, ih, List.any_cons, Nat.testBit_shiftLeft, Nat.one_shiftLeft,
      Nat.testBit_two_pow_sub_one, CodeRange.contains]
    congr 1
    rw [Bool.eq_iff_iff]
    simp only [Bool.and_eq_true, decide_eq_true_eq]
    omega

/-- A character is a letter when its bit is set in the number of the alphanumeric ranges. -/
theorem isAlphanumeric_iff_testBit (c : Char) :
    isAlphanumeric c = (rangeBits alphanumericRanges).testBit c.toNat := by
  rw [testBit_rangeBits, ← covers, alphanumericRanges, covers_append, covers_append, isAlphanumeric]

/-- Two lists without a common bit have no code point in common. -/
theorem notMem_of_and_eq_zero {first second : List Nat}
    (apart : codeBits first &&& codeBits second = 0) {code : Nat} (mem : code ∈ first) :
    code ∉ second := by
  intro mem'
  have bit := congrArg (·.testBit code) apart
  simp only [Nat.testBit_and, testBit_codeBits.2 mem, testBit_codeBits.2 mem', Nat.zero_testBit,
    Bool.and_true, Bool.true_eq_false] at bit

/-! ## What the tables map, and to what -/

/-- The code points that a range maps. -/
def ShiftedRange.sources (range : ShiftedRange) : List Nat :=
  (List.range ((range.last - range.first) / range.step + 1)).map (range.first + range.step * ·)

/-- The code points that a range maps something to. -/
def ShiftedRange.images (range : ShiftedRange) : List Nat :=
  (List.range ((range.last - range.first) / range.step + 1)).map (range.target + range.step * ·)

/-- The code points that a case mapping maps. -/
def sourceCodes (expansions : List (Nat × List Nat)) (ranges : List ShiftedRange) : List Nat :=
  expansions.map Prod.fst ++ ranges.flatMap ShiftedRange.sources

/-- The code points that a case mapping maps something to. -/
def imageCodes (expansions : List (Nat × List Nat)) (ranges : List ShiftedRange) : List Nat :=
  expansions.flatMap Prod.snd ++ ranges.flatMap ShiftedRange.images

/-- A code point that a range maps is one of its sources, and what it is mapped to is one of its
images. -/
theorem ShiftedRange.mem_of_image?_eq_some {range : ShiftedRange} {code image : Nat}
    (hit : range.image? code = some image) : code ∈ range.sources ∧ image ∈ range.images := by
  unfold image? at hit
  split at hit
  · next inside =>
    obtain ⟨fromFirst, toLast, aligned⟩ := inside
    have count : range.step * ((code - range.first) / range.step) = code - range.first :=
      Nat.mul_div_cancel' (Nat.dvd_of_mod_eq_zero aligned)
    have bounded : (code - range.first) / range.step <
        (range.last - range.first) / range.step + 1 := by
      apply Nat.lt_succ_of_le
      apply Nat.div_le_div_right
      omega
    cases hit
    rw [sources, images, List.mem_map, List.mem_map]
    exact ⟨⟨_, List.mem_range.2 bounded, by omega⟩, ⟨_, List.mem_range.2 bounded, by rw [count]⟩⟩
  · cases hit

/-- A code point that is no source stays as it is. -/
theorem shift_of_notMem {ranges : List ShiftedRange} {code : Nat}
    (unmapped : code ∉ ranges.flatMap ShiftedRange.sources) : shift ranges code = code := by
  have none : ranges.findSome? (·.image? code) = none := by
    rw [List.findSome?_eq_none_iff]
    intro range listed
    cases hit : range.image? code with
    | none => rfl
    | some image =>
      have source := (range.mem_of_image?_eq_some hit).1
      exact absurd (List.mem_flatMap.2 ⟨range, listed, source⟩) unmapped
  rw [shift, none, Option.getD_none]

/-- A code point stays as it is, or becomes an image of a range. -/
theorem shift_eq_or_mem (ranges : List ShiftedRange) (code : Nat) :
    shift ranges code = code ∨ shift ranges code ∈ ranges.flatMap ShiftedRange.images := by
  unfold shift
  cases found : ranges.findSome? (·.image? code) with
  | none => exact .inl rfl
  | some image =>
    obtain ⟨range, listed, hit⟩ := List.exists_of_findSome?_eq_some found
    have moved := (range.mem_of_image?_eq_some hit).2
    exact .inr (List.mem_flatMap.2 ⟨range, listed, moved⟩)

/-- A valid code point is that of the character made of it. -/
theorem toNat_ofNat_of_valid {code : Nat} (valid : code.isValidChar) :
    (Char.ofNat code).toNat = code :=
  congrArg Char.toNat (dif_pos valid)

section Mapping

variable {expansions : List (Nat × List Nat)} {ranges : List ShiftedRange}

/-- A character that no entry of a mapping has as its source stays as it is. -/
theorem mapCase_of_notMem {c : Char} (unmapped : c.toNat ∉ sourceCodes expansions ranges) :
    mapCase expansions ranges c = [c] := by
  rw [sourceCodes, List.mem_append, not_or] at unmapped
  have none : expansions.lookup c.toNat = none := by
    rw [List.lookup_eq_none_iff]
    intro entry listed
    rw [bne_iff_ne]
    exact fun same => unmapped.1 (same ▸ List.mem_map_of_mem listed)
  simp only [mapCase, none, shift_of_notMem unmapped.2, Char.ofNat_toNat]

/-- A character is mapped to itself alone, or else to images of the table. -/
theorem mapCase_eq_self_or_mem (valid : ∀ code ∈ imageCodes expansions ranges, code.isValidChar)
    (c : Char) : mapCase expansions ranges c = [c] ∨
      ∀ image ∈ mapCase expansions ranges c, image.toNat ∈ imageCodes expansions ranges := by
  have denotes : ∀ code ∈ imageCodes expansions ranges,
      (Char.ofNat code).toNat ∈ imageCodes expansions ranges := by
    intro code mem
    rwa [toNat_ofNat_of_valid (valid code mem)]
  unfold mapCase
  cases found : expansions.lookup c.toNat with
  | some codes =>
    right
    intro image mem
    obtain ⟨code, listed, rfl⟩ := List.mem_map.1 mem
    obtain ⟨before, after, split, -⟩ := List.lookup_eq_some_iff.1 found
    apply denotes
    apply List.mem_append_left
    exact List.mem_flatMap.2 ⟨(c.toNat, codes), by simp [split], listed⟩
  | none =>
    rcases shift_eq_or_mem ranges c.toNat with same | moved
    · left
      simp only [same, Char.ofNat_toNat]
    · right
      intro image mem
      rw [List.mem_singleton.1 mem]
      exact denotes _ (List.mem_append_right _ moved)

/-- When no image of a mapping is one of its sources, a second mapping leaves the images as they
are. -/
theorem mapCase_of_mem_mapCase (valid : ∀ code ∈ imageCodes expansions ranges, code.isValidChar)
    (apart : codeBits (imageCodes expansions ranges) &&&
      codeBits (sourceCodes expansions ranges) = 0)
    {c image : Char} (mem : image ∈ mapCase expansions ranges c) :
    mapCase expansions ranges image = [image] := by
  rcases mapCase_eq_self_or_mem valid c with same | images
  · rw [same, List.mem_singleton] at mem
    rw [mem, same]
  · apply mapCase_of_notMem
    exact notMem_of_and_eq_zero apart (images image mem)

/-- When the first images of a table are letters, letters have images that begin with a letter. -/
theorem isAlphanumeric_of_mapCase_eq_cons
    (valid : ∀ code ∈ imageCodes expansions ranges, code.isValidChar)
    (inside : codeBits (expansions.filterMap (·.2.head?) ++ ranges.flatMap ShiftedRange.images) |||
      rangeBits alphanumericRanges = rangeBits alphanumericRanges)
    {c first : Char} {rest : List Char} (letter : isAlphanumeric c = true)
    (same : mapCase expansions ranges c = first :: rest) : isAlphanumeric first = true := by
  have letters : ∀ code ∈ expansions.filterMap (·.2.head?) ++ ranges.flatMap ShiftedRange.images,
      isAlphanumeric (Char.ofNat code) = true := by
    intro code mem
    have listed : code ∈ imageCodes expansions ranges := by
      rcases List.mem_append.1 mem with head | moved
      · obtain ⟨entry, listed, head⟩ := List.mem_filterMap.1 head
        apply List.mem_append_left
        exact List.mem_flatMap.2 ⟨entry, listed, List.mem_of_mem_head? head⟩
      · exact List.mem_append_right _ moved
    have bit := congrArg (·.testBit code) inside
    simp only [Nat.testBit_or, testBit_codeBits.2 mem, Bool.true_or] at bit
    rw [isAlphanumeric_iff_testBit, toNat_ofNat_of_valid (valid code listed), ← bit]
  unfold mapCase at same
  cases found : expansions.lookup c.toNat with
  | some codes =>
    rw [found] at same
    obtain ⟨code, codes', rfl, rfl, -⟩ := List.map_eq_cons_iff.1 same
    obtain ⟨before, after, split, -⟩ := List.lookup_eq_some_iff.1 found
    apply letters
    apply List.mem_append_left
    exact List.mem_filterMap.2 ⟨(c.toNat, code :: codes'), by simp [split], rfl⟩
  | none =>
    rw [found, List.cons.injEq] at same
    rw [← same.1]
    rcases shift_eq_or_mem ranges c.toNat with still | moved
    · rwa [still, Char.ofNat_toNat]
    · exact letters _ (List.mem_append_right _ moved)

end Mapping

/-! ## Upper case -/

/-- The upper cases in the table consist of valid code points. -/
theorem valid_imageCodes_upper :
    ∀ code ∈ imageCodes upperExpansions upperRanges, code.isValidChar := by decide +kernel

/-- The characters of an upper case are their own upper case. -/
theorem upper_of_mem_upper {c image : Char} (mem : image ∈ upper c) : upper image = [image] :=
  mapCase_of_mem_mapCase valid_imageCodes_upper (by decide +kernel) mem

/-- The upper case of a letter starts with a letter. -/
theorem isAlphanumeric_of_upper_eq_cons {c first : Char} {rest : List Char}
    (letter : isAlphanumeric c = true) (same : upper c = first :: rest) :
    isAlphanumeric first = true :=
  isAlphanumeric_of_mapCase_eq_cons valid_imageCodes_upper (by decide +kernel) letter same

/-! ## Lower case -/

/-- The lower cases in the table consist of valid code points. -/
theorem valid_imageCodes_lower :
    ∀ code ∈ imageCodes lowerExpansions lowerRanges, code.isValidChar := by decide +kernel

/-- The characters of a lower case are their own lower case. -/
theorem lower_of_mem_lower {c image : Char} (mem : image ∈ lower c) : lower image = [image] :=
  mapCase_of_mem_mapCase valid_imageCodes_lower (by decide +kernel) mem

/-- The capital i with a dot above, the one character with several characters as its lower case. -/
def dottedCapital : Char := '\u0130'

/-- Every character but the dotted capital has a lower case of one character. -/
theorem exists_lower_eq_singleton {c : Char} (plain : c ≠ dottedCapital) :
    ∃ image, lower c = [image] := by
  have none : lowerExpansions.lookup c.toNat = none := by
    rw [List.lookup_eq_none_iff]
    intro entry listed
    rw [List.mem_singleton.1 listed, bne_iff_ne]
    intro same
    apply plain
    rw [← Char.ofNat_toNat c, same]
    rfl
  rw [lower, mapCase, none]
  exact ⟨_, rfl⟩

/-- The lower case of a letter starts with a letter. -/
theorem isAlphanumeric_of_lower_eq_cons {c first : Char} {rest : List Char}
    (letter : isAlphanumeric c = true) (same : lower c = first :: rest) :
    isAlphanumeric first = true :=
  isAlphanumeric_of_mapCase_eq_cons valid_imageCodes_lower (by decide +kernel) letter same

/-! ## Capitals of several characters -/

/-- The letter whose upper case goes on with a modifier letter, which has no lower case. -/
def halfRingLetter : Char := '\u1E9A'

/-- The capitals with which the upper case of a letter goes on. -/
def laterCapitals : List Nat :=
  [0x46, 0x49, 0x4C, 0x4E, 0x53, 0x54, 0x399, 0x535, 0x53B, 0x53D, 0x546, 0x552]

/-- The combining marks with which the upper case of a letter goes on. -/
def laterMarks : List Nat :=
  [0x300, 0x301, 0x308, 0x30A, 0x30C, 0x313, 0x331, 0x342]

/-- An upper case of several characters goes on with a capital or with a combining mark, and so with
something that has a lower case or that is dropped. -/
theorem exists_unsettled_of_upper_eq_cons {c first : Char} {rest : List Char}
    (same : upper c = first :: rest) (several : rest ≠ []) (other : c ≠ halfRingLetter) :
    ∃ image ∈ rest, lower image ≠ [image] ∨ isAlphanumeric image = false := by
  have goesOn : ∀ entry ∈ upperExpansions, entry.1 = halfRingLetter.toNat ∨
      ∃ code ∈ entry.2.tail, code ∈ laterCapitals ∨ code ∈ laterMarks := by decide +kernel
  have capitals : ∀ code ∈ laterCapitals, lower (Char.ofNat code) ≠ [Char.ofNat code] := by
    decide +kernel
  have marks : ∀ code ∈ laterMarks, isAlphanumeric (Char.ofNat code) = false := by decide +kernel
  unfold upper mapCase at same
  cases found : upperExpansions.lookup c.toNat with
  | none =>
    rw [found, List.cons.injEq] at same
    exact absurd same.2.symm several
  | some codes =>
    rw [found] at same
    obtain ⟨code, codes', rfl, -, rfl⟩ := List.map_eq_cons_iff.1 same
    obtain ⟨before, after, split, -⟩ := List.lookup_eq_some_iff.1 found
    rcases goesOn (c.toNat, code :: codes') (by simp [split]) with ring | ⟨later, listed, kind⟩
    · have here : c = halfRingLetter := by
        rw [← Char.ofNat_toNat c, ← Char.ofNat_toNat halfRingLetter, ← ring]
      exact absurd here other
    · refine ⟨_, List.mem_map_of_mem listed, ?_⟩
      exact kind.imp (capitals later) (marks later)

end ErSchema.Unicode
