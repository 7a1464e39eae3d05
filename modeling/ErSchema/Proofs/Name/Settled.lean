import ErSchema.Model.Construction
import ErSchema.Proofs.Lookup
import ErSchema.Proofs.Unicode.CaseImages

/-!
# Names that are reduced a second time

A name is settled when reducing it again changes nothing.  Most texts are reduced to settled names,
but not all: the case mappings bring forth combining marks, which are dropped the second time, and
capitals of several characters, of which all but the first become small letters the second time.

`settled_iff` says for which texts this happens, by a condition on the letters of the text one by
one, and that an entity is found under its own name exactly when that name is settled.
-/

set_option autoImplicit false

namespace ErSchema.Name

open Unicode

/-! ## Letters and separators -/

/-- Whether a character is in the alphabet that names are reduced to. -/
def isSafe (c : Char) : Bool :=
  isAlphanumeric c || c = '_'

/-- A space is no letter, so it separates words and nothing else. -/
theorem isAlphanumeric_space : isAlphanumeric ' ' = false := by decide +kernel

/-- The separators are the space and the underscore. -/
theorem isSeparator_eq_true_iff {c : Char} : isSeparator c = true ↔ c = ' ' ∨ c = '_' := by
  simp [isSeparator]

/-- A letter does not separate words. -/
theorem isSeparator_eq_false_of_letter {c : Char} (letter : isAlphanumeric c = true) :
    isSeparator c = false := by
  rw [Bool.eq_false_iff, Ne, isSeparator_eq_true_iff]
  rintro (rfl | rfl)
  · rw [isAlphanumeric_space] at letter
    cases letter
  · rw [isAlphanumeric_underscore] at letter
    cases letter

/-- A case mapping that leads neither to the space nor to the underscore makes no separator of a
letter. -/
theorem isSeparator_eq_false_of_mem_mapCase {expansions : List (Nat × List Nat)}
    {ranges : List ShiftedRange} (space : avoids expansions ranges ' '.toNat = true)
    (underscore : avoids expansions ranges '_'.toNat = true) {c image : Char}
    (letter : isAlphanumeric c = true) (mem : image ∈ mapCase expansions ranges c) :
    isSeparator image = false := by
  rw [Bool.eq_false_iff, Ne, isSeparator_eq_true_iff]
  rintro (rfl | rfl)
  · exact notMem_mapCase letter (by decide) space isAlphanumeric_space mem
  · exact notMem_mapCase letter (by decide) underscore isAlphanumeric_underscore mem

/-- The upper case of a letter holds no separator. -/
theorem isSeparator_eq_false_of_mem_upper {c image : Char} (letter : isAlphanumeric c = true)
    (mem : image ∈ upper c) : isSeparator image = false :=
  isSeparator_eq_false_of_mem_mapCase (by decide) (by decide) letter mem

/-- The lower case of a letter holds no separator. -/
theorem isSeparator_eq_false_of_mem_lower {c image : Char} (letter : isAlphanumeric c = true)
    (mem : image ∈ lower c) : isSeparator image = false :=
  isSeparator_eq_false_of_mem_mapCase (by decide) (by decide) letter mem

/-- Of the characters that do not separate words, the letters are safe. -/
theorem isSafe_eq_of_not_separator {c : Char} (other : isSeparator c = false) :
    isSafe c = isAlphanumeric c := by
  have underscore : c ≠ '_' := by
    rintro rfl
    cases other
  simp [isSafe, underscore]

/-! ## Names of entities -/

/-- Whether no letter of a text has a capital with something in it that a name drops. -/
def CapitalsSafe (text : List Char) : Prop :=
  ∀ c ∈ text, isAlphanumeric c = true → ∀ image ∈ upper c, isAlphanumeric image = true

/-- A capital that is normalized again loses what is not safe in it and nothing else. -/
theorem flatMap_entityChar_upper {c : Char} (letter : isAlphanumeric c = true) :
    (upper c).flatMap entityChar = (upper c).filter isSafe := by
  have each : ∀ image ∈ upper c, entityChar image = if isSafe image then [image] else [] := by
    intro image mem
    have other := isSeparator_eq_false_of_mem_upper letter mem
    rw [isSafe_eq_of_not_separator other, entityChar, upper_of_mem_upper mem, other]
    rfl
  rw [List.flatMap_congr each]
  induction upper c with
  | nil => rfl
  | cons first rest ih =>
    rw [List.flatMap_cons, ih, List.filter_cons]
    split <;> rfl

/-- What one character contributes to the name of an entity is changed by a second normalization
only where it is not safe. -/
theorem flatMap_entityChar_entityChar (c : Char) :
    (entityChar c).flatMap entityChar = (entityChar c).filter isSafe := by
  by_cases letter : isAlphanumeric c = true
  · rw [entityChar, if_pos letter]
    exact flatMap_entityChar_upper letter
  · rw [entityChar, if_neg letter]
    split
    · decide +kernel
    · rfl

/-- Reducing the name of an entity again drops from it what is not in the alphabet of names. -/
theorem ofEntity_ofEntity (text : String) :
    ofEntity (ofEntity text) = String.ofList ((ofEntity text).toList.filter isSafe) := by
  simp only [ofEntity, String.toList_ofList, List.flatMap_assoc, List.filter_flatMap,
    flatMap_entityChar_entityChar]

/-- The name of an entity is settled exactly when all its characters are safe. -/
theorem ofEntity_ofEntity_iff {text : String} :
    ofEntity (ofEntity text) = ofEntity text ↔ ∀ c ∈ (ofEntity text).toList, isSafe c = true := by
  rw [ofEntity_ofEntity, ← String.toList_inj, String.toList_ofList, List.filter_eq_self]

/-- The name made of a text is safe exactly when the capitals of the letters in the text are. -/
theorem forall_isSafe_ofEntity_iff {text : String} :
    (∀ c ∈ (ofEntity text).toList, isSafe c = true) ↔ CapitalsSafe text.toList := by
  simp only [ofEntity, String.toList_ofList, List.mem_flatMap, forall_exists_index, and_imp]
  constructor
  · intro safe c listed letter image mem
    rw [← isSafe_eq_of_not_separator (isSeparator_eq_false_of_mem_upper letter mem)]
    exact safe image c listed (by rwa [entityChar, if_pos letter])
  · intro capitals image c listed mem
    by_cases letter : isAlphanumeric c = true
    · rw [entityChar, if_pos letter] at mem
      simp [isSafe, capitals c listed letter image mem]
    · rw [entityChar, if_neg letter] at mem
      split at mem
      · simp [isSafe, List.mem_singleton.1 mem]
      · cases mem

/-- A known entity is found under its own name exactly when a second normalization leaves this name
as it is. -/
theorem entityId?_own_name_iff {model : Model} {id : EntityId} {entity : Entity}
    (known : model.entity? id = some entity) :
    (∃ found other, model.entityId? entity.name = some found ∧ model.entity? found = some other ∧
      other.name = entity.name) ↔ ofEntity entity.name = entity.name := by
  constructor
  · rintro ⟨found, other, looked, here, same⟩
    obtain ⟨other', here', name⟩ := Model.exists_entity?_of_entityId? looked
    rw [here] at here'
    cases here'
    rw [← name, same]
  · intro settled
    cases looked : model.entityId? entity.name with
    | none =>
      have listed : entity ∈ model.entities := List.mem_of_getElem? known
      exact absurd settled.symm (Model.entityId?_eq_none_iff.1 looked entity listed)
    | some found =>
      obtain ⟨other, here, name⟩ := Model.exists_entity?_of_entityId? looked
      exact ⟨found, other, rfl, here, name.trans settled⟩

/-! ## Where words begin -/

/-- Whether a character is kept in a name in some form. -/
def isKept (c : Char) : Bool :=
  isAlphanumeric c || isSeparator c

/-- Whether a word begins behind a character; a dropped one changes nothing. -/
def startsAfter (atStart : Bool) (c : Char) : Bool :=
  if isKept c then isSeparator c else atStart

/-- Whether a word begins behind a text: the last kept character, if there is one, separates. -/
def beginsWord (atStart : Bool) (before : List Char) : Bool :=
  ((before.filter isKept).getLast?.map isSeparator).getD atStart

/-- Whether all letters of a text, each with whether it begins a word, have a property. -/
def EachLetter (holds : Bool → Char → Prop) (atStart : Bool) (text : List Char) : Prop :=
  ∀ before c after, text = before ++ c :: after → isAlphanumeric c = true →
    holds (beginsWord atStart before) c

/-- Whether a word begins behind a text can be followed from its first character on. -/
theorem beginsWord_cons (atStart : Bool) (c : Char) (rest : List Char) :
    beginsWord atStart (c :: rest) = beginsWord (startsAfter atStart c) rest := by
  unfold beginsWord startsAfter
  by_cases kept : isKept c = true
  · rw [List.filter_cons_of_pos kept, List.getLast?_cons, if_pos kept]
    cases (rest.filter isKept).getLast? <;> rfl
  · rw [List.filter_cons_of_neg kept, if_neg kept]

/-- Behind a text without separators no word begins that was not due before. -/
theorem beginsWord_false {text : List Char} (joined : ∀ c ∈ text, isSeparator c = false) :
    beginsWord false text = false := by
  unfold beginsWord
  cases last : (text.filter isKept).getLast? with
  | none => rfl
  | some c => exact joined c (List.mem_of_mem_filter (List.mem_of_getLast? last))

/-- A text without characters has no letter that could lack a property. -/
theorem eachLetter_nil (holds : Bool → Char → Prop) (atStart : Bool) :
    EachLetter holds atStart [] := by
  intro before c after split
  simp at split

/-- Whether all letters have a property is asked of the first character and of the rest, with what
the first says about the beginning of words. -/
theorem eachLetter_cons {holds : Bool → Char → Prop} {atStart : Bool} {c : Char}
    {rest : List Char} : EachLetter holds atStart (c :: rest) ↔
      (isAlphanumeric c = true → holds atStart c) ∧
        EachLetter holds (startsAfter atStart c) rest := by
  constructor
  · intro each
    refine ⟨fun letter => each [] c rest rfl letter, fun before d after split letter => ?_⟩
    have here := each (c :: before) d after (by rw [split, List.cons_append]) letter
    rwa [beginsWord_cons] at here
  · rintro ⟨first, each⟩ before d after split letter
    cases before with
    | nil =>
      cases split
      exact first letter
    | cons first before =>
      cases split
      rw [beginsWord_cons]
      exact each before d after rfl letter

/-- Two properties that agree on letters are had by all letters of the same texts. -/
theorem eachLetter_congr {holds holds' : Bool → Char → Prop}
    (same : ∀ begins c, isAlphanumeric c = true → (holds begins c ↔ holds' begins c))
    {atStart : Bool} {text : List Char} :
    EachLetter holds atStart text ↔ EachLetter holds' atStart text := by
  constructor
  · intro each before c after split letter
    exact (same _ c letter).1 (each before c after split letter)
  · intro each before c after split letter
    exact (same _ c letter).2 (each before c after split letter)

/-! ## Names of attributes -/

/-- The form of a letter in the name of an attribute. -/
def letterForm (begins : Bool) (c : Char) : List Char :=
  if begins then upper c else lower c

/-- What one character contributes to the name of an attribute. -/
def attributeChar (atStart : Bool) (c : Char) : List Char :=
  if isAlphanumeric c then letterForm atStart c else if isSeparator c then ['_'] else []

/-- The name of an attribute is made character by character. -/
theorem attributeChars_cons (atStart : Bool) (c : Char) (rest : List Char) :
    attributeChars atStart (c :: rest) =
      attributeChar atStart c ++ attributeChars (startsAfter atStart c) rest := by
  rw [attributeChars, attributeChar, startsAfter]
  by_cases letter : isAlphanumeric c = true
  · simp [letterForm, isKept, letter, isSeparator_eq_false_of_letter letter]
  · by_cases separator : isSeparator c = true <;> simp [isKept, letter, separator]

/-- The name made of a text goes on behind any part of it with what that part says about the
beginning of words. -/
theorem attributeChars_append (atStart : Bool) (before after : List Char) :
    attributeChars atStart (before ++ after) =
      attributeChars atStart before ++ attributeChars (beginsWord atStart before) after := by
  induction before generalizing atStart with
  | nil => rfl
  | cons c rest ih =>
    rw [List.cons_append, attributeChars_cons, attributeChars_cons, ih, beginsWord_cons,
      List.append_assoc]

/-- The form of a letter in a name holds no separator. -/
theorem isSeparator_eq_false_of_mem_letterForm {begins : Bool} {c image : Char}
    (letter : isAlphanumeric c = true) (mem : image ∈ letterForm begins c) :
    isSeparator image = false := by
  cases begins with
  | true => exact isSeparator_eq_false_of_mem_upper letter mem
  | false => exact isSeparator_eq_false_of_mem_lower letter mem

/-- The name of an attribute is in the alphabet of names exactly when the form of each letter is. -/
theorem forall_isSafe_attributeChars_iff {atStart : Bool} {text : List Char} :
    (∀ c ∈ attributeChars atStart text, isSafe c = true) ↔
      EachLetter (fun begins c => ∀ image ∈ letterForm begins c, isAlphanumeric image = true)
        atStart text := by
  induction text generalizing atStart with
  | nil => exact iff_of_true (fun _ mem => absurd mem List.not_mem_nil) (eachLetter_nil _ _)
  | cons c rest ih =>
    rw [attributeChars_cons, List.forall_mem_append, ih, eachLetter_cons]
    refine and_congr_left fun _ => ?_
    by_cases letter : isAlphanumeric c = true
    · rw [attributeChar, if_pos letter, forall_prop_of_true letter]
      refine forall₂_congr fun image mem => ?_
      rw [isSafe_eq_of_not_separator (isSeparator_eq_false_of_mem_letterForm letter mem)]
    · have safe : ∀ image ∈ attributeChar atStart c, isSafe image = true := by
        intro image mem
        rw [attributeChar, if_neg letter] at mem
        split at mem
        · simp [isSafe, List.mem_singleton.1 mem]
        · cases mem
      exact iff_of_true safe fun letter' => absurd letter' letter

/-! ## One letter a second time -/

/-- Whether a text can stand inside a word and its letters have lower cases of one character. -/
def Inner (text : List Char) : Prop :=
  ∀ c ∈ text, isSeparator c = false ∧ c ≠ dottedCapital

/-- Inside a word, a letter is put in lower case and everything else is dropped. -/
theorem attributeChars_inner_cons {c : Char} {rest : List Char} (inner : Inner (c :: rest)) :
    attributeChars false (c :: rest) =
      (if isAlphanumeric c then lower c else []) ++ attributeChars false rest := by
  have joined := (inner c List.mem_cons_self).1
  rw [attributeChars_cons, attributeChar, startsAfter, joined]
  simp [letterForm]

/-- Inside a word, normalizing never makes a text longer. -/
theorem length_attributeChars_inner_le {text : List Char} (inner : Inner text) :
    (attributeChars false text).length ≤ text.length := by
  induction text with
  | nil => exact Nat.le_refl 0
  | cons c rest ih =>
    have shorter := ih fun d mem => inner d (List.mem_cons_of_mem c mem)
    obtain ⟨image, same⟩ := exists_lower_eq_singleton (inner c List.mem_cons_self).2
    rw [attributeChars_inner_cons inner, same, List.length_append, List.length_cons]
    split <;> simp only [List.length_cons, List.length_nil] <;> omega

/-- A text inside a word is left as it is exactly when it consists of letters that are their own
lower case. -/
theorem attributeChars_inner_eq_self_iff {text : List Char} (inner : Inner text) :
    attributeChars false text = text ↔
      ∀ c ∈ text, isAlphanumeric c = true ∧ lower c = [c] := by
  induction text with
  | nil => exact iff_of_true rfl fun _ mem => absurd mem List.not_mem_nil
  | cons c rest ih =>
    have inner' : Inner rest := fun d mem => inner d (List.mem_cons_of_mem c mem)
    obtain ⟨image, same⟩ := exists_lower_eq_singleton (inner c List.mem_cons_self).2
    rw [attributeChars_inner_cons inner, List.forall_mem_cons, ← ih inner', same]
    by_cases letter : isAlphanumeric c = true
    · simp [letter]
    · -- a dropped character leaves less than there was
      have shorter := length_attributeChars_inner_le inner'
      refine iff_of_false (fun whole => ?_) (fun both => letter both.1.1)
      have length := congrArg List.length whole
      simp only [letter, Bool.false_eq_true, if_false, List.nil_append, List.length_cons] at length
      omega

/-- The lower case of a letter can stand inside a word, because the dotted capital is the lower case
of nothing. -/
theorem inner_lower {c : Char} (letter : isAlphanumeric c = true) : Inner (lower c) := by
  intro image mem
  refine ⟨isSeparator_eq_false_of_mem_lower letter mem, ?_⟩
  rintro rfl
  exact absurd (lower_of_mem_lower mem) (by decide +kernel)

/-- What follows the first character in the upper case of a letter can stand inside a word. -/
theorem inner_of_upper_eq_cons {c first : Char} {rest : List Char}
    (letter : isAlphanumeric c = true) (same : upper c = first :: rest) : Inner rest := by
  intro image mem
  have listed : image ∈ upper c := same ▸ List.mem_cons_of_mem first mem
  refine ⟨isSeparator_eq_false_of_mem_upper letter listed, ?_⟩
  rintro rfl
  obtain rfl := eq_of_mem_mapCase (by decide) (by decide) listed
  rw [upper_of_mem_upper listed, List.cons.injEq] at same
  rw [← same.2] at mem
  cases mem

/-- In an upper case that is normalized as the beginning of a word the first character stays. -/
theorem attributeChars_upper {c first : Char} {rest : List Char}
    (letter : isAlphanumeric c = true) (same : upper c = first :: rest) :
    attributeChars true (first :: rest) = first :: attributeChars false rest := by
  have letter' := isAlphanumeric_of_upper_eq_cons letter same
  have settled : upper first = [first] := upper_of_mem_upper (same ▸ List.mem_cons_self)
  rw [attributeChars, if_pos letter', if_pos rfl, settled]
  rfl

/-- The form of a letter is not made longer by a second normalization. -/
theorem length_attributeChars_letterForm_le {c : Char} (letter : isAlphanumeric c = true)
    (begins : Bool) :
    (attributeChars begins (letterForm begins c)).length ≤ (letterForm begins c).length := by
  cases begins with
  | false => exact length_attributeChars_inner_le (inner_lower letter)
  | true =>
    obtain ⟨first, rest, same⟩ := List.exists_cons_of_ne_nil (upper_ne_nil c)
    have shorter := length_attributeChars_inner_le (inner_of_upper_eq_cons letter same)
    rw [letterForm, if_pos rfl, same, attributeChars_upper letter same]
    simpa using shorter

/-- No word begins behind the form of a letter. -/
theorem beginsWord_letterForm {c : Char} (letter : isAlphanumeric c = true) (begins : Bool) :
    beginsWord begins (letterForm begins c) = false := by
  cases begins with
  | false => exact beginsWord_false fun _ mem => isSeparator_eq_false_of_mem_lower letter mem
  | true =>
    obtain ⟨first, rest, same⟩ := List.exists_cons_of_ne_nil (upper_ne_nil c)
    have letter' := isAlphanumeric_of_upper_eq_cons letter same
    have joined := inner_of_upper_eq_cons letter same
    rw [letterForm, if_pos rfl, same, beginsWord_cons, startsAfter, isKept, letter',
      isSeparator_eq_false_of_letter letter']
    exact beginsWord_false fun image mem => (joined image mem).1

/-- A letter that begins a word is settled when its capital is a single character, or goes on with
something that has no lower case. -/
theorem attributeChars_upper_eq_self_iff {c : Char} (letter : isAlphanumeric c = true) :
    attributeChars true (upper c) = upper c ↔ (upper c).length = 1 ∨ c = halfRingLetter := by
  by_cases ring : c = halfRingLetter
  · subst ring
    exact iff_of_true (by decide +kernel) (.inr rfl)
  obtain ⟨first, rest, same⟩ := List.exists_cons_of_ne_nil (upper_ne_nil c)
  rw [same, attributeChars_upper letter same, or_iff_left ring, List.cons.injEq]
  rcases List.eq_nil_or_concat rest with none | ⟨_, _, several⟩
  · simp [none, attributeChars]
  · have several' : rest ≠ [] := by simp [several]
    obtain ⟨image, mem, unsettled⟩ := exists_unsettled_of_upper_eq_cons same several' ring
    have longer : (first :: rest).length ≠ 1 := by simpa using several'
    refine iff_of_false ?_ longer
    rw [attributeChars_inner_eq_self_iff (inner_of_upper_eq_cons letter same)]
    rintro ⟨-, each⟩
    obtain ⟨kept, still⟩ := each image mem
    rcases unsettled with moved | dropped
    · exact moved still
    · rw [kept] at dropped
      cases dropped

/-- All letters but one have a lower case of letters. -/
theorem forall_isAlphanumeric_lower_iff {c : Char} (letter : isAlphanumeric c = true) :
    (∀ image ∈ lower c, isAlphanumeric image = true) ↔ c ≠ dottedCapital := by
  constructor
  · rintro each rfl
    exact absurd (each '\u0307' (by decide +kernel)) (by decide +kernel)
  · intro plain image mem
    obtain ⟨only, same⟩ := exists_lower_eq_singleton plain
    rw [same, List.mem_singleton] at mem
    rw [mem]
    exact isAlphanumeric_of_lower_eq_cons letter same

/-- The lower case of a letter is left as it is, unless the letter is the dotted capital. -/
theorem attributeChars_lower_eq_self_iff {c : Char} (letter : isAlphanumeric c = true) :
    attributeChars false (lower c) = lower c ↔ c ≠ dottedCapital := by
  rw [attributeChars_inner_eq_self_iff (inner_lower letter),
    ← forall_isAlphanumeric_lower_iff letter]
  refine forall₂_congr fun image mem => ?_
  rw [and_iff_left (lower_of_mem_lower mem)]

/-! ## A whole name a second time -/

/-- A second normalization goes through what the characters contributed one after the other. -/
theorem attributeChars_attributeChar_append (atStart : Bool) (c : Char) (rest : List Char) :
    attributeChars atStart (attributeChar atStart c ++ rest) =
      attributeChars atStart (attributeChar atStart c) ++
        attributeChars (startsAfter atStart c) rest := by
  have after : beginsWord atStart (attributeChar atStart c) = startsAfter atStart c := by
    by_cases letter : isAlphanumeric c = true
    · simp [attributeChar, startsAfter, isKept, letter, beginsWord_letterForm,
        isSeparator_eq_false_of_letter]
    · by_cases separator : isSeparator c = true
      · have kept : isKept '_' = true := by decide +kernel
        have bar : beginsWord atStart ['_'] = true := by
          rw [beginsWord_cons, startsAfter, if_pos kept]
          rfl
        simp [attributeChar, startsAfter, isKept, letter, separator, bar]
      · simp [attributeChar, startsAfter, isKept, letter, separator, beginsWord]
  rw [attributeChars_append, after]

/-- What a character that is no letter contributes is not changed by a second normalization. -/
theorem attributeChars_attributeChar_of_other {c : Char} (other : ¬ isAlphanumeric c = true)
    (atStart : Bool) :
    attributeChars atStart (attributeChar atStart c) = attributeChar atStart c := by
  rw [attributeChar, if_neg other]
  split
  · cases atStart <;> decide +kernel
  · rfl

/-- What one character contributes is not made longer by a second normalization. -/
theorem length_attributeChars_attributeChar_le (atStart : Bool) (c : Char) :
    (attributeChars atStart (attributeChar atStart c)).length ≤
      (attributeChar atStart c).length := by
  by_cases letter : isAlphanumeric c = true
  · rw [attributeChar, if_pos letter]
    exact length_attributeChars_letterForm_le letter atStart
  · rw [attributeChars_attributeChar_of_other letter]

/-- A name is not made longer by a second normalization, so it stays the same only if each part
does. -/
theorem length_attributeChars_attributeChars_le (atStart : Bool) (text : List Char) :
    (attributeChars atStart (attributeChars atStart text)).length ≤
      (attributeChars atStart text).length := by
  induction text generalizing atStart with
  | nil => exact Nat.le_refl 0
  | cons c rest ih =>
    have first := length_attributeChars_attributeChar_le atStart c
    have others := ih (startsAfter atStart c)
    rw [attributeChars_cons, attributeChars_attributeChar_append, List.length_append,
      List.length_append]
    omega

/-- The name of an attribute is settled exactly when each letter is settled at its place.  No part
gets longer, so what one part loses is not made up for by another. -/
theorem attributeChars_attributeChars_iff {atStart : Bool} {text : List Char} :
    attributeChars atStart (attributeChars atStart text) = attributeChars atStart text ↔
      EachLetter (fun begins c => attributeChars begins (letterForm begins c) = letterForm begins c)
        atStart text := by
  induction text generalizing atStart with
  | nil => exact iff_of_true rfl (eachLetter_nil _ _)
  | cons c rest ih =>
    have first := length_attributeChars_attributeChar_le atStart c
    have others := length_attributeChars_attributeChars_le (startsAfter atStart c) rest
    have parts : attributeChars atStart (attributeChars atStart (c :: rest)) =
        attributeChars atStart (c :: rest) ↔
          attributeChars atStart (attributeChar atStart c) = attributeChar atStart c ∧
            attributeChars (startsAfter atStart c) (attributeChars (startsAfter atStart c) rest) =
              attributeChars (startsAfter atStart c) rest := by
      rw [attributeChars_cons, attributeChars_attributeChar_append]
      constructor
      · intro same
        have lengths := congrArg List.length same
        rw [List.length_append, List.length_append] at lengths
        exact List.append_inj same (by omega)
      · rintro ⟨head, tail⟩
        rw [head, tail]
    rw [parts, ih, eachLetter_cons]
    refine and_congr_left fun _ => ?_
    by_cases letter : isAlphanumeric c = true
    · rw [attributeChar, if_pos letter, forall_prop_of_true letter]
    · exact iff_of_true (attributeChars_attributeChar_of_other letter atStart)
        fun letter' => absurd letter' letter

/-! ## Which texts have settled names -/

/-- The name of an attribute is safe exactly when capitals that begin words are made of letters and
no dotted capital stands inside a word. -/
theorem forall_isSafe_ofAttribute_iff {text : String} :
    (∀ c ∈ (ofAttribute text).toList, isSafe c = true) ↔
      EachLetter (fun begins c =>
        if begins then ∀ image ∈ upper c, isAlphanumeric image = true else c ≠ dottedCapital)
        true text.toList := by
  rw [ofAttribute, String.toList_ofList, forall_isSafe_attributeChars_iff]
  apply eachLetter_congr
  intro begins c letter
  cases begins with
  | true => rfl
  | false => exact forall_isAlphanumeric_lower_iff letter

/-- The name of an attribute is settled exactly when the letters that begin words have capitals of
one character, one letter apart, and no dotted capital stands inside a word. -/
theorem ofAttribute_ofAttribute_iff {text : String} :
    ofAttribute (ofAttribute text) = ofAttribute text ↔
      EachLetter (fun begins c =>
        if begins then (upper c).length = 1 ∨ c = halfRingLetter else c ≠ dottedCapital)
        true text.toList := by
  rw [← String.toList_inj]
  simp only [ofAttribute, String.toList_ofList]
  rw [attributeChars_attributeChars_iff]
  apply eachLetter_congr
  intro begins c letter
  cases begins with
  | true => exact attributeChars_upper_eq_self_iff letter
  | false => exact attributeChars_lower_eq_self_iff letter

/-- For which texts names are in their alphabet and settled.  For an entity both mean that no letter
has a capital with a combining mark, and then it is found under its own name.  For an attribute the
letter that begins a word must have a capital without a mark to be in the alphabet, and a capital of
one character to be settled (one letter apart); inside a word only the dotted capital i is refused.
-/
theorem settled_iff (text : String) :
    ((∀ c ∈ (ofEntity text).toList, isSafe c = true) ↔ CapitalsSafe text.toList) ∧
    (ofEntity (ofEntity text) = ofEntity text ↔ CapitalsSafe text.toList) ∧
    (∀ (model : Model) id entity, model.entity? id = some entity → entity.name = ofEntity text →
      ((∃ found other, model.entityId? entity.name = some found ∧
          model.entity? found = some other ∧ other.name = entity.name) ↔
        CapitalsSafe text.toList)) ∧
    ((∀ c ∈ (ofAttribute text).toList, isSafe c = true) ↔
      EachLetter (fun begins c =>
        if begins then ∀ image ∈ upper c, isAlphanumeric image = true else c ≠ dottedCapital)
        true text.toList) ∧
    (ofAttribute (ofAttribute text) = ofAttribute text ↔
      EachLetter (fun begins c =>
        if begins then (upper c).length = 1 ∨ c = halfRingLetter else c ≠ dottedCapital)
        true text.toList) := by
  have settled : ofEntity (ofEntity text) = ofEntity text ↔ CapitalsSafe text.toList :=
    ofEntity_ofEntity_iff.trans forall_isSafe_ofEntity_iff
  refine ⟨forall_isSafe_ofEntity_iff, settled, ?_, forall_isSafe_ofAttribute_iff,
    ofAttribute_ofAttribute_iff⟩
  intro model id entity known named
  rw [entityId?_own_name_iff known, named, settled]

/-- The capital of a j with a caron is a J and a combining mark, which is lost when the name is
reduced again, so that the entity is not found under its own name.  The capital of the sharp s is
`SS`, which becomes `Ss`. -/
theorem caron_unsettled :
    ofEntity "\u01F0" = "J\u030C" ∧ isSafe '\u030C' = false ∧
      ofEntity (ofEntity "\u01F0") = "J" ∧
      ((Model.empty "M" "" []).addEntity (.ofName .regular "\u01F0")).2.entityId?
        (ofEntity "\u01F0") = none ∧
      ofAttribute "\u00DF" = "SS" ∧ ofAttribute (ofAttribute "\u00DF") = "Ss" := by
  decide +kernel

end ErSchema.Name
