import ErSchema.Proofs.Lookup
import ErSchema.Proofs.Run

/-!
# The table of identifications

A model keeps, beside its entities and relationships, the table of the weak entities that are
identified and of the relationships that identify them.  `Identified` says how the table stands to
the two lists, and every run preserves it.  `TableGrows` compares the tables of two models of one
run: the later one has all pairs of the earlier one, and what it has beyond them belongs to
relationships that were added in between.  From both follows what the greedy choice of one call
means for the finished model: the identified entity is the first participant that was weak at the
time of the call and that no earlier relationship of the finished model identifies.
-/

set_option autoImplicit false

namespace ErSchema

/-- The first element of a list with a property: it has the property, and none before it has. -/
def FirstWith {α : Type} (holds : α → Prop) (items : List α) (item : α) : Prop :=
  holds item ∧ ∃ skipped rest, items = skipped ++ item :: rest ∧ ∀ other ∈ skipped, ¬ holds other

/-- A search finds the first element with the property that it looks for. -/
theorem find?_eq_some_iff_firstWith {α : Type} {holds : α → Bool} {items : List α} {item : α} :
    items.find? holds = some item ↔ FirstWith (holds · = true) items item := by
  rw [List.find?_eq_some_iff_append]
  simp [FirstWith]

namespace Model

/-- The handles of the identifying relationships, in the order in which they were added. -/
def identifyingIds (model : Model) : List RelationshipId :=
  (model.relationshipsWithIds.filter fun pair => pair.2.isIdentifying).map Prod.fst

/-- The identifying handles are those that denote an identifying relationship. -/
theorem mem_identifyingIds {model : Model} {id : RelationshipId} :
    id ∈ model.identifyingIds ↔
      ∃ relationship, model.relationship? id = some relationship ∧
        relationship.isIdentifying = true := by
  simp only [identifyingIds, List.mem_map, List.mem_filter, Prod.exists, exists_and_right,
    exists_eq_right, mem_relationshipsWithIds]

/-- No identifying handle is listed twice. -/
theorem nodup_identifyingIds (model : Model) : model.identifyingIds.Nodup :=
  nodup_relationshipsWithIds.sublist (List.filter_sublist.map Prod.fst)

/-- One more relationship adds its handle exactly when it is identifying. -/
theorem identifyingIds_eq_append {model next : Model} {relationship : Relationship}
    (added : next.relationships = model.relationships ++ [relationship]) :
    next.identifyingIds = model.identifyingIds ++
      if relationship.isIdentifying then [⟨model.relationships.length⟩] else [] := by
  unfold identifyingIds relationshipsWithIds
  rw [added, List.zipIdx_append, List.map_append, List.filter_append, List.map_append]
  cases regular : relationship.isIdentifying <;> simp [regular]

/-- Whether a handle denotes a weak entity. -/
def DenotesWeak (model : Model) (id : EntityId) : Prop :=
  ∃ entity, model.entity? id = some entity ∧ entity.kind = .weak

/-- A handle awaits identification when it denotes a weak entity that has no entry. -/
theorem awaitsIdentification_iff {model : Model} {id : EntityId} :
    model.awaitsIdentification id = true ↔
      model.DenotesWeak id ∧ model.identifyingRelationship? id = none := by
  simp [awaitsIdentification, DenotesWeak, Entity.isWeak, Option.any_eq_true]

/-- The table and the lists of a model fit: no entity has two entries, the entries are those of the
identifying relationships in order, and every entry is about a weak entity to which its
relationship has a link. -/
structure Identified (model : Model) : Prop where
  nodup_keys : (model.identifications.map Prod.fst).Nodup
  values_eq : model.identifications.map Prod.snd = model.identifyingIds
  weak : ∀ pair ∈ model.identifications, model.DenotesWeak pair.1
  linked : ∀ pair ∈ model.identifications,
    ∃ relationship, model.relationship? pair.2 = some relationship ∧
      pair.1 ∈ relationship.participants

/-! ## One step -/

/-- No step makes a weak entity regular. -/
theorem Step.denotesWeak {model next : Model} {operation : Operation}
    (step : Step model operation next) {id : EntityId} (weak : model.DenotesWeak id) :
    next.DenotesWeak id := by
  obtain ⟨entity, found, kind⟩ := weak
  cases step with
  | refused => exact ⟨entity, found, kind⟩
  | entity added =>
    obtain ⟨bound, -⟩ := List.getElem?_eq_some_iff.1 found
    exact ⟨entity, (List.getElem?_append_left bound).trans found, kind⟩
  | relationship adds accepted =>
    obtain ⟨claimed, -, -, rfl⟩ := addRelationship_eq_ok_iff.1 accepted
    exact ⟨entity, found, kind⟩
  | @specialization specialization _ accepted =>
    obtain ⟨-, rfl⟩ := specialize_eq_ok_iff.1 accepted
    unfold entity? at found
    unfold DenotesWeak entity?
    rw [List.getElem?_modify, found]
    split
    · exact ⟨entity.attach specialization, rfl, kind⟩
    · exact ⟨entity, rfl, kind⟩

/-- No step removes or changes a relationship. -/
theorem Step.relationship?_eq {model next : Model} {operation : Operation}
    (step : Step model operation next) {id : RelationshipId} {relationship : Relationship}
    (found : model.relationship? id = some relationship) :
    next.relationship? id = some relationship := by
  rcases step.relationships with same | ⟨added, issued, -, accepted⟩
  · rwa [relationship?, same]
  · obtain ⟨claimed, -, -, rfl⟩ := addRelationship_eq_ok_iff.1 accepted
    obtain ⟨bound, -⟩ := List.getElem?_eq_some_iff.1 found
    exact (List.getElem?_append_left bound).trans found

/-- New entries keep the table fitting when they belong to the new identifying relationships, are
about entities without an entry, and are backed by weak entities and links. -/
theorem Identified.extend {model next : Model} {operation : Operation} (fits : Identified model)
    (step : Step model operation next) (claimed : List (EntityId × RelationshipId))
    (table : next.identifications = model.identifications ++ claimed)
    (values : next.identifyingIds = model.identifyingIds ++ claimed.map Prod.snd)
    (distinct : (claimed.map Prod.fst).Nodup)
    (new : ∀ pair ∈ claimed, model.identifyingRelationship? pair.1 = none ∧
      next.DenotesWeak pair.1 ∧
      ∃ relationship, next.relationship? pair.2 = some relationship ∧
        pair.1 ∈ relationship.participants) :
    Identified next where
  nodup_keys := by
    rw [table, List.map_append, List.nodup_append]
    refine ⟨fits.nodup_keys, distinct, ?_⟩
    rintro key old _ mem rfl
    obtain ⟨pair, isNew, rfl⟩ := List.mem_map.1 mem
    exact lookup_eq_none_iff_notMem.1 (new pair isNew).1 old
  values_eq := by
    rw [table, List.map_append, fits.values_eq, values]
  weak pair mem := by
    rw [table, List.mem_append] at mem
    rcases mem with old | mem
    · exact step.denotesWeak (fits.weak pair old)
    · exact (new pair mem).2.1
  linked pair mem := by
    rw [table, List.mem_append] at mem
    rcases mem with old | mem
    · obtain ⟨relationship, found, named⟩ := fits.linked pair old
      exact ⟨relationship, step.relationship?_eq found, named⟩
    · exact (new pair mem).2.2

/-- A step that leaves table and relationships as they are keeps the table fitting. -/
theorem Identified.unchanged {model next : Model} {operation : Operation}
    (fits : Identified model) (step : Step model operation next)
    (table : next.identifications = model.identifications)
    (relationships : next.relationships = model.relationships) : Identified next :=
  fits.extend step [] (by simpa using table)
    (by simp [identifyingIds, relationshipsWithIds, relationships]) (by simp) (by simp)

/-- Every step keeps the table fitting. -/
theorem Identified.step {model next : Model} {operation : Operation} (fits : Identified model)
    (step : Step model operation next) : Identified next := by
  cases step with
  | refused => exact fits
  | entity added =>
    have step : Step model operation (model.addEntity added).2 := .entity added
    exact fits.unchanged step rfl rfl
  | specialization accepted =>
    have step : Step model operation next := .specialization accepted
    obtain ⟨-, rfl⟩ := specialize_eq_ok_iff.1 accepted
    exact fits.unchanged step rfl rfl
  | @relationship added id _ adds accepted =>
    have step := Step.relationship adds accepted
    obtain ⟨claimed, claims, rfl, rfl⟩ := addRelationship_eq_ok_iff.1 accepted
    have values : identifyingIds
        { model with
          relationships := model.relationships ++ [added]
          identifications := model.identifications ++ claimed } =
        model.identifyingIds ++
          if added.isIdentifying then [⟨model.relationships.length⟩] else [] :=
      identifyingIds_eq_append rfl
    rcases claims_eq_ok_iff.1 claims with ⟨regular, rfl⟩ | ⟨identifying, weak, claim, rfl⟩
    · exact fits.extend step [] rfl (by simpa [regular] using values) (by simp) (by simp)
    · have first := find?_eq_some_iff_firstWith.1 claim
      obtain ⟨denotes, unclaimed⟩ := awaitsIdentification_iff.1 first.1
      refine fits.extend step _ rfl (by simpa [identifying] using values) (by simp) ?_
      rintro pair mem
      rw [List.mem_singleton] at mem
      subst mem
      refine ⟨unclaimed, step.denotesWeak denotes, added, ?_, List.mem_of_find?_eq_some claim⟩
      simp [relationship?]

/-- The table of every model that a run makes fits. -/
theorem Identified.run {start : Model} (fits : Identified start) (operations : List Operation) :
    Identified (start.run operations) :=
  run_induction (fun _ _ _ step fits => fits.step step) fits operations

/-- In an empty model table and lists are empty, and so they fit. -/
theorem identified_empty (name description : String) (authors : List String) :
    Identified (.empty name description authors) where
  nodup_keys := List.nodup_nil
  values_eq := rfl
  weak _ mem := absurd mem List.not_mem_nil
  linked _ mem := absurd mem List.not_mem_nil

/-! ## What a fitting table says -/

section Fitting

variable {model : Model} (fits : Identified model)

include fits

/-- In a fitting table the entries are what looking up an entity finds. -/
theorem Identified.mem_iff (entityId : EntityId) (id : RelationshipId) :
    (entityId, id) ∈ model.identifications ↔ model.identifyingRelationship? entityId = some id :=
  (lookup_eq_some_iff_mem fits.nodup_keys entityId id).symm

/-- An identified entity is weak, and an identifying relationship links to it. -/
theorem Identified.of_found {entityId : EntityId} {id : RelationshipId}
    (found : model.identifyingRelationship? entityId = some id) :
    model.DenotesWeak entityId ∧
      ∃ relationship, model.relationship? id = some relationship ∧
        relationship.kind = .identifying ∧
        ∃ link ∈ relationship.links, link.entity = some entityId := by
  have mem := (fits.mem_iff entityId id).2 found
  obtain ⟨relationship, present, named⟩ := fits.linked _ mem
  have value : id ∈ model.identifyingIds :=
    fits.values_eq ▸ List.mem_map_of_mem (f := Prod.snd) mem
  obtain ⟨same, present', identifying⟩ := mem_identifyingIds.1 value
  obtain rfl : relationship = same := Option.some.inj (present.symm.trans present')
  exact ⟨fits.weak _ mem, relationship, present, of_decide_eq_true identifying,
    Relationship.mem_participants.1 named⟩

/-- No relationship identifies two entities. -/
theorem Identified.injective {entityId other : EntityId} {id : RelationshipId}
    (found : model.identifyingRelationship? entityId = some id)
    (found' : model.identifyingRelationship? other = some id) : entityId = other := by
  rw [← fits.mem_iff] at found found'
  have distinct : (model.identifications.map Prod.snd).Nodup :=
    fits.values_eq ▸ nodup_identifyingIds model
  exact congrArg Prod.fst (List.inj_on_of_nodup_map distinct found found' rfl)

end Fitting

/-! ## Two models of one run -/

/-- The later of two models has every entry of the earlier one, and an entry that belongs to a
relationship of the earlier model is one of the earlier entries. -/
structure TableGrows (before after : Model) : Prop where
  length_le : before.relationships.length ≤ after.relationships.length
  kept : ∀ entityId id, before.identifyingRelationship? entityId = some id →
    after.identifyingRelationship? entityId = some id
  older : ∀ entityId id, after.identifyingRelationship? entityId = some id →
    id.index < before.relationships.length → before.identifyingRelationship? entityId = some id

/-- A table grows when nothing happens to it. -/
theorem TableGrows.of_same {before after : Model}
    (relationships : after.relationships = before.relationships)
    (table : after.identifications = before.identifications) : TableGrows before after where
  length_le := Nat.le_of_eq (congrArg List.length relationships.symm)
  kept entityId id found := by rwa [identifyingRelationship?, table]
  older entityId id found _ := by rwa [identifyingRelationship?, ← table]

/-- A table that grows twice grows. -/
theorem TableGrows.trans {first second third : Model} (lower : TableGrows first second)
    (upper : TableGrows second third) : TableGrows first third where
  length_le := Nat.le_trans lower.length_le upper.length_le
  kept entityId id found := upper.kept entityId id (lower.kept entityId id found)
  older entityId id found bound :=
    have found := upper.older entityId id found (Nat.lt_of_lt_of_le bound lower.length_le)
    lower.older entityId id found bound

/-- A new entry belongs to the next relationship. -/
theorem index_of_claims {model : Model} {relationship : Relationship}
    {claimed : List (EntityId × RelationshipId)} (claims : model.claims relationship = .ok claimed)
    {entityId : EntityId} {id : RelationshipId} (found : claimed.lookup entityId = some id) :
    id = ⟨model.relationships.length⟩ := by
  rcases claims_eq_ok_iff.1 claims with ⟨-, rfl⟩ | ⟨-, weak, -, rfl⟩
  · simp at found
  · rw [List.lookup_cons, List.lookup_nil] at found
    split at found
    · exact (Option.some.inj found).symm
    · simp at found

/-- The table grows with every step. -/
theorem Step.tableGrows {model next : Model} {operation : Operation}
    (step : Step model operation next) : TableGrows model next := by
  cases step with
  | refused => exact .of_same rfl rfl
  | entity added => exact .of_same rfl rfl
  | specialization accepted =>
    obtain ⟨-, rfl⟩ := specialize_eq_ok_iff.1 accepted
    exact .of_same rfl rfl
  | relationship adds accepted =>
    obtain ⟨claimed, claims, rfl, rfl⟩ := addRelationship_eq_ok_iff.1 accepted
    refine ⟨by simp, ?_, ?_⟩
    · intro entityId id found
      unfold identifyingRelationship? at found ⊢
      rw [List.lookup_append, found]
      rfl
    · intro entityId id found bound
      unfold identifyingRelationship? at found ⊢
      rw [List.lookup_append] at found
      cases old : model.identifications.lookup entityId with
      | some earlier => simpa [old] using found
      | none =>
        rw [old, Option.none_or] at found
        have last := index_of_claims claims found
        subst last
        exact absurd bound (Nat.lt_irrefl _)

/-- The table grows with every run. -/
theorem tableGrows_run (start : Model) (operations : List Operation) :
    TableGrows start (start.run operations) :=
  run_induction (fun _ _ _ step grows => grows.trans step.tableGrows)
    (.of_same rfl rfl) operations

/-! ## Who is identified -/

/-- Whether a participant could be identified by the relationship `id`: it denotes a weak entity in
the model `atCall`, and in the model `final` no earlier relationship identifies it. -/
def CouldIdentify (atCall final : Model) (id : RelationshipId) (participant : EntityId) : Prop :=
  atCall.DenotesWeak participant ∧
    ∀ earlier, earlier.index < id.index → final.identifyingRelationship? participant ≠ some earlier

/-- A participant that awaits identification at the time of a call is one that no earlier
relationship of the final model identifies. -/
theorem awaitsIdentification_iff_couldIdentify {atCall final : Model} (fits : Identified atCall)
    (grows : TableGrows atCall final) (participant : EntityId) :
    atCall.awaitsIdentification participant = true ↔
      CouldIdentify atCall final ⟨atCall.relationships.length⟩ participant := by
  rw [awaitsIdentification_iff, CouldIdentify]
  refine and_congr_right fun _ => ?_
  constructor
  · intro unclaimed earlier bound found
    rw [grows.older participant earlier found bound] at unclaimed
    cases unclaimed
  · intro free
    cases found : atCall.identifyingRelationship? participant with
    | none => rfl
    | some earlier =>
      -- an entry at the time of the call belongs to a relationship that is there already
      have mem := (lookup_eq_some_iff_mem fits.nodup_keys participant earlier).1 found
      obtain ⟨relationship, present, -⟩ := fits.linked _ mem
      obtain ⟨bound, -⟩ := List.getElem?_eq_some_iff.1 present
      exact absurd (grows.kept participant earlier found) (free earlier bound)

/-- An identifying relationship that is accepted identifies, in every later model, the first of its
participants that could be identified. -/
theorem firstWith_couldIdentify {atCall next final : Model} {relationship : Relationship}
    {id : RelationshipId} (fits : Identified atCall)
    (accepted : atCall.addRelationship relationship = .ok (id, next))
    (identifying : relationship.kind = .identifying) (later : TableGrows next final) :
    ∃ entityId, final.identifyingRelationship? entityId = some id ∧
      FirstWith (CouldIdentify atCall final id) relationship.participants entityId := by
  have step : Step atCall (.addRelationship relationship) next := .relationship (.inl rfl) accepted
  have grows : TableGrows atCall final := step.tableGrows.trans later
  obtain ⟨claimed, claims, rfl, rfl⟩ := addRelationship_eq_ok_iff.1 accepted
  rcases claims_eq_ok_iff.1 claims with ⟨regular, -⟩ | ⟨-, weak, claim, rfl⟩
  · simp [Relationship.isIdentifying, identifying] at regular
  have first := find?_eq_some_iff_firstWith.1 claim
  refine ⟨weak, later.kept weak _ ?_, ?_⟩
  · obtain ⟨-, unclaimed⟩ := awaitsIdentification_iff.1 first.1
    unfold identifyingRelationship? at unclaimed ⊢
    rw [List.lookup_append, unclaimed, Option.none_or, List.lookup_cons_self]
  · have same : (fun participant => atCall.awaitsIdentification participant = true) =
        CouldIdentify atCall final ⟨atCall.relationships.length⟩ :=
      funext fun participant =>
        propext (awaitsIdentification_iff_couldIdentify fits grows participant)
    rwa [same] at first

/-- After every run the table of identifications is a bijection between its keys, which are handles
of weak entities, and the identifying relationships of the model, each of which has a link to the
entity it identifies.  That entity is the first participant that was weak when the relationship was
added and that no relationship added before identifies. -/
theorem identifications_bijective (name description : String) (authors : List String)
    (operations : List Operation) :
    let start := Model.empty name description authors
    let final := start.run operations
    (final.identifications.map Prod.fst).Nodup ∧
    (∀ entityId id, final.identifyingRelationship? entityId = some id →
      final.DenotesWeak entityId ∧
      (∃ relationship, final.relationship? id = some relationship ∧
        relationship.kind = .identifying ∧
        ∃ link ∈ relationship.links, link.entity = some entityId) ∧
      id ∈ final.relationshipsOf entityId) ∧
    (∀ entityId other id, final.identifyingRelationship? entityId = some id →
      final.identifyingRelationship? other = some id → entityId = other) ∧
    ∀ id relationship, final.relationship? id = some relationship →
      relationship.kind = .identifying →
      ∃ entityId before operation after,
        final.identifyingRelationship? entityId = some id ∧
        operations = before ++ operation :: after ∧
        operation.Adds relationship ∧
        (start.run before).addRelationship relationship =
          .ok (id, start.run (before ++ [operation])) ∧
        FirstWith (CouldIdentify (start.run before) final id) relationship.participants
          entityId := by
  intro start final
  have fits : ∀ calls, Identified (start.run calls) := (identified_empty _ _ _).run
  refine ⟨(fits operations).nodup_keys, ?_, ?_, ?_⟩
  · intro entityId id found
    obtain ⟨weak, relationship, present, identifying, linked⟩ := (fits operations).of_found found
    exact ⟨weak, ⟨relationship, present, identifying, linked⟩,
      mem_relationshipsOf.2 ⟨relationship, present, linked⟩⟩
  · exact fun _ _ _ found found' => (fits operations).injective found found'
  · intro id relationship present identifying
    obtain ⟨before, operation, after, split, adds, accepted⟩ := exists_addition rfl present
    have split' : operations = (before ++ [operation]) ++ after := by simpa using split
    have later : TableGrows (start.run (before ++ [operation])) final := by
      have grows := tableGrows_run (start.run (before ++ [operation])) after
      rwa [← run_append, ← split'] at grows
    obtain ⟨entityId, found, first⟩ :=
      firstWith_couldIdentify (fits before) accepted identifying later
    exact ⟨entityId, before, operation, after, found, split, adds, accepted, first⟩

end Model

end ErSchema
