import SchemaBlueprint.Proofs.History

/-!
Where the names of the columns are listed. Whatever the history of a blueprint, its commands are
first all changes, then all additions, then the rest, and together they list once and in order the
columns that were there at the last pass over a table that was not being created.
-/

namespace SchemaBlueprint

set_option autoImplicit false

namespace Blueprint

/-- The commands of a blueprint are changes, then additions, then the rest. -/
structure Shape (blueprint : Blueprint) (changes adds : List (List String)) (rest : List Command) :
    Prop where
  commands : blueprint.commands = changes.map .change ++ (adds.map .add ++ rest)
  plain : ∀ command ∈ rest, command.isAlteration = false

/-- Of the columns of a blueprint, `seen` are listed, each once and in their order, and `later` have
come since. -/
def Registered (blueprint : Blueprint) (seen later : List Column) : Prop :=
  blueprint.columns = seen ++ later ∧ ∃ changes adds rest, blueprint.Shape changes adds rest ∧
    changes.flatten = (seen.filter (·.change)).map (·.name) ∧
    adds.flatten = (seen.filter (!·.change)).map (·.name)

theorem registered_start (table tablePrefix : String) :
    Registered (start table tablePrefix) [] [] :=
  ⟨rfl, [], [], [], ⟨rfl, fun _ member => by cases member⟩, rfl, rfl⟩

theorem unlisted_of_later {seen later : List Column} (distinct : DistinctNames (seen ++ later))
    (kept : Column → Bool) :
    (((seen ++ later).filter kept).map (·.name)).filter
        (fun name => !Text.listsName ((seen.filter kept).map (·.name)) name) =
      (later.filter kept).map (·.name) := by
  have apart := (List.pairwise_append.mp distinct).2.2
  rw [List.filter_append, List.map_append, List.filter_append]
  -- Every seen name is listed by itself, and no later one is the same up to case.
  have old : ((seen.filter kept).map (·.name)).filter
      (fun name => !Text.listsName ((seen.filter kept).map (·.name)) name) = [] :=
    filter_unlisted_eq_nil fun name member =>
      (lists_name_iff _ _).mpr ⟨name, member, Text.sameName_refl name⟩
  have new : ((later.filter kept).map (·.name)).filter
      (fun name => !Text.listsName ((seen.filter kept).map (·.name)) name) =
        (later.filter kept).map (·.name) := by
    apply List.filter_eq_self.mpr
    intro name member
    obtain ⟨column, inLater, rfl⟩ := List.mem_map.mp member
    rw [Bool.not_eq_true', Bool.eq_false_iff, ne_eq, lists_name_iff]
    rintro ⟨listed, inSeen, same⟩
    obtain ⟨other, otherSeen, rfl⟩ := List.mem_map.mp inSeen
    simp [apart other (List.mem_filter.mp otherSeen).1 column (List.mem_filter.mp inLater).1] at same
  rw [old, new, List.nil_append]

theorem flatMap_changed_names (changes : List (List String)) :
    (changes.map Command.change).flatMap Command.changedNames = changes.flatten := by
  rw [List.flatMap_map, List.flatten_eq_flatMap]
  rfl

theorem flatMap_added_names (adds : List (List String)) :
    (adds.map Command.add).flatMap Command.addedNames = adds.flatten := by
  rw [List.flatMap_map, List.flatten_eq_flatMap]
  rfl

namespace Shape

variable {blueprint : Blueprint} {changes adds : List (List String)} {rest : List Command}

theorem listed_changes (shape : blueprint.Shape changes adds rest) :
    blueprint.listedChanges = changes.flatten := by
  have silent := (flatMap_names_of_plain shape.plain).1
  have additions : (adds.map Command.add).flatMap Command.changedNames = [] := by
    simp [List.flatMap_map, Command.changedNames]
  rw [listedChanges, shape.commands, List.flatMap_append, List.flatMap_append,
    flatMap_changed_names, additions, silent, List.append_nil, List.append_nil]

theorem listed_additions (shape : blueprint.Shape changes adds rest) :
    blueprint.listedAdditions = adds.flatten := by
  have silent := (flatMap_names_of_plain shape.plain).2
  have modifications : (changes.map Command.change).flatMap Command.addedNames = [] := by
    simp [List.flatMap_map, Command.addedNames]
  rw [listedAdditions, shape.commands, List.flatMap_append, List.flatMap_append, modifications,
    flatMap_added_names, silent, List.append_nil, List.nil_append]

theorem remaining_eq (shape : blueprint.Shape changes adds rest) : blueprint.remaining = rest := by
  rw [remaining, shape.commands, List.filter_append, List.filter_append,
    List.filter_eq_nil_iff.mpr, List.filter_eq_nil_iff.mpr, List.filter_eq_self.mpr]
  · rfl
  · intro command member
    simp [shape.plain command member]
  · intro command member
    obtain ⟨names, _, rfl⟩ := List.mem_map.mp member
    simp [Command.isAlteration, Command.isAdd]
  · intro command member
    obtain ⟨names, _, rfl⟩ := List.mem_map.mp member
    simp [Command.isAlteration, Command.isChange]

theorem append (shape : blueprint.Shape changes adds rest) {more : List Command}
    (plain : ∀ command ∈ more, command.isAlteration = false) {after : Blueprint}
    (grown : after.commands = blueprint.commands ++ more) :
    after.Shape changes adds (rest ++ more) where
  commands := by rw [grown, shape.commands, List.append_assoc, List.append_assoc]
  plain := fun command member =>
    (List.mem_append.mp member).elim (shape.plain command) (plain command)

theorem with_change (shape : blueprint.Shape changes adds rest) :
    ∃ changes', blueprint.withChange.Shape changes' adds rest ∧
      changes'.flatten = changes.flatten ++ blueprint.unlistedChanges := by
  rcases with_change_cases blueprint with ⟨nothing, same⟩ | same
  · rw [same, nothing]
    exact ⟨changes, shape, (List.append_nil _).symm⟩
  · refine ⟨changes ++ [blueprint.unlistedChanges], ⟨?_, shape.plain⟩, by simp⟩
    have position : afterLast Command.isChange blueprint.commands =
        (changes.map Command.change).length := by
      rw [shape.commands]
      apply afterLast_between
      · intro command member
        obtain ⟨names, _, rfl⟩ := List.mem_map.mp member
        rfl
      · intro command member
        rcases List.mem_append.mp member with addition | other
        · obtain ⟨names, _, rfl⟩ := List.mem_map.mp addition
          rfl
        · have plain := shape.plain command other
          rw [Command.isAlteration, Bool.or_eq_false_iff] at plain
          exact plain.1
    rw [same]
    simp only
    rw [position, shape.commands, insertAt_between, List.map_append, List.map_singleton,
      List.append_assoc, List.singleton_append]

theorem with_addition (shape : blueprint.Shape changes adds rest) :
    ∃ adds', blueprint.withAddition.Shape changes adds' rest ∧
      adds'.flatten = adds.flatten ++ blueprint.unlistedAdditions := by
  rcases with_addition_cases blueprint with ⟨nothing, same⟩ | same
  · rw [same, nothing]
    exact ⟨adds, shape, (List.append_nil _).symm⟩
  · refine ⟨adds ++ [blueprint.unlistedAdditions], ⟨?_, shape.plain⟩, by simp⟩
    have regrouped : blueprint.commands =
        (changes.map Command.change ++ adds.map Command.add) ++ rest := by
      rw [shape.commands, List.append_assoc]
    have position : afterLast (fun command => command.isChange || command.isAdd)
        blueprint.commands = (changes.map Command.change ++ adds.map Command.add).length := by
      rw [regrouped]
      apply afterLast_between
      · intro command member
        rcases List.mem_append.mp member with change | addition
        · obtain ⟨names, _, rfl⟩ := List.mem_map.mp change
          rfl
        · obtain ⟨names, _, rfl⟩ := List.mem_map.mp addition
          rfl
      · exact shape.plain
    rw [same]
    simp only
    rw [position, regrouped, insertAt_between, List.map_append, List.map_singleton]
    simp only [List.append_assoc, List.singleton_append]

end Shape

variable {blueprint : Blueprint} {seen later : List Column}

theorem Registered.listed_additions (registered : blueprint.Registered seen later) :
    blueprint.listedAdditions = (seen.filter (!·.change)).map (·.name) := by
  obtain ⟨_, changes, adds, rest, shape, _, added⟩ := registered
  rw [shape.listed_additions, added]

theorem registered_with_implied (altered : blueprint.creating = false)
    (distinct : DistinctNames blueprint.columns) (registered : blueprint.Registered seen later) :
    blueprint.withImplied.Registered blueprint.columns [] := by
  obtain ⟨columns, changes, adds, rest, shape, changed, added⟩ := registered
  rw [columns] at distinct
  have unlistedChanges : blueprint.unlistedChanges = (later.filter (·.change)).map (·.name) := by
    rw [← unlisted_of_later distinct, ← changed, ← shape.listed_changes, ← columns]
    rfl
  have unlistedAdditions :
      blueprint.unlistedAdditions = (later.filter (!·.change)).map (·.name) := by
    rw [← unlisted_of_later distinct, ← added, ← shape.listed_additions, ← columns]
    rfl
  obtain ⟨changes', withChange, changed'⟩ := shape.with_change
  obtain ⟨adds', withAddition, added'⟩ := withChange.with_addition
  have alterations : blueprint.withAlterations = blueprint.withChange.withAddition := by
    rw [withAlterations, altered]
    rfl
  refine ⟨by rw [(with_implied_same_table blueprint).columns, List.append_nil], changes', adds',
    rest ++ blueprint.withAlterations.missingIndexes, ?_, ?_, ?_⟩
  · refine withAddition.append (fun command missing => (plain_of_missing missing).1) ?_
    rw [with_implied_eq, alterations]
  · rw [changed', changed, unlistedChanges, columns, List.filter_append, List.map_append]
  · rw [added', with_change_unlisted_additions, added, unlistedAdditions, columns, List.filter_append,
      List.map_append]

theorem registered_with_implied_of_creating (creating : blueprint.creating = true)
    (registered : blueprint.Registered seen later) :
    blueprint.withImplied.Registered seen later := by
  obtain ⟨columns, changes, adds, rest, shape, changed, added⟩ := registered
  have alterations := with_alterations_of_creating creating
  refine ⟨(with_implied_same_table blueprint).columns.trans columns, changes, adds,
    rest ++ blueprint.missingIndexes, ?_, changed, added⟩
  refine shape.append (fun command missing => (plain_of_missing missing).1) ?_
  rw [with_implied_eq, alterations]

theorem registered_call (registered : blueprint.Registered seen later) (call : BuildStep) :
    (call.apply blueprint).Registered seen (later ++ call.columns) := by
  obtain ⟨columns, changes, adds, rest, shape, changed, added⟩ := registered
  rw [call.apply_eq]
  refine ⟨by simp [columns], changes, adds, rest ++ call.commands blueprint, ?_, changed, added⟩
  exact shape.append (fun command member => (call.plain_commands blueprint command member).1) rfl

theorem registered_step (named : AllNamed blueprint) (registered : blueprint.Registered seen later)
    (distinct : DistinctNames blueprint.columns) (step : HistoryStep) :
    ∃ seen' later', (step.apply blueprint).Registered seen' later' := by
  rcases step.apply_cases blueprint with ⟨call, rfl, applied⟩ | ⟨_, applied⟩
  · rw [applied]
    exact ⟨_, _, registered_call registered call⟩
  · rw [applied, resolve_of_named named]
    cases creating : blueprint.creating with
    | true => exact ⟨_, _, registered_with_implied_of_creating creating registered⟩
    | false => exact ⟨_, _, registered_with_implied creating distinct registered⟩

/-- Whatever happens to a blueprint, its listed columns are listed once and in order. -/
theorem registered_history (named : AllNamed blueprint)
    (registered : blueprint.Registered seen later) {steps : List HistoryStep}
    (distinct : DistinctNames (blueprint.afterHistory steps).columns) :
    ∃ seen' later', (blueprint.afterHistory steps).Registered seen' later' := by
  induction steps generalizing blueprint seen later with
  | nil => exact ⟨seen, later, registered⟩
  | cons step steps ih =>
      obtain ⟨seen', later', next⟩ := registered_step named registered
        (distinct_before_history distinct) step
      exact ih (all_named_step named step) next distinct

end Blueprint

end SchemaBlueprint
