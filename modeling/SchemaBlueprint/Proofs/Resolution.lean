import SchemaBlueprint.Proofs.Registration

/-!
The outcome of the implied-command pass. A registered blueprint is complete, a complete one is left
as it is, and filling in names keeps it complete; so asking twice is asking once.
-/

namespace SchemaBlueprint.Blueprint

set_option autoImplicit false

/-- Nothing is missing: the columns of a table that is there are all listed, every flag has its key
or index, and a counting column has a primary key. -/
structure Complete (blueprint : Blueprint) : Prop where
  listed : blueprint.creating = true ∨
    (blueprint.unlistedChanges = [] ∧ blueprint.unlistedAdditions = [])
  flagged : ∀ column ∈ blueprint.columns, ∀ command ∈ blueprint.flaggedIndexes column,
    blueprint.hasIndex command = true
  counted : blueprint.primary? ≠ none ∨ blueprint.columns.find? Column.isCounter = none

theorem with_implied_of_complete {blueprint : Blueprint} (complete : Complete blueprint) :
    blueprint.withImplied = blueprint := by
  have alterations : blueprint.withAlterations = blueprint := by
    rcases complete.listed with creating | ⟨changes, additions⟩
    · exact with_alterations_of_creating creating
    · have change : blueprint.withChange = blueprint := by simp [withChange, changes]
      have addition : blueprint.withAddition = blueprint := by simp [withAddition, additions]
      rw [withAlterations, change, addition, ite_self]
  have flagged : blueprint.missingFlagged = [] := by
    apply List.eq_nil_iff_forall_not_mem.mpr
    intro command missing
    obtain ⟨⟨column, member, asked⟩, absent⟩ := mem_missing_flagged.mp missing
    simp [complete.flagged column member command asked] at absent
  have unchanged : blueprint.withFlaggedIndexes = blueprint := by
    change { blueprint with commands := blueprint.commands ++ blueprint.missingFlagged } = _
    rw [flagged, List.append_nil]
  have counted : blueprint.missingPrimary = [] := by
    apply List.eq_nil_iff_forall_not_mem.mpr
    intro command missing
    obtain ⟨absent, column, counter, _⟩ := mem_missing_primary.mp missing
    rcases complete.counted with present | none
    · exact present absent
    · simp [none] at counter
  have indexes : blueprint.missingIndexes = [] := by
    rw [missingIndexes, flagged, unchanged, counted, List.append_nil]
  rw [with_implied_eq, alterations, indexes, List.append_nil]

theorem lists_name_iff (names : List String) (name : String) :
    Text.listsName names name = true ↔ ∃ listed ∈ names, Text.sameName listed name = true := by
  simp [Text.listsName]

theorem filter_unlisted_eq_nil {names listed : List String}
    (all : ∀ name ∈ names, Text.listsName listed name = true) :
    names.filter (fun name => !Text.listsName listed name) = [] := by
  simpa using all

theorem all_listed {names listed after : List String}
    (grown : after.Perm (names.filter (fun name => !Text.listsName listed name) ++ listed)) :
    ∀ name ∈ names, Text.listsName after name = true := by
  intro name member
  rw [lists_name_iff]
  cases already : Text.listsName listed name with
  | true =>
      obtain ⟨other, old, same⟩ := (lists_name_iff listed name).mp already
      exact ⟨other, grown.mem_iff.mpr (List.mem_append_right _ old), same⟩
  | false =>
      have fresh : name ∈ names.filter fun name => !Text.listsName listed name := by
        simp [member, already]
      exact ⟨name, grown.mem_iff.mpr (List.mem_append_left _ fresh), Text.sameName_refl name⟩

theorem complete_with_implied (blueprint : Blueprint) : Complete blueprint.withImplied := by
  have same := with_implied_same_table blueprint
  have remaining := with_implied_remaining blueprint
  obtain ⟨changes, additions⟩ := with_implied_listed blueprint
  constructor
  · cases creating : blueprint.creating with
    | true =>
        left
        rw [with_implied_creating, creating]
    | false =>
        right
        obtain ⟨grownChanges, grownAdditions⟩ := with_alterations_listed creating
        constructor
        · apply filter_unlisted_eq_nil
          change ∀ name ∈ (blueprint.withImplied.columns.filter _).map _,
            Text.listsName blueprint.withImplied.listedChanges name = true
          rw [changes, same.columns]
          exact all_listed grownChanges
        · apply filter_unlisted_eq_nil
          change ∀ name ∈ (blueprint.withImplied.columns.filter _).map _,
            Text.listsName blueprint.withImplied.listedAdditions name = true
          rw [additions, same.columns]
          exact all_listed grownAdditions
  · -- A flagged index that was not there has been appended as it stands.
    intro column member command asked
    rw [same.columns] at member
    rw [same.flagged_indexes] at asked
    rw [has_index_eq_remaining, remaining, List.any_append, ← has_index_eq_remaining]
    cases present : blueprint.hasIndex command with
    | true => rfl
    | false =>
        obtain ⟨kind, _, declared⟩ := mem_flagged_indexes.mp asked
        have missing : command ∈ blueprint.withAlterations.missingFlagged := by
          have altered := with_alterations_same_table blueprint
          refine mem_missing_flagged.mpr ⟨⟨column, ?_, ?_⟩, ?_⟩
          · rwa [altered.columns]
          · rwa [altered.flagged_indexes]
          · rwa [has_index_eq_remaining, with_alterations_remaining, ← has_index_eq_remaining]
        rw [Bool.false_or, List.any_eq_true]
        exact ⟨command, List.mem_append_left _ missing, same_index_refl declared⟩
  · rw [withImplied, with_implied_primary_eq]
    generalize blueprint.withAlterations.withFlaggedIndexes = flagged
    cases key : flagged.primary? with
    | some spec =>
        left
        have found : flagged.commands.findSome? Command.primary? = some spec := key
        rw [primary?, List.findSome?_append, found]
        simp
    | none =>
        cases counter : flagged.columns.find? Column.isCounter with
        | none => exact .inr rfl
        | some column =>
            left
            have none_before : flagged.commands.findSome? Command.primary? = none := key
            rw [primary?, List.findSome?_append, none_before, missingPrimary, key, counter]
            simp [Command.primary?]

theorem filled_index_named (blueprint : Blueprint) (kind : IndexKind) (spec : IndexSpec) :
    (blueprint.filledIndex kind spec).name ≠ "" := by
  unfold filledIndex
  split
  · exact blueprint.index_name_ne_empty _ _
  · rename_i given
    simpa [String.isEmpty_iff] using given

theorem filled_index_columns (blueprint : Blueprint) (kind : IndexKind) (spec : IndexSpec) :
    (blueprint.filledIndex kind spec).columns = spec.columns := by
  unfold filledIndex
  split <;> rfl

theorem filled_index_implied (blueprint : Blueprint) (kind : IndexKind) (spec : IndexSpec) :
    (blueprint.filledIndex kind spec).implied = spec.implied := by
  unfold filledIndex
  split <;> rfl

theorem named_foreign_named (blueprint : Blueprint) (key : ForeignKey) :
    (blueprint.namedForeign key).name ≠ "" := by
  unfold namedForeign
  split
  · exact blueprint.index_name_ne_empty _ _
  · rename_i given
    simpa [String.isEmpty_iff] using given

theorem named_filled_command (blueprint : Blueprint) (command : Command) :
    (blueprint.filledCommand command).Named := by
  cases command <;>
    simp [filledCommand, Command.Named, Command.keyName?, filled_index_named, named_foreign_named]

theorem filled_command_of_named {blueprint : Blueprint} {command : Command}
    (named : command.Named) : blueprint.filledCommand command = command := by
  cases command <;>
    simp_all [filledCommand, filledIndex, namedForeign, Command.Named, Command.keyName?,
      String.isEmpty_iff]

theorem same_index_filled_command (blueprint : Blueprint) (left right : Command) :
    sameIndex (blueprint.filledCommand left) right = sameIndex left right := by
  cases left <;> cases right <;> simp [filledCommand, sameIndex, filled_index_columns]

theorem primaries_with_names (blueprint : Blueprint) :
    blueprint.withNames.commands.filterMap Command.primary? =
      (blueprint.commands.filterMap Command.primary?).map (blueprint.filledIndex .primary) := by
  have declared : ∀ command : Command, (blueprint.filledCommand command).primary? =
      command.primary?.map (blueprint.filledIndex .primary) := by
    intro command
    cases command <;> rfl
  rw [withNames, List.filterMap_map, List.map_filterMap]
  congr 1
  funext command
  exact declared command

theorem primary_with_names (blueprint : Blueprint) :
    blueprint.withNames.primary? = blueprint.primary?.map (blueprint.filledIndex .primary) := by
  rw [primary?, ← List.head?_filterMap, primaries_with_names, List.head?_map, List.head?_filterMap,
    primary?]

theorem primary_count_with_names (blueprint : Blueprint) :
    blueprint.withNames.primaryCount = blueprint.primaryCount := by
  rw [primaryCount, primaries_with_names, List.length_map, primaryCount]

theorem with_names_creating (blueprint : Blueprint) :
    blueprint.withNames.creating = blueprint.creating := by
  have creates : ∀ command : Command,
      (blueprint.filledCommand command).isCreate = command.isCreate := by
    intro command
    cases command <;> rfl
  simp only [creating, withNames, List.any_map, Function.comp_def, creates]

theorem with_names_listed (blueprint : Blueprint) :
    blueprint.withNames.listedChanges = blueprint.listedChanges ∧
      blueprint.withNames.listedAdditions = blueprint.listedAdditions := by
  have listed : ∀ command : Command,
      (blueprint.filledCommand command).changedNames = command.changedNames ∧
        (blueprint.filledCommand command).addedNames = command.addedNames := by
    intro command
    cases command <;> exact ⟨rfl, rfl⟩
  constructor
  · simp only [listedChanges, withNames, List.flatMap_map, listed]
  · simp only [listedAdditions, withNames, List.flatMap_map, listed]

theorem complete_with_names {blueprint : Blueprint} (complete : Complete blueprint) :
    Complete blueprint.withNames := by
  have same : SameTable blueprint blueprint.withNames := ⟨rfl, rfl, rfl⟩
  obtain ⟨changed, added⟩ := with_names_listed blueprint
  have changes : blueprint.withNames.unlistedChanges = blueprint.unlistedChanges := by
    change (blueprint.changedColumns.map (·.name)).filter
      (fun name => !Text.listsName blueprint.withNames.listedChanges name) = _
    rw [changed]
    rfl
  have additions : blueprint.withNames.unlistedAdditions = blueprint.unlistedAdditions := by
    change (blueprint.addedColumns.map (·.name)).filter
      (fun name => !Text.listsName blueprint.withNames.listedAdditions name) = _
    rw [added]
    rfl
  constructor
  · rw [changes, additions, with_names_creating]
    exact complete.listed
  · intro column member command asked
    rw [same.flagged_indexes] at asked
    have present := complete.flagged column member command asked
    simpa [hasIndex, withNames, same_index_filled_command] using present
  · refine complete.counted.imp ?_ id
    rw [primary_with_names]
    exact fun present absent => present (Option.map_eq_none_iff.mp absent)

theorem resolve_cases (blueprint : Blueprint) :
    (1 < blueprint.withImplied.primaryCount ∧ blueprint.resolve = (blueprint.withImplied,
      .error (.config (.primaryKeys blueprint.table blueprint.withImplied.primaryCount)))) ∨
    (blueprint.withImplied.primaryCount ≤ 1 ∧
      blueprint.resolve = (blueprint.withImplied.withNames, .ok ())) := by
  by_cases several : 1 < blueprint.withImplied.primaryCount
  · left
    refine ⟨several, ?_⟩
    rw [resolve, if_pos several, (with_implied_same_table blueprint).table]
  · right
    exact ⟨Nat.le_of_not_lt several, if_neg several⟩

theorem resolve_same_table (blueprint : Blueprint) : SameTable blueprint blueprint.resolve.1 := by
  have same := with_implied_same_table blueprint
  rcases resolve_cases blueprint with ⟨_, resolved⟩ | ⟨_, resolved⟩
  · rw [resolved]
    exact same
  · rw [resolved]
    exact ⟨same.table, same.tablePrefix, same.columns⟩

theorem resolve_creating (blueprint : Blueprint) :
    blueprint.resolve.1.creating = blueprint.creating := by
  rcases resolve_cases blueprint with ⟨_, resolved⟩ | ⟨_, resolved⟩
  · rw [resolved, with_implied_creating]
  · rw [resolved, with_names_creating, with_implied_creating]

theorem single_key_of_resolved {blueprint : Blueprint} (resolved : blueprint.resolve.2 = .ok ()) :
    blueprint.resolve.1.primaryCount ≤ 1 := by
  rcases resolve_cases blueprint with ⟨_, several⟩ | ⟨single, single_resolved⟩
  · rw [several] at resolved
    cases resolved
  · rwa [single_resolved, primary_count_with_names]

theorem resolve_resolved (blueprint : Blueprint) :
    blueprint.resolve.1.resolve = blueprint.resolve := by
  have complete := complete_with_implied blueprint
  rcases resolve_cases blueprint with ⟨several, resolved⟩ | ⟨single, resolved⟩
  · have kept := with_implied_of_complete complete
    rw [resolved]
    simp only
    rw [resolve, kept, if_pos several, (with_implied_same_table blueprint).table]
  · have kept := with_implied_of_complete (complete_with_names complete)
    have named : blueprint.withImplied.withNames.withNames = blueprint.withImplied.withNames := by
      have same : SameTable blueprint.withImplied blueprint.withImplied.withNames := ⟨rfl, rfl, rfl⟩
      rw [withNames, same.filled_command]
      have filled : ∀ command ∈ blueprint.withImplied.withNames.commands,
          blueprint.withImplied.filledCommand command = command := by
        intro command member
        obtain ⟨other, _, rfl⟩ := List.mem_map.mp member
        exact filled_command_of_named (named_filled_command _ other)
      rw [List.map_congr_left filled, List.map_id']
    have count : ¬ 1 < blueprint.withImplied.withNames.primaryCount := by
      rw [primary_count_with_names]
      omega
    rw [resolved]
    simp only
    rw [resolve, kept, if_neg count, named]

end SchemaBlueprint.Blueprint
