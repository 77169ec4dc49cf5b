import SchemaBlueprint.Proofs.GeneratedName
import SchemaBlueprint.Proofs.KeyCommand
import SchemaBlueprint.Proofs.Placement

/-!
What each phase of the implied-command pass does to a blueprint, said once. An alteration is put in
somewhere and leaves the remaining commands as they are; keys and indexes are appended; names are
filled in place. Later statements about the pass use these facts and not its definition.
-/

namespace SchemaBlueprint.Blueprint

set_option autoImplicit false

def impliedKey (blueprint : Blueprint) (column : Column) : IndexSpec :=
  { blueprint.namedIndex .primary [column.name] with implied := true }

structure SameTable (before after : Blueprint) : Prop where
  table : after.table = before.table
  tablePrefix : after.tablePrefix = before.tablePrefix
  columns : after.columns = before.columns

namespace SameTable

variable {before between after : Blueprint}

theorem refl (blueprint : Blueprint) : SameTable blueprint blueprint := ⟨rfl, rfl, rfl⟩

theorem trans (first : SameTable before between) (second : SameTable between after) :
    SameTable before after :=
  ⟨second.table.trans first.table, second.tablePrefix.trans first.tablePrefix,
    second.columns.trans first.columns⟩

theorem index_name (same : SameTable before after) : after.indexName = before.indexName := by
  funext kindWord columns
  simp only [indexName, same.table, same.tablePrefix]

theorem flagged_indexes (same : SameTable before after) :
    after.flaggedIndexes = before.flaggedIndexes := by
  funext column
  simp only [flaggedIndexes, namedIndex, same.index_name]

theorem implied_key (same : SameTable before after) : after.impliedKey = before.impliedKey := by
  funext column
  simp only [impliedKey, namedIndex, same.index_name]

theorem filled_command (same : SameTable before after) :
    after.filledCommand = before.filledCommand := by
  funext command
  cases command <;> simp only [filledCommand, filledIndex, namedForeign, same.index_name]

end SameTable

/-- The commands other than those that alter columns. -/
def remaining (blueprint : Blueprint) : List Command :=
  blueprint.commands.filter fun command => !command.isAlteration

def listedChanges (blueprint : Blueprint) : List String :=
  blueprint.commands.flatMap Command.changedNames

def listedAdditions (blueprint : Blueprint) : List String :=
  blueprint.commands.flatMap Command.addedNames

theorem any_remaining {holds : Command → Bool} (noChange : ∀ names, holds (.change names) = false)
    (noAddition : ∀ names, holds (.add names) = false) (blueprint : Blueprint) :
    blueprint.remaining.any holds = blueprint.commands.any holds := by
  rw [remaining, List.any_filter]
  congr 1
  funext command
  cases altering : command.isAlteration with
  | false => rfl
  | true => obtain ⟨names, rfl⟩ | ⟨names, rfl⟩ := Command.alteration_cases altering <;>
      simp [noChange, noAddition]

theorem filterMap_remaining {Item : Type} {select : Command → Option Item}
    (noChange : ∀ names, select (.change names) = none)
    (noAddition : ∀ names, select (.add names) = none) (blueprint : Blueprint) :
    blueprint.remaining.filterMap select = blueprint.commands.filterMap select := by
  rw [remaining, List.filterMap_filter]
  congr 1
  funext command
  cases altering : command.isAlteration with
  | false => rfl
  | true => obtain ⟨names, rfl⟩ | ⟨names, rfl⟩ := Command.alteration_cases altering <;>
      simp [noChange, noAddition]

theorem primary_none_iff (blueprint : Blueprint) :
    blueprint.primary? = none ↔ ∀ command ∈ blueprint.commands, command.spec? .primary = none := by
  simp only [primary?, List.findSome?_eq_none_iff, Command.primary_eq_spec]

theorem creating_eq_remaining (blueprint : Blueprint) :
    blueprint.creating = blueprint.remaining.any Command.isCreate :=
  (any_remaining (fun _ => rfl) (fun _ => rfl) blueprint).symm

theorem has_index_eq_remaining (blueprint : Blueprint) (candidate : Command) :
    blueprint.hasIndex candidate =
      blueprint.remaining.any fun command => sameIndex command candidate :=
  (any_remaining (fun _ => by cases candidate <;> rfl) (fun _ => by cases candidate <;> rfl)
    blueprint).symm

theorem primary_eq_remaining (blueprint : Blueprint) :
    blueprint.primary? = (blueprint.remaining.filterMap Command.primary?).head? := by
  rw [filterMap_remaining (fun _ => rfl) (fun _ => rfl), List.head?_filterMap, primary?]

theorem foreign_eq_remaining (blueprint : Blueprint) :
    blueprint.foreignKeys = blueprint.remaining.filterMap Command.foreign? := by
  rw [filterMap_remaining (fun _ => rfl) (fun _ => rfl), foreignKeys]

theorem with_change_cases (blueprint : Blueprint) :
    (blueprint.unlistedChanges = [] ∧ blueprint.withChange = blueprint) ∨
      blueprint.withChange = { blueprint with
        commands := insertAt (afterLast Command.isChange blueprint.commands)
          (.change blueprint.unlistedChanges) blueprint.commands } := by
  unfold withChange
  split
  · rename_i nothing
    exact .inl ⟨nothing, rfl⟩
  · exact .inr rfl

theorem with_addition_cases (blueprint : Blueprint) :
    (blueprint.unlistedAdditions = [] ∧ blueprint.withAddition = blueprint) ∨
      blueprint.withAddition = { blueprint with
        commands := insertAt
          (afterLast (fun command => command.isChange || command.isAdd) blueprint.commands)
          (.add blueprint.unlistedAdditions) blueprint.commands } := by
  unfold withAddition
  split
  · rename_i nothing
    exact .inl ⟨nothing, rfl⟩
  · exact .inr rfl

theorem with_change_same_table (blueprint : Blueprint) :
    SameTable blueprint blueprint.withChange := by
  obtain ⟨_, same⟩ | same := with_change_cases blueprint <;> rw [same] <;> exact ⟨rfl, rfl, rfl⟩

theorem with_addition_same_table (blueprint : Blueprint) :
    SameTable blueprint blueprint.withAddition := by
  obtain ⟨_, same⟩ | same := with_addition_cases blueprint <;> rw [same] <;> exact ⟨rfl, rfl, rfl⟩

theorem with_change_remaining (blueprint : Blueprint) :
    blueprint.withChange.remaining = blueprint.remaining := by
  obtain ⟨_, same⟩ | same := with_change_cases blueprint
  · rw [same]
  · rw [same]
    exact filter_insertAt rfl _ _

theorem with_addition_remaining (blueprint : Blueprint) :
    blueprint.withAddition.remaining = blueprint.remaining := by
  obtain ⟨_, same⟩ | same := with_addition_cases blueprint
  · rw [same]
  · rw [same]
    exact filter_insertAt rfl _ _

theorem with_change_listed (blueprint : Blueprint) :
    blueprint.withChange.listedChanges.Perm (blueprint.unlistedChanges ++ blueprint.listedChanges) ∧
      blueprint.withChange.listedAdditions = blueprint.listedAdditions := by
  obtain ⟨nothing, same⟩ | same := with_change_cases blueprint
  · rw [same, nothing]
    exact ⟨.refl _, rfl⟩
  · rw [same]
    exact ⟨(insertAt_perm _ _ _).flatMap_right _, flatMap_insertAt rfl _ _⟩

theorem with_addition_listed (blueprint : Blueprint) :
    blueprint.withAddition.listedAdditions.Perm
        (blueprint.unlistedAdditions ++ blueprint.listedAdditions) ∧
      blueprint.withAddition.listedChanges = blueprint.listedChanges := by
  obtain ⟨nothing, same⟩ | same := with_addition_cases blueprint
  · rw [same, nothing]
    exact ⟨.refl _, rfl⟩
  · rw [same]
    exact ⟨(insertAt_perm _ _ _).flatMap_right _, flatMap_insertAt rfl _ _⟩

theorem with_alterations_same_table (blueprint : Blueprint) :
    SameTable blueprint blueprint.withAlterations := by
  unfold withAlterations
  split
  · exact .refl _
  · exact (with_change_same_table _).trans (with_addition_same_table _)

theorem with_alterations_remaining (blueprint : Blueprint) :
    blueprint.withAlterations.remaining = blueprint.remaining := by
  unfold withAlterations
  split
  · rfl
  · rw [with_addition_remaining, with_change_remaining]

theorem mem_with_alterations {blueprint : Blueprint} {command : Command}
    (member : command ∈ blueprint.withAlterations.commands) :
    command ∈ blueprint.commands ∨ command.isAlteration = true := by
  cases altering : command.isAlteration with
  | true => exact .inr rfl
  | false =>
      have kept : command ∈ blueprint.withAlterations.remaining :=
        List.mem_filter.mpr ⟨member, by simp [altering]⟩
      rw [with_alterations_remaining] at kept
      exact .inl (List.mem_filter.mp kept).1

theorem with_alterations_of_creating {blueprint : Blueprint} (creating : blueprint.creating = true) :
    blueprint.withAlterations = blueprint := by
  simp [withAlterations, creating]

theorem with_change_unlisted_additions (blueprint : Blueprint) :
    blueprint.withChange.unlistedAdditions = blueprint.unlistedAdditions := by
  change ((blueprint.withChange.columns.filter (!·.change)).map (·.name)).filter
    (fun name => !Text.listsName blueprint.withChange.listedAdditions name) = _
  rw [(with_change_listed blueprint).2, (with_change_same_table blueprint).columns]
  rfl

theorem with_alterations_listed {blueprint : Blueprint} (altered : blueprint.creating = false) :
    blueprint.withAlterations.listedChanges.Perm
        (blueprint.unlistedChanges ++ blueprint.listedChanges) ∧
      blueprint.withAlterations.listedAdditions.Perm
        (blueprint.unlistedAdditions ++ blueprint.listedAdditions) := by
  obtain ⟨changes, additionsKept⟩ := with_change_listed blueprint
  obtain ⟨additions, changesKept⟩ := with_addition_listed blueprint.withChange
  rw [withAlterations, if_neg (by simp [altered])]
  rw [changesKept]
  rw [with_change_unlisted_additions, additionsKept] at additions
  exact ⟨changes, additions⟩

def missingFlagged (blueprint : Blueprint) : List Command :=
  (blueprint.columns.flatMap blueprint.flaggedIndexes).filter fun command =>
    !blueprint.hasIndex command

def missingPrimary (blueprint : Blueprint) : List Command :=
  match blueprint.primary? with
  | some _ => []
  | none =>
      match blueprint.columns.find? Column.isCounter with
      | none => []
      | some column => [.primary (blueprint.impliedKey column)]

def missingIndexes (blueprint : Blueprint) : List Command :=
  blueprint.missingFlagged ++ blueprint.withFlaggedIndexes.missingPrimary

theorem with_implied_primary_eq (blueprint : Blueprint) :
    blueprint.withImpliedPrimary =
      { blueprint with commands := blueprint.commands ++ blueprint.missingPrimary } := by
  cases key : blueprint.primary? with
  | some _ => simp [withImpliedPrimary, missingPrimary, key]
  | none =>
      cases counter : blueprint.columns.find? Column.isCounter with
      | none => simp [withImpliedPrimary, missingPrimary, key, counter]
      | some _ => simp [withImpliedPrimary, missingPrimary, impliedKey, key, counter, push]

theorem with_indexes_eq (blueprint : Blueprint) :
    blueprint.withFlaggedIndexes.withImpliedPrimary =
      { blueprint with commands := blueprint.commands ++ blueprint.missingIndexes } := by
  rw [with_implied_primary_eq, missingIndexes, ← List.append_assoc]
  rfl

theorem with_implied_eq (blueprint : Blueprint) :
    blueprint.withImplied = { blueprint.withAlterations with
      commands := blueprint.withAlterations.commands ++
        blueprint.withAlterations.missingIndexes } :=
  with_indexes_eq _

theorem with_implied_same_table (blueprint : Blueprint) :
    SameTable blueprint blueprint.withImplied := by
  rw [with_implied_eq]
  exact (with_alterations_same_table blueprint).trans ⟨rfl, rfl, rfl⟩

theorem mem_missing_flagged {blueprint : Blueprint} {command : Command} :
    command ∈ blueprint.missingFlagged ↔
      (∃ column ∈ blueprint.columns, command ∈ blueprint.flaggedIndexes column) ∧
        blueprint.hasIndex command = false := by
  simp [missingFlagged]

theorem mem_missing_primary {blueprint : Blueprint} {command : Command} :
    command ∈ blueprint.missingPrimary ↔
      blueprint.primary? = none ∧ ∃ column, blueprint.columns.find? Column.isCounter = some column ∧
        command = .primary (blueprint.impliedKey column) := by
  cases key : blueprint.primary? with
  | some _ => simp [missingPrimary, key]
  | none =>
      cases counter : blueprint.columns.find? Column.isCounter with
      | none => simp [missingPrimary, key, counter]
      | some _ => simp [missingPrimary, key, counter]

theorem with_flagged_primary_none_iff (blueprint : Blueprint) :
    blueprint.withFlaggedIndexes.primary? = none ↔
      blueprint.primary? = none ∧ ∀ column ∈ blueprint.columns, column.primary = false := by
  rw [primary_none_iff, primary_none_iff]
  constructor
  · intro absent
    refine ⟨fun command there => absent command (List.mem_append_left _ there), ?_⟩
    intro column member
    rw [Bool.eq_false_iff]
    intro flagged
    have asked : Command.primary (blueprint.namedIndex .primary [column.name]) ∈
        blueprint.flaggedIndexes column := mem_flagged_indexes.mpr ⟨.primary, flagged, rfl⟩
    -- Either the flag's key is there already or it has been appended: both are primary keys.
    cases present : blueprint.hasIndex (.primary (blueprint.namedIndex .primary [column.name])) with
    | true =>
        obtain ⟨command, there, same⟩ := (has_index_iff _ _).mp present
        have different := not_same_index_of_no_primary
          (blueprint.namedIndex .primary [column.name]) (absent command (List.mem_append_left _ there))
        simp [different] at same
    | false =>
        have missing := mem_missing_flagged.mpr ⟨⟨column, member, asked⟩, present⟩
        have none_there := absent _ (List.mem_append_right _ missing)
        simp [Command.spec?] at none_there
  · rintro ⟨absent, unflagged⟩ command member
    rcases List.mem_append.mp member with old | new
    · exact absent command old
    · obtain ⟨⟨column, inColumns, asked⟩, _⟩ := mem_missing_flagged.mp new
      obtain ⟨kind, flag, declared⟩ := mem_flagged_indexes.mp asked
      cases spec : command.spec? .primary with
      | none => rfl
      | some key =>
          obtain rfl := Command.spec_kind_eq spec declared
          simp [Column.flag, unflagged column inColumns] at flag

theorem mem_missing_indexes {blueprint : Blueprint} {command : Command} :
    command ∈ blueprint.missingIndexes ↔
      ((∃ column ∈ blueprint.columns, command ∈ blueprint.flaggedIndexes column) ∧
        blueprint.hasIndex command = false) ∨
      ((blueprint.primary? = none ∧ ∀ column ∈ blueprint.columns, column.primary = false) ∧
        ∃ column, blueprint.columns.find? Column.isCounter = some column ∧
          command = .primary (blueprint.impliedKey column)) := by
  rw [missingIndexes, List.mem_append, mem_missing_flagged, mem_missing_primary,
    with_flagged_primary_none_iff]
  rfl

theorem mem_missing_with_alterations {blueprint : Blueprint} {command : Command} :
    command ∈ blueprint.withAlterations.missingIndexes ↔ command ∈ blueprint.missingIndexes := by
  have same := with_alterations_same_table blueprint
  have present : blueprint.withAlterations.hasIndex command = blueprint.hasIndex command := by
    rw [has_index_eq_remaining, with_alterations_remaining, ← has_index_eq_remaining]
  have primary : blueprint.withAlterations.primary? = blueprint.primary? := by
    rw [primary_eq_remaining, with_alterations_remaining, ← primary_eq_remaining]
  rw [mem_missing_indexes, mem_missing_indexes, same.columns, same.flagged_indexes,
    same.implied_key, present, primary]

theorem spec_of_missing {blueprint : Blueprint} {command : Command}
    (missing : command ∈ blueprint.missingIndexes) :
    ∃ kind, ∃ column ∈ blueprint.columns, ∃ spec, command.spec? kind = some spec ∧
      spec.columns = [column.name] ∧ spec.name = blueprint.indexName kind.word [column.name] := by
  rcases List.mem_append.mp missing with flagged | counted
  · obtain ⟨⟨column, member, asked⟩, _⟩ := mem_missing_flagged.mp flagged
    obtain ⟨kind, _, declared⟩ := mem_flagged_indexes.mp asked
    exact ⟨kind, column, member, _, declared, rfl, rfl⟩
  · obtain ⟨_, column, counter, rfl⟩ := mem_missing_primary.mp counted
    exact ⟨.primary, column, List.mem_of_find?_eq_some counter, _, rfl, rfl, rfl⟩

theorem plain_of_missing {blueprint : Blueprint} {command : Command}
    (missing : command ∈ blueprint.missingIndexes) :
    command.isAlteration = false ∧ command.isCreate = false ∧ command.foreign? = none := by
  obtain ⟨_, _, _, _, declared, _⟩ := spec_of_missing missing
  exact Command.plain_of_spec declared

theorem with_implied_remaining (blueprint : Blueprint) :
    blueprint.withImplied.remaining =
      blueprint.remaining ++ blueprint.withAlterations.missingIndexes := by
  have kept : blueprint.withAlterations.missingIndexes.filter (fun command =>
      !command.isAlteration) = blueprint.withAlterations.missingIndexes :=
    List.filter_eq_self.mpr fun command missing => by simp [(plain_of_missing missing).1]
  rw [with_implied_eq, remaining, List.filter_append, kept, ← remaining,
    with_alterations_remaining]

theorem with_implied_creating (blueprint : Blueprint) :
    blueprint.withImplied.creating = blueprint.creating := by
  have silent : blueprint.withAlterations.missingIndexes.any Command.isCreate = false := by
    rw [List.any_eq_false]
    intro command missing
    simp [(plain_of_missing missing).2.1]
  rw [creating_eq_remaining, with_implied_remaining, List.any_append, silent, Bool.or_false,
    ← creating_eq_remaining]

theorem changed_names_of_plain {command : Command} (plain : command.isAlteration = false) :
    command.changedNames = [] ∧ command.addedNames = [] := by
  cases command <;> first | exact ⟨rfl, rfl⟩ | simp [Command.isAlteration, Command.isChange,
    Command.isAdd] at plain

theorem flatMap_names_of_plain {commands : List Command}
    (plain : ∀ command ∈ commands, command.isAlteration = false) :
    commands.flatMap Command.changedNames = [] ∧ commands.flatMap Command.addedNames = [] :=
  ⟨List.flatMap_eq_nil_iff.mpr fun command member =>
      (changed_names_of_plain (plain command member)).1,
    List.flatMap_eq_nil_iff.mpr fun command member =>
      (changed_names_of_plain (plain command member)).2⟩

theorem with_implied_listed (blueprint : Blueprint) :
    blueprint.withImplied.listedChanges = blueprint.withAlterations.listedChanges ∧
      blueprint.withImplied.listedAdditions = blueprint.withAlterations.listedAdditions := by
  have plain : ∀ command ∈ blueprint.withAlterations.missingIndexes,
      command.isAlteration = false := fun command missing => (plain_of_missing missing).1
  obtain ⟨noChanges, noAdditions⟩ := flatMap_names_of_plain plain
  rw [with_implied_eq]
  constructor
  · rw [listedChanges, List.flatMap_append, noChanges, List.append_nil, listedChanges]
  · rw [listedAdditions, List.flatMap_append, noAdditions, List.append_nil, listedAdditions]

end SchemaBlueprint.Blueprint
