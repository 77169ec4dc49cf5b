import Mathlib.Data.List.Forall2
import SchemaBlueprint.Proofs.Resolution

/-!
The contract of the implied-command pass. What was asked for stays, in its order and up to names
that are filled in; what is registered beside it is accounted for entry by entry, so that it can be
told apart from commands that look the same.
-/

namespace SchemaBlueprint.Blueprint

set_option autoImplicit false

/-- A command of a resolved blueprint, with a mark that says whether the pass registered it. -/
abbrev MarkedCommand := Bool × Command

def askedFor (entries : List MarkedCommand) : List Command :=
  (entries.filter fun entry => !entry.1).map Prod.snd

def NoDoubles (entries : List MarkedCommand) : Prop :=
  entries.Pairwise fun first second =>
    (first.1 = true ∨ second.1 = true) → sameIndex first.2 second.2 = false

/-- A command and the same command, in which an empty name may have been filled in. -/
inductive OnlyNamed : Command → Command → Prop
  | same (command : Command) : OnlyNamed command command
  | primary {name : String} (columns : List String) (implied : Bool) (filled : name ≠ "") :
      OnlyNamed (.primary ⟨"", columns, implied⟩) (.primary ⟨name, columns, implied⟩)
  | unique {name : String} (columns : List String) (implied : Bool) (filled : name ≠ "") :
      OnlyNamed (.unique ⟨"", columns, implied⟩) (.unique ⟨name, columns, implied⟩)
  | index {name : String} (columns : List String) (implied : Bool) (filled : name ≠ "") :
      OnlyNamed (.index ⟨"", columns, implied⟩) (.index ⟨name, columns, implied⟩)
  | foreign {name : String} (columns : List String) (table : String) (references : List String)
      (onDelete : Option String) (filled : name ≠ "") :
      OnlyNamed (.foreign ⟨"", columns, table, references, onDelete⟩)
        (.foreign ⟨name, columns, table, references, onDelete⟩)

/-- What holds of the commands after a pass that succeeded. -/
structure Postcondition (before after : Blueprint) : Prop where
  singleKey : after.primaryCount ≤ 1
  named : ∀ command ∈ after.commands, command.Named
  flagged : ∀ column ∈ before.columns, ∀ kind, column.flag kind = true →
    ∃ command ∈ after.commands, ∃ spec, command.spec? kind = some spec ∧
      Text.sameNames spec.columns [column.name] = true
  /-- A table without a primary key gets one exactly for its first counting column. -/
  counted : before.primary? = none → (∀ column ∈ before.columns, column.primary = false) →
    (after.primary? ≠ none ↔
      ∃ column ∈ before.columns, column.autoIncrement = true ∧ column.type.isSerial = true) ∧
    ∀ key, after.primary? = some key → key.implied = true ∧
      ∃ column, before.columns.find? Column.isCounter = some column ∧ key.columns = [column.name]

theorem asked_for_insert (position : Nat) (command : Command) (entries : List MarkedCommand) :
    askedFor (insertAt position (true, command) entries) = askedFor entries := by
  rw [askedFor, filter_insertAt rfl, askedFor]

theorem asked_for_append (entries : List MarkedCommand) (commands : List Command) :
    askedFor (entries ++ commands.map (Prod.mk true)) = askedFor entries := by
  simp [askedFor, List.filter_append, List.filter_map, Function.comp_def]

theorem asked_for_named (entries : List MarkedCommand) (name : Command → Command) :
    askedFor (entries.map fun entry => (entry.1, name entry.2)) = (askedFor entries).map name := by
  simp [askedFor, List.filter_map, Function.comp_def]

theorem asked_for_unmarked (commands : List Command) :
    askedFor (commands.map (Prod.mk false)) = commands := by
  simp [askedFor, List.filter_map, Function.comp_def]

theorem no_doubles_unmarked (commands : List Command) :
    NoDoubles (commands.map (Prod.mk false)) :=
  List.pairwise_map.mpr (List.pairwise_of_forall fun _ _ marked => by simp at marked)

theorem no_doubles_insert {command : Command} {entries : List MarkedCommand}
    (position : Nat) (alone : ∀ other, sameIndex command other = false)
    (free : NoDoubles entries) : NoDoubles (insertAt position (true, command) entries) := by
  -- Being no doubles is symmetric, so the pairs may be taken in any order.
  refine ((insertAt_perm position _ entries).pairwise_iff ?_).mpr
    (List.pairwise_cons.mpr ⟨fun other _ _ => alone other.2, free⟩)
  intro first second apart marked
  have swapped := apart marked.symm
  cases same : sameIndex second.2 first.2 with
  | false => rfl
  | true => exact absurd (same_index_symm same) (by simp [swapped])

theorem no_doubles_append {entries : List MarkedCommand} {commands : List Command}
    (fresh : commands.Pairwise fun first second => sameIndex first second = false)
    (apart : ∀ entry ∈ entries, ∀ command ∈ commands, sameIndex entry.2 command = false)
    (free : NoDoubles entries) : NoDoubles (entries ++ commands.map (Prod.mk true)) := by
  refine List.pairwise_append.mpr ⟨free, ?_, ?_⟩
  · refine List.pairwise_map.mpr (List.Pairwise.imp ?_ fresh)
    exact fun different _ => different
  · intro entry old other new _
    obtain ⟨command, member, rfl⟩ := List.mem_map.mp new
    exact apart entry old command member

theorem no_doubles_named (blueprint : Blueprint) {entries : List MarkedCommand}
    (free : NoDoubles entries) :
    NoDoubles (entries.map fun entry => (entry.1, blueprint.filledCommand entry.2)) := by
  refine List.pairwise_map.mpr (free.imp fun {first second} apart marked => ?_)
  have different := apart marked
  rw [same_index_filled_command]
  cases same : sameIndex first.2 (blueprint.filledCommand second.2) with
  | false => rfl
  | true =>
      have swapped := same_index_symm same
      rw [same_index_filled_command] at swapped
      simp [same_index_symm swapped] at different

theorem missing_not_there {blueprint : Blueprint} {command : Command}
    (missing : command ∈ blueprint.missingIndexes) :
    ∀ other ∈ blueprint.commands, sameIndex other command = false := by
  intro other there
  rcases List.mem_append.mp missing with flagged | counted
  · obtain ⟨_, absent⟩ := mem_missing_flagged.mp flagged
    have none_same := (has_index_iff blueprint command).not.mp (by simp [absent])
    simpa using fun same => none_same ⟨other, there, same⟩
  · obtain ⟨absent, column, _, rfl⟩ := mem_missing_primary.mp counted
    exact not_same_index_of_no_primary _
      ((primary_none_iff _).mp absent other (List.mem_append_left _ there))

theorem flagged_indexes_apart (blueprint : Blueprint) (column : Column) :
    (blueprint.flaggedIndexes column).Pairwise fun first second =>
      sameIndex first second = false := by
  unfold flaggedIndexes
  cases column.primary <;> cases column.unique <;> cases column.index <;> simp [sameIndex]

theorem missing_indexes_apart {blueprint : Blueprint} (distinct : DistinctNames blueprint.columns) :
    blueprint.missingIndexes.Pairwise fun first second => sameIndex first second = false := by
  refine List.pairwise_append.mpr ⟨?_, ?_, ?_⟩
  · refine List.Pairwise.filter _ (List.pairwise_flatMap.mpr ⟨?_, ?_⟩)
    · exact fun column _ => flagged_indexes_apart blueprint column
    · exact distinct.imp fun different => flagged_indexes_of_different different
  · unfold missingPrimary
    split
    · exact .nil
    · split
      · exact .nil
      · exact List.pairwise_singleton _ _
  · intro flagged asked counted missing
    obtain ⟨absent, column, _, rfl⟩ := mem_missing_primary.mp missing
    exact not_same_index_of_no_primary _
      ((primary_none_iff _).mp absent flagged (List.mem_append_right _ asked))

/-- An account of the commands of `after`: the unmarked ones are those of `before`, and no marked
one is a double. -/
structure Account (before after : Blueprint) (entries : List MarkedCommand) : Prop where
  total : after.commands = entries.map Prod.snd
  asked : askedFor entries = before.commands
  free : DistinctNames before.columns → NoDoubles entries

theorem account_initial (blueprint : Blueprint) :
    Account blueprint blueprint (blueprint.commands.map (Prod.mk false)) where
  total := by simp [Function.comp_def]
  asked := asked_for_unmarked _
  free := fun _ => no_doubles_unmarked _

theorem Account.insert {before between : Blueprint} {entries : List MarkedCommand}
    (account : Account before between entries) (position : Nat) (command : Command)
    (alone : ∀ other, sameIndex command other = false) :
    Account before { between with commands := insertAt position command between.commands }
      (insertAt position (true, command) entries) where
  total := by rw [map_insertAt, account.total]
  asked := (asked_for_insert _ _ _).trans account.asked
  free := fun distinct => no_doubles_insert _ alone (account.free distinct)

theorem account_with_alterations (blueprint : Blueprint) :
    ∃ entries, Account blueprint blueprint.withAlterations entries := by
  unfold withAlterations
  split
  · exact ⟨_, account_initial blueprint⟩
  · have changed : ∃ entries, Account blueprint blueprint.withChange entries := by
      rcases with_change_cases blueprint with ⟨_, same⟩ | same
      · rw [same]
        exact ⟨_, account_initial blueprint⟩
      · rw [same]
        exact ⟨_, (account_initial blueprint).insert _ _ fun other => by cases other <;> rfl⟩
    obtain ⟨entries, account⟩ := changed
    rcases with_addition_cases blueprint.withChange with ⟨_, same⟩ | same
    · rw [same]
      exact ⟨entries, account⟩
    · rw [same]
      exact ⟨_, account.insert _ _ fun other => by cases other <;> rfl⟩

theorem account_with_implied (blueprint : Blueprint) :
    ∃ entries, Account blueprint blueprint.withImplied entries := by
  obtain ⟨entries, account⟩ := account_with_alterations blueprint
  have columns := (with_alterations_same_table blueprint).columns
  refine ⟨entries ++ blueprint.withAlterations.missingIndexes.map (Prod.mk true), ?_, ?_, ?_⟩
  · rw [with_implied_eq, List.map_append, ← account.total, List.map_map]
    simp [Function.comp_def]
  · rw [asked_for_append, account.asked]
  · intro distinct
    refine no_doubles_append (missing_indexes_apart ?_) ?_ (account.free distinct)
    · rwa [columns]
    · intro entry member command missing
      have there : entry.2 ∈ blueprint.withAlterations.commands := by
        rw [account.total]
        exact List.mem_map_of_mem member
      exact missing_not_there missing _ there

theorem only_named_filled_command (blueprint : Blueprint) (command : Command) :
    OnlyNamed command (blueprint.filledCommand command) := by
  have generated := blueprint.index_name_ne_empty
  by_cases named : command.Named
  · rw [filled_command_of_named named]
    exact .same _
  · simp only [Command.Named, Command.keyName?, ne_eq, not_not] at named
    cases command with
    | primary key =>
        obtain ⟨name, columns, implied⟩ := key
        obtain rfl : name = "" := Option.some.inj named
        exact .primary _ _ (generated _ _)
    | unique index =>
        obtain ⟨name, columns, implied⟩ := index
        obtain rfl : name = "" := Option.some.inj named
        exact .unique _ _ (generated _ _)
    | index index =>
        obtain ⟨name, columns, implied⟩ := index
        obtain rfl : name = "" := Option.some.inj named
        exact .index _ _ (generated _ _)
    | foreign key =>
        obtain ⟨name, columns, table, references, onDelete⟩ := key
        obtain rfl : name = "" := Option.some.inj named
        exact .foreign _ _ _ _ (generated _ _)
    | _ => exact .same _

theorem primary_with_implied_of_none {blueprint : Blueprint} (absent : blueprint.primary? = none)
    (unflagged : ∀ column ∈ blueprint.columns, column.primary = false) :
    blueprint.withImplied.primary? =
      (blueprint.columns.find? Column.isCounter).map blueprint.impliedKey := by
  have same := with_alterations_same_table blueprint
  have altered : blueprint.withAlterations.primary? = none := by
    rw [primary_eq_remaining, with_alterations_remaining, ← primary_eq_remaining, absent]
  have flagged : blueprint.withAlterations.withFlaggedIndexes.primary? = none :=
    (with_flagged_primary_none_iff _).mpr ⟨altered, same.columns ▸ unflagged⟩
  have before : blueprint.withAlterations.withFlaggedIndexes.commands.findSome?
      Command.primary? = none := flagged
  have counters : blueprint.withAlterations.withFlaggedIndexes.columns.find? Column.isCounter =
      blueprint.columns.find? Column.isCounter := congrArg (List.find? Column.isCounter) same.columns
  have key : blueprint.withAlterations.withFlaggedIndexes.impliedKey = blueprint.impliedKey :=
    same.implied_key
  rw [withImplied, with_implied_primary_eq, primary?, List.findSome?_append, before,
    Option.none_or]
  cases counter : blueprint.columns.find? Column.isCounter with
  | none =>
      rw [counter] at counters
      simp [missingPrimary, flagged, counters]
  | some column =>
      rw [counter] at counters
      simp [missingPrimary, flagged, counters, key, Command.primary?]

theorem postcondition_of_single {blueprint : Blueprint}
    (single : blueprint.withImplied.primaryCount ≤ 1) :
    Postcondition blueprint blueprint.withImplied.withNames where
  singleKey := by rwa [primary_count_with_names]
  named := by
    intro command member
    obtain ⟨other, _, rfl⟩ := List.mem_map.mp member
    exact named_filled_command _ other
  flagged := by
    intro column member kind flag
    have same := with_implied_same_table blueprint
    have complete := complete_with_names (complete_with_implied blueprint)
    have spec : ∃ command : Command, command.spec? kind =
        some (blueprint.withImplied.withNames.namedIndex kind [column.name]) := by
      cases kind with
      | primary => exact ⟨.primary _, rfl⟩
      | unique => exact ⟨.unique _, rfl⟩
      | index => exact ⟨.index _, rfl⟩
      | foreign => simp [Column.flag] at flag
    obtain ⟨wanted, declared⟩ := spec
    have inColumns : column ∈ blueprint.withImplied.withNames.columns := by
      change column ∈ blueprint.withImplied.columns
      rwa [same.columns]
    have present := complete.flagged column inColumns wanted
      (mem_flagged_indexes.mpr ⟨kind, flag, declared⟩)
    obtain ⟨command, there, doubled⟩ := (has_index_iff _ _).mp present
    obtain ⟨own, ofCommand, names⟩ := spec_of_same_index declared doubled
    exact ⟨command, there, own, ofCommand, names⟩
  counted := by
    intro absent unflagged
    have key : blueprint.withImplied.withNames.primary? =
        ((blueprint.columns.find? Column.isCounter).map blueprint.impliedKey).map
          (blueprint.withImplied.filledIndex .primary) := by
      rw [primary_with_names, primary_with_implied_of_none absent unflagged]
    rw [key]
    constructor
    · simp only [ne_eq, Option.map_eq_none_iff, List.find?_eq_none, not_forall, Column.isCounter,
        Bool.and_eq_true, not_not, exists_prop]
    · intro spec found
      simp only [Option.map_map, Option.map_eq_some_iff] at found
      obtain ⟨column, counter, rfl⟩ := found
      rw [Function.comp_apply, filled_index_implied, filled_index_columns]
      exact ⟨rfl, column, counter, rfl⟩

/-- The pass leaves the table, its prefix and its columns alone and keeps every command that was
asked for, in its order. If it fails these are as they were; if it succeeds at most an empty name
has been filled in, and the commands together satisfy the postcondition. When column names differ,
nothing that was registered is there twice. -/
theorem resolve_frame_and_postcondition (blueprint : Blueprint) :
    SameTable blueprint blueprint.resolve.1 ∧
    ∃ entries : List MarkedCommand, blueprint.resolve.1.commands = entries.map Prod.snd ∧
      (∀ fault, blueprint.resolve.2 = .error fault → askedFor entries = blueprint.commands) ∧
      (blueprint.resolve.2 = .ok () →
        List.Forall₂ OnlyNamed blueprint.commands (askedFor entries) ∧
        Postcondition blueprint blueprint.resolve.1 ∧
        (DistinctNames blueprint.columns → NoDoubles entries)) := by
  obtain ⟨entries, account⟩ := account_with_implied blueprint
  have same := with_implied_same_table blueprint
  rcases resolve_cases blueprint with ⟨_, resolved⟩ | ⟨single, resolved⟩
  · rw [resolved]
    exact ⟨same, entries, account.total, fun _ _ => account.asked, fun ok => by cases ok⟩
  · rw [resolved]
    have total : blueprint.withImplied.withNames.commands =
        (entries.map fun entry => (entry.1, blueprint.withImplied.filledCommand entry.2)).map
          Prod.snd := by
      rw [withNames, account.total, List.map_map, List.map_map]
      rfl
    refine ⟨⟨same.table, same.tablePrefix, same.columns⟩, _, total, ?_, ?_⟩
    · intro fault failed
      cases failed
    intro _
    refine ⟨?_, postcondition_of_single single, fun distinct => ?_⟩
    · rw [asked_for_named, account.asked, List.forall₂_map_right_iff]
      exact List.forall₂_same.mpr fun command _ => only_named_filled_command _ command
    · exact no_doubles_named _ (account.free distinct)

end SchemaBlueprint.Blueprint
