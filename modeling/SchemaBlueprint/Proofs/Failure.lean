import SchemaBlueprint.Column.Build
import SchemaBlueprint.Proofs.Compilation

/-!
When compiling fails, and with which error. The errors are found here command by command from the
columns alone; no setting of the grammar has a part in them.
-/

namespace SchemaBlueprint

set_option autoImplicit false

open Outcome

/-- A decimal column that does not say how many digits it has. -/
def Column.LacksDigits (column : Column) : Prop :=
  column.type = .decimal ∧ (column.total = none ∨ column.places = none)

instance : DecidablePred Column.LacksDigits := fun column =>
  inferInstanceAs (Decidable (column.type = .decimal ∧ _))

def Column.fault? (column : Column) : Option SchemaError :=
  if column.LacksDigits then
    some (.invalidColumn column.name "decimal requires both total and places")
  else none

namespace Blueprint

def Lacks (blueprint : Blueprint) (name : String) : Prop :=
  ∀ column ∈ blueprint.columns, Text.sameName column.name name = false

instance (blueprint : Blueprint) : DecidablePred blueprint.Lacks := fun _ =>
  inferInstanceAs (Decidable (∀ _ ∈ blueprint.columns, _))

def lackedFault? (blueprint : Blueprint) (names : List String) : Option SchemaError :=
  (names.find? fun name => blueprint.Lacks name).map (.unknownColumn blueprint.table)

def listedFault? (blueprint : Blueprint) (name : String) : Option SchemaError :=
  match blueprint.column? name with
  | none => some (.unknownColumn blueprint.table name)
  | some column => column.fault?

/-- What is wrong with a command, as far as it is checked: the columns that it writes, and the
columns of keys and indexes of a table that is being created. -/
def commandFault? (blueprint : Blueprint) : Command → Option SchemaError
  | .create =>
      (blueprint.addedColumns.findSome? Column.fault?).or
        (blueprint.primary?.bind fun key => blueprint.lackedFault? key.columns)
  | .add names | .change names => names.findSome? blueprint.listedFault?
  | .primary key | .unique key | .index key =>
      if blueprint.creating then blueprint.lackedFault? key.columns else none
  | _ => none

/-- What makes a command fail, as a condition on its names and columns. -/
def Offending (blueprint : Blueprint) : Command → Prop
  | .create =>
      (∃ column ∈ blueprint.addedColumns, column.LacksDigits) ∨
        ∃ key, blueprint.primary? = some key ∧ ∃ name ∈ key.columns, blueprint.Lacks name
  | .add names | .change names =>
      ∃ name ∈ names, blueprint.Lacks name ∨
        ∃ column, blueprint.column? name = some column ∧ column.LacksDigits
  | .primary key | .unique key | .index key =>
      blueprint.creating = true ∧ ∃ name ∈ key.columns, blueprint.Lacks name
  | _ => False

/-- One of the keys is over this column and no other. -/
def keyedAlone (keys : List IndexSpec) (column : Column) : Bool :=
  keys.any fun key => Text.sameNames key.columns [column.name]

def primaries (blueprint : Blueprint) : List IndexSpec :=
  blueprint.commands.filterMap Command.primary?

def explicitPrimaries (blueprint : Blueprint) : List IndexSpec :=
  blueprint.primaries.filter fun key => !key.implied

/-- The primary keys that earlier passes have registered for counting columns. -/
def impliedPrimaries (blueprint : Blueprint) : List IndexSpec :=
  blueprint.primaries.filter (·.implied)

def keysWithFlags (blueprint : Blueprint) (keys : List IndexSpec) : Nat :=
  keys.length + blueprint.columns.countP fun column => column.primary && !keyedAlone keys column

/-- How many primary keys are asked for. One that a pass has registered of itself is not. -/
def explicitKeys (blueprint : Blueprint) : Nat :=
  blueprint.keysWithFlags blueprint.explicitPrimaries

/-- How many primary keys the pass counts. It takes what an earlier one has registered of itself
for a key that was asked for. -/
def countedKeys (blueprint : Blueprint) : Nat := blueprint.keysWithFlags blueprint.primaries

/-- The columns flagged as primary that an implied key is over alone, and no explicit one. -/
def flagsMetByImplied (blueprint : Blueprint) : Nat :=
  blueprint.columns.countP fun column => column.primary &&
    (keyedAlone blueprint.primaries column && !keyedAlone blueprint.explicitPrimaries column)

variable {blueprint : Blueprint}

theorem column_none_iff {name : String} :
    blueprint.column? name = none ↔ blueprint.Lacks name := by
  simp [column?, Lacks]

theorem column_fault_isSome_iff {column : Column} :
    column.fault?.isSome = true ↔ column.LacksDigits := by
  unfold Column.fault?
  split <;> simp [*]

theorem lacked_fault_isSome_iff {names : List String} :
    (blueprint.lackedFault? names).isSome = true ↔ ∃ name ∈ names, blueprint.Lacks name := by
  simp [lackedFault?]

theorem listed_fault_isSome_iff {name : String} :
    (blueprint.listedFault? name).isSome = true ↔ blueprint.Lacks name ∨
      ∃ column, blueprint.column? name = some column ∧ column.LacksDigits := by
  rw [← column_none_iff, listedFault?]
  cases blueprint.column? name <;> simp [column_fault_isSome_iff]

theorem command_fault_isSome_iff {command : Command} :
    (blueprint.commandFault? command).isSome = true ↔ blueprint.Offending command := by
  cases command with
  | create =>
      simp [commandFault?, Offending, column_fault_isSome_iff, Option.isSome_bind,
        Option.any_eq_true, lacked_fault_isSome_iff]
  | add names | change names =>
      simp [commandFault?, Offending, listed_fault_isSome_iff]
  | primary key | unique key | index key =>
      cases creating : blueprint.creating <;>
        simp [commandFault?, Offending, creating, lacked_fault_isSome_iff]
  | _ => simp [commandFault?, Offending]

instance : DecidablePred blueprint.Offending := fun _ =>
  decidable_of_iff _ command_fault_isSome_iff

theorem flagged_primaries_of_column (column : Column) :
    ((blueprint.flaggedIndexes column).filter fun command =>
        !blueprint.hasIndex command).countP (·.primary?.isSome) =
      if column.primary && !keyedAlone blueprint.primaries column then 1 else 0 := by
  have present : blueprint.hasIndex (.primary (blueprint.namedIndex .primary [column.name])) =
      keyedAlone blueprint.primaries column := by
    rw [hasIndex, keyedAlone, primaries, List.any_filterMap]
    congr 1
    funext command
    cases command <;> rfl
  -- A column asks for at most one primary key: the one that its own flag stands for.
  rw [List.countP_filter, flaggedIndexes, List.countP_append, List.countP_append]
  cases column.primary <;> cases column.unique <;> cases column.index <;>
    simp [Command.primary?, present, List.countP_cons]

theorem missing_flagged_primaries :
    blueprint.missingFlagged.countP (·.primary?.isSome) =
      blueprint.columns.countP fun column =>
        column.primary && !keyedAlone blueprint.primaries column := by
  unfold missingFlagged
  induction blueprint.columns with
  | nil => rfl
  | cons column columns ih =>
      rw [List.flatMap_cons, List.filter_append, List.countP_append, ih,
        flagged_primaries_of_column, List.countP_cons, Nat.add_comm]

theorem primary_count_eq_countP (commands : List Command) :
    (commands.filterMap Command.primary?).length = commands.countP (·.primary?.isSome) :=
  List.length_filterMap_eq_countP

theorem counted_keys_with_flagged :
    blueprint.withFlaggedIndexes.primaryCount = blueprint.countedKeys := by
  change ((blueprint.commands ++ blueprint.missingFlagged).filterMap Command.primary?).length = _
  rw [List.filterMap_append, List.length_append, primary_count_eq_countP blueprint.missingFlagged,
    missing_flagged_primaries]
  rfl

theorem counted_keys_with_alterations :
    blueprint.withAlterations.countedKeys = blueprint.countedKeys := by
  have declared : blueprint.withAlterations.commands.filterMap Command.primary? =
      blueprint.commands.filterMap Command.primary? := by
    rw [← filterMap_remaining (fun _ => rfl) (fun _ => rfl), with_alterations_remaining,
      filterMap_remaining (fun _ => rfl) (fun _ => rfl)]
  simp only [countedKeys, keysWithFlags, primaries, declared,
    (with_alterations_same_table blueprint).columns]

theorem keyed_alone_of_explicit {column : Column}
    (keyed : keyedAlone blueprint.explicitPrimaries column = true) :
    keyedAlone blueprint.primaries column = true := by
  rw [keyedAlone, List.any_eq_true] at keyed ⊢
  obtain ⟨key, member, alone⟩ := keyed
  exact ⟨key, List.mem_of_mem_filter member, alone⟩

theorem flags_without_explicit_key :
    (blueprint.columns.countP fun column =>
        column.primary && !keyedAlone blueprint.explicitPrimaries column) =
      (blueprint.columns.countP fun column =>
        column.primary && !keyedAlone blueprint.primaries column) +
      blueprint.flagsMetByImplied := by
  unfold flagsMetByImplied
  induction blueprint.columns with
  | nil => rfl
  | cons column columns ih =>
      -- A column that an explicit key is over alone is met by a key that the pass counts as well.
      have kept : keyedAlone blueprint.explicitPrimaries column = true →
          keyedAlone blueprint.primaries column = true := keyed_alone_of_explicit
      rw [List.countP_cons, List.countP_cons, List.countP_cons, ih]
      cases column.primary <;> cases met : keyedAlone blueprint.primaries column <;>
        cases asked : keyedAlone blueprint.explicitPrimaries column <;>
        simp [met, asked] at kept ⊢ <;> omega

theorem primaries_split : blueprint.primaries.length =
    blueprint.impliedPrimaries.length + blueprint.explicitPrimaries.length :=
  List.length_eq_length_filter_add fun key : IndexSpec => key.implied

theorem counted_keys_eq (blueprint : Blueprint) :
    blueprint.countedKeys + blueprint.flagsMetByImplied =
      blueprint.explicitKeys + blueprint.impliedPrimaries.length := by
  unfold countedKeys explicitKeys keysWithFlags
  rw [primaries_split, flags_without_explicit_key]
  omega

theorem counted_keys_of_explicit (none_implied : blueprint.impliedPrimaries = []) :
    blueprint.countedKeys = blueprint.explicitKeys := by
  have all_explicit : blueprint.explicitPrimaries = blueprint.primaries := by
    rw [explicitPrimaries, List.filter_eq_self]
    intro key member
    rw [Bool.not_eq_true', ← Bool.not_eq_true]
    exact List.filter_eq_nil_iff.mp none_implied key member
  rw [countedKeys, explicitKeys, all_explicit]

theorem primary_count_with_implied (blueprint : Blueprint) :
    blueprint.withImplied.primaryCount = blueprint.countedKeys ∨
      blueprint.countedKeys = 0 ∧ blueprint.withImplied.primaryCount = 1 := by
  rw [← counted_keys_with_alterations, ← counted_keys_with_flagged, withImplied]
  generalize blueprint.withAlterations.withFlaggedIndexes = flagged
  rw [with_implied_primary_eq, primaryCount, primaryCount, List.filterMap_append,
    List.length_append]
  unfold missingPrimary
  cases declared : flagged.primary? with
  | some key => exact .inl rfl
  | none =>
      have none_there : flagged.commands.filterMap Command.primary? = [] := by
        rw [← List.head?_eq_none_iff, List.head?_filterMap]
        exact declared
      cases flagged.columns.find? Column.isCounter with
      | none => exact .inl rfl
      | some column =>
          right
          simp [none_there, Command.primary?]

theorem fault_resolve :
    fault? blueprint.resolve.2 =
      if 1 < blueprint.countedKeys then
        some (.config (.primaryKeys blueprint.table blueprint.countedKeys))
      else none := by
  rcases blueprint.primary_count_with_implied with same | ⟨none_asked, one⟩
  · rcases resolve_cases blueprint with ⟨several, resolved⟩ | ⟨single, resolved⟩
    · rw [resolved, ← same, if_pos several]
      rfl
    · rw [resolved, ← same, if_neg (Nat.not_lt.mpr single)]
      rfl
  · rcases resolve_cases blueprint with ⟨several, _⟩ | ⟨_, resolved⟩
    · omega
    · rw [resolved, if_neg (by omega)]
      rfl

end Blueprint

namespace Grammar

variable {grammar : Grammar} {blueprint : Blueprint}

theorem fault_storage_type (column : Column) :
    fault? (grammar.storageType column) = column.fault? := by
  unfold storageType StorageType.ofColumn
  cases stored : column.type with
  | decimal =>
      cases total : column.total <;> cases places : column.places <;>
        simp [Column.fault?, Column.LacksDigits, stored, total, places]
  | _ => simp [Column.fault?, Column.LacksDigits, stored]

theorem fault_column_definition (column : Column) :
    fault? (grammar.columnDefinition blueprint column) = column.fault? := by
  rw [columnDefinition, fault_bind_pure, fault_storage_type]

theorem fault_change_definition (column : Column) :
    fault? (grammar.changeDefinition blueprint column) = column.fault? := by
  rw [changeDefinition, fault_bind_pure, fault_storage_type]

theorem fault_require_columns (names : List String) :
    fault? (requireColumns blueprint names) = blueprint.lackedFault? names := by
  have missing : (fun name => (blueprint.column? name).isNone) =
      fun name => decide (blueprint.Lacks name) := by
    funext name
    rw [Bool.eq_iff_iff, Option.isNone_iff_eq_none, Blueprint.column_none_iff, decide_eq_true_iff]
  rw [requireColumns, Blueprint.lackedFault?, missing]
  cases names.find? fun name => decide (blueprint.Lacks name) <;> rfl

theorem fault_require_column {name : String} {write : Column → Except SchemaError String}
    (faults : ∀ column, fault? (write column) = column.fault?) :
    fault? (requireColumn blueprint name >>= write) = blueprint.listedFault? name := by
  unfold requireColumn Blueprint.listedFault?
  cases blueprint.column? name with
  | none => rfl
  | some column => exact faults column

theorem fault_add_statement (name : String) :
    fault? (grammar.addStatement blueprint name) = blueprint.listedFault? name := by
  apply fault_require_column
  intro column
  rw [fault_bind_pure, fault_column_definition]

theorem fault_change_statement (name : String) :
    fault? (grammar.changeStatement blueprint name) = blueprint.listedFault? name := by
  apply fault_require_column
  intro column
  rw [fault_bind_pure, fault_change_definition]

theorem fault_created_primary :
    fault? (grammar.createdPrimary blueprint) =
      blueprint.primary?.bind fun key => blueprint.lackedFault? key.columns := by
  unfold createdPrimary
  cases blueprint.primary? with
  | none => rfl
  | some key => rw [fault_bind_pure, fault_require_columns, Option.bind_some]

theorem fault_create_statement :
    fault? (grammar.createStatement blueprint) = blueprint.commandFault? .create := by
  rw [createStatement, fault_bind fun _ _ => fault_bind_pure _ _, fault_mapM,
    fault_created_primary]
  simp only [fault_column_definition]
  rfl

theorem fault_primary_statements (key : IndexSpec) :
    fault? (grammar.primaryStatements blueprint key) = blueprint.commandFault? (.primary key) := by
  unfold primaryStatements Blueprint.commandFault?
  cases blueprint.creating with
  | true => exact (fault_bind_pure _ _).trans (fault_require_columns _)
  | false => cases key.implied || isInlined blueprint key <;> rfl

theorem fault_index_statement (opening : String) (index : IndexSpec) :
    fault? (grammar.indexStatement blueprint opening index) =
      if blueprint.creating then blueprint.lackedFault? index.columns else none := by
  unfold indexStatement
  cases blueprint.creating with
  | true => exact (fault_bind_pure _ _).trans (fault_require_columns _)
  | false => rfl

theorem fault_compile (command : Command) :
    fault? (grammar.compile blueprint command) = blueprint.commandFault? command := by
  cases command with
  | create => exact (fault_bind_pure _ _).trans fault_create_statement
  | add names =>
      rw [compile, fault_mapM]
      simp only [fault_add_statement]
      rfl
  | change names =>
      rw [compile, fault_mapM]
      simp only [fault_change_statement]
      rfl
  | primary key => exact fault_primary_statements key
  | unique index | index index => exact (fault_bind_pure _ _).trans (fault_index_statement _ index)
  | _ => rfl

theorem fault_compile_all :
    fault? (grammar.compileAll blueprint) =
      blueprint.commands.findSome? blueprint.commandFault? := by
  rw [compileAll, fault_bind_pure, fault_mapM]
  simp only [fault_compile]

theorem fault_to_sql (grammar : Grammar) (blueprint : Blueprint) :
    fault? (grammar.toSql blueprint).2 =
      (fault? blueprint.resolve.2).or
        (blueprint.resolve.1.commands.findSome? blueprint.resolve.1.commandFault?) := by
  unfold toSql
  split <;> rename_i resolved <;> rw [resolved]
  · rfl
  · exact fault_compile_all

theorem command_fault_not_config (command : Command) (fault : ConfigFault) :
    blueprint.commandFault? command ≠ some (.config fault) := by
  have column_not : ∀ column : Column, column.fault? ≠ some (.config fault) := by
    intro column
    unfold Column.fault?
    split <;> simp
  have lacked_not : ∀ names, blueprint.lackedFault? names ≠ some (.config fault) := by
    intro names
    simp [Blueprint.lackedFault?]
  have listed_not : ∀ name, blueprint.listedFault? name ≠ some (.config fault) := by
    intro name
    unfold Blueprint.listedFault?
    split
    · simp
    · exact column_not _
  intro failed
  cases command with
  | create =>
      rcases Option.or_eq_some_iff.mp failed with written | ⟨_, keyed⟩
      · obtain ⟨column, _, wrong⟩ := List.exists_of_findSome?_eq_some written
        exact column_not column wrong
      · obtain ⟨key, _, wrong⟩ := Option.bind_eq_some_iff.mp keyed
        exact lacked_not key.columns wrong
  | add names | change names =>
      obtain ⟨name, _, wrong⟩ := List.exists_of_findSome?_eq_some failed
      exact listed_not name wrong
  | primary key | unique key | index key =>
      obtain ⟨_, wrong⟩ := Option.ite_none_right_eq_some.mp failed
      exact lacked_not key.columns wrong
  | _ => cases failed

theorem first_fault_iff {error : SchemaError} :
    blueprint.commands.findSome? blueprint.commandFault? = some error ↔
      ∃ before command after, blueprint.commands = before ++ command :: after ∧
        (∀ earlier ∈ before, ¬ blueprint.Offending earlier) ∧ blueprint.Offending command ∧
        blueprint.commandFault? command = some error := by
  rw [List.findSome?_eq_some_iff]
  simp only [← Blueprint.command_fault_isSome_iff, Bool.not_eq_true, Option.isSome_eq_false_iff,
    Option.isNone_iff_eq_none]
  constructor
  · rintro ⟨before, command, after, commands, failed, passed⟩
    exact ⟨before, command, after, commands, passed, by rw [failed]; rfl, failed⟩
  · rintro ⟨before, command, after, commands, passed, _, failed⟩
    exact ⟨before, command, after, commands, failed, passed⟩

theorem not_offending_of_compiled {statements : List String}
    (compiled : (grammar.toSql blueprint).2 = .ok statements) :
    ∀ command ∈ (grammar.toSql blueprint).1.commands,
      ¬ (grammar.toSql blueprint).1.Offending command := by
  have failure := fault_to_sql grammar blueprint
  rw [compiled, fault_ok, eq_comm, Option.or_eq_none_iff, ← to_sql_blueprint grammar] at failure
  intro command member offends
  have passed := List.findSome?_eq_none_iff.mp failure.2 command member
  rw [← Blueprint.command_fault_isSome_iff, passed] at offends
  cases offends

/-- Compiling fails for two reasons. Several primary keys are counted, which is told first and
together with their number; or else one of the registered commands is wrong about the columns, and
then the first such command decides the error. Where an earlier pass has left implied keys, they
are counted beside the explicit ones, save for the flags that they meet. -/
theorem compilation_fails_iff (grammar : Grammar) (blueprint : Blueprint) :
    let resolved := (grammar.toSql blueprint).1
    let outcome := (grammar.toSql blueprint).2
    ((∃ fault, outcome = .error (.config fault)) ↔ 1 < blueprint.countedKeys) ∧
    ((∃ error, outcome = .error error) ↔
      1 < blueprint.countedKeys ∨ ∃ command ∈ resolved.commands, resolved.Offending command) ∧
    (∀ error, outcome = .error error ↔
      (1 < blueprint.countedKeys ∧
        error = .config (.primaryKeys blueprint.table blueprint.countedKeys)) ∨
      (blueprint.countedKeys ≤ 1 ∧
        ∃ before command after, resolved.commands = before ++ command :: after ∧
          (∀ earlier ∈ before, ¬ resolved.Offending earlier) ∧ resolved.Offending command ∧
          resolved.commandFault? command = some error)) ∧
    blueprint.countedKeys + blueprint.flagsMetByImplied =
      blueprint.explicitKeys + blueprint.impliedPrimaries.length ∧
    (blueprint.impliedPrimaries = [] → blueprint.countedKeys = blueprint.explicitKeys) := by
  dsimp only
  have failure := fault_to_sql grammar blueprint
  rw [Blueprint.fault_resolve, ← to_sql_blueprint grammar] at failure
  generalize (grammar.toSql blueprint).1 = resolved at failure ⊢
  simp only [← first_fault_iff, ← fault_eq_some_iff, failure]
  by_cases several : 1 < blueprint.countedKeys
  · rw [if_pos several]
    refine ⟨?_, ?_, ?_, blueprint.counted_keys_eq, Blueprint.counted_keys_of_explicit⟩ <;>
      simp [several, Nat.not_le.mpr several, eq_comm]
  · rw [if_neg several, Option.none_or]
    refine ⟨?_, ?_, ?_, blueprint.counted_keys_eq, Blueprint.counted_keys_of_explicit⟩
    · simp only [several, iff_false]
      rintro ⟨fault, failed⟩
      obtain ⟨command, _, wrong⟩ := List.exists_of_findSome?_eq_some failed
      exact command_fault_not_config command fault wrong
    · simp [several, ← Option.isSome_iff_exists, Blueprint.command_fault_isSome_iff]
    · intro error
      simp [several, Nat.le_of_not_lt several]

/-- Both commands are wrong; the first name that is no column is the one told. -/
theorem compilation_fails_iff_orders :
    let key : IndexSpec := { name := "found", columns := ["AMOUNT", "ghost", "spirit"] }
    let orders : Blueprint :=
      { table := "orders", columns := [Column.plain "amount" .decimal]
        commands := [.index key, .create] }
    orders.impliedPrimaries = [] ∧ orders.countedKeys = orders.explicitKeys ∧
      (toSql {} orders).2 = .error (.unknownColumn "orders" "ghost") := by
  intro key orders
  obtain ⟨_, _, fails_with, _, counted⟩ := compilation_fails_iff {} orders
  have offends : (toSql {} orders).1.Offending (.index key) := by decide +kernel
  refine ⟨rfl, counted rfl, (fails_with _).mpr (.inr ⟨by decide, ?_⟩)⟩
  exact ⟨[], .index key, [.create], by decide +kernel, by simp, offends, by decide +kernel⟩

/-- A table whose counting column was its primary key when the pass ran, and which has been given
another one since. -/
def rekeyed : Blueprint :=
  let counted := ((Blueprint.empty "users").addColumn (Column.increments "id")).addColumn
    (Column.plain "tenant" .integer)
  counted.resolve.1.addPrimary ["id", "tenant"]

/-- One key is asked for and no command is wrong, and yet compiling fails for two keys. -/
theorem implied_key_counts_as_second :
    rekeyed.explicitKeys = 1 ∧ rekeyed.countedKeys = 2 ∧
      (∀ command ∈ (toSql {} rekeyed).1.commands,
        ¬ (toSql {} rekeyed).1.Offending command) ∧
      (toSql {} rekeyed).2 = .error (.config (.primaryKeys "users" 2)) := by
  decide +kernel

end Grammar

end SchemaBlueprint
