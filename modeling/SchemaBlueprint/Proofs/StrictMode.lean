import SchemaBlueprint.Column.Build
import SchemaBlueprint.Proofs.Compilation
import SchemaBlueprint.Proofs.Gathering

/-!
Strict mode. A grammar that is not strict makes up values for new columns that may not be null and
have none. With these values written out as defaults, the same grammar in strict mode says the same:
nothing else depends on the mode.
-/

namespace SchemaBlueprint

set_option autoImplicit false

open Outcome

def Column.defaulting (value : Column → Option DefaultValue) (column : Column) : Column :=
  { column with defaultValue := value column }

/-- Whether a new column has to have a value and nothing gives it one: it may not be null, has no
default, does not count and belongs to no primary key. -/
def Column.lacksValue (key : Option IndexSpec) (column : Column) : Bool :=
  !column.change && !column.nullable && !column.autoIncrement && column.defaultValue.isNone
    && !column.primary && !key.any fun key => Text.listsName key.columns column.name

namespace Blueprint

def withDefaults (value : Column → Option DefaultValue) (blueprint : Blueprint) : Blueprint :=
  { blueprint with columns := blueprint.columns.map (Column.defaulting value) }

/-- The `add` commands list new columns, and the `change` commands list columns to be modified. -/
structure AltersAsMarked (blueprint : Blueprint) : Prop where
  added : ∀ name ∈ blueprint.listedAdditions, ∀ column,
    blueprint.column? name = some column → column.change = false
  changed : ∀ name ∈ blueprint.listedChanges, ∀ column,
    blueprint.column? name = some column → column.change = true

variable {blueprint : Blueprint} {value : Column → Option DefaultValue}

theorem unlisted_changes_with_defaults :
    (blueprint.withDefaults value).unlistedChanges = blueprint.unlistedChanges := by
  simp only [unlistedChanges, changedColumns, withDefaults, List.filter_map, List.map_map,
    Function.comp_def, Column.defaulting]

theorem unlisted_additions_with_defaults :
    (blueprint.withDefaults value).unlistedAdditions = blueprint.unlistedAdditions := by
  simp only [unlistedAdditions, addedColumns, withDefaults, List.filter_map, List.map_map,
    Function.comp_def, Column.defaulting]

theorem with_change_with_defaults :
    (blueprint.withDefaults value).withChange = blueprint.withChange.withDefaults value := by
  rw [withChange, withChange, unlisted_changes_with_defaults]
  cases blueprint.unlistedChanges <;> rfl

theorem with_addition_with_defaults :
    (blueprint.withDefaults value).withAddition = blueprint.withAddition.withDefaults value := by
  rw [withAddition, withAddition, unlisted_additions_with_defaults]
  cases blueprint.unlistedAdditions <;> rfl

theorem with_alterations_with_defaults :
    (blueprint.withDefaults value).withAlterations =
      blueprint.withAlterations.withDefaults value := by
  rw [withAlterations, withAlterations, with_change_with_defaults, with_addition_with_defaults]
  exact (apply_ite (withDefaults value) _ _ _).symm

theorem missing_flagged_with_defaults :
    (blueprint.withDefaults value).missingFlagged = blueprint.missingFlagged := by
  rw [missingFlagged, withDefaults, List.flatMap_map]
  rfl

theorem missing_primary_with_defaults :
    (blueprint.withDefaults value).missingPrimary = blueprint.missingPrimary := by
  have key : (blueprint.withDefaults value).primary? = blueprint.primary? := rfl
  have counter : (blueprint.withDefaults value).columns.find? Column.isCounter =
      (blueprint.columns.find? Column.isCounter).map (Column.defaulting value) := by
    rw [withDefaults, List.find?_map]
    rfl
  rw [missingPrimary, missingPrimary, key, counter]
  cases blueprint.primary? with
  | some _ => rfl
  | none => cases blueprint.columns.find? Column.isCounter <;> rfl

theorem with_implied_with_defaults :
    (blueprint.withDefaults value).withImplied = blueprint.withImplied.withDefaults value := by
  have flagged : ∀ other : Blueprint, (other.withDefaults value).withFlaggedIndexes =
      other.withFlaggedIndexes.withDefaults value := by
    intro other
    change { other.withDefaults value with
      commands := other.commands ++ (other.withDefaults value).missingFlagged } = _
    rw [missing_flagged_with_defaults]
    rfl
  rw [withImplied, with_alterations_with_defaults, flagged, with_implied_primary_eq,
    missing_primary_with_defaults, withImplied, with_implied_primary_eq]
  rfl

theorem resolve_with_defaults (value : Column → Option DefaultValue) (blueprint : Blueprint) :
    (blueprint.withDefaults value).resolve =
      (blueprint.resolve.1.withDefaults value, blueprint.resolve.2) := by
  rw [resolve, resolve, with_implied_with_defaults]
  by_cases several : 1 < blueprint.withImplied.primaryCount
  · rw [if_pos several]
    exact if_pos several
  · rw [if_neg several]
    exact if_neg several

theorem alters_as_marked_of_plain
    (plain : ∀ command ∈ blueprint.commands, command.isAlteration = false) :
    blueprint.AltersAsMarked := by
  obtain ⟨noChanges, noAdditions⟩ := flatMap_names_of_plain plain
  constructor
  · intro name listed
    rw [listedAdditions, noAdditions] at listed
    cases listed
  · intro name listed
    rw [listedChanges, noChanges] at listed
    cases listed

theorem kept_of_listed (distinct : DistinctNames blueprint.columns) {kept : Column → Bool}
    {fresh : String → Bool} {name : String}
    (listed : name ∈ ((blueprint.columns.filter kept).map (·.name)).filter fresh)
    {column : Column} (found : blueprint.column? name = some column) : kept column = true := by
  obtain ⟨other, member, rfl⟩ := List.mem_map.mp (List.mem_filter.mp listed).1
  obtain ⟨inColumns, keeps⟩ := List.mem_filter.mp member
  have own := column_of_same_name distinct inColumns (Text.sameName_refl other.name)
  obtain rfl := Option.some.inj (own.symm.trans found)
  exact keeps

theorem AltersAsMarked.with_implied (marked : blueprint.AltersAsMarked)
    (distinct : DistinctNames blueprint.columns) : blueprint.withImplied.AltersAsMarked := by
  obtain ⟨changes, additions⟩ := with_implied_listed blueprint
  have find : blueprint.withImplied.column? = blueprint.column? := by
    funext name
    rw [column?, column?, (with_implied_same_table blueprint).columns]
  cases creating : blueprint.creating with
  | true =>
      rw [with_alterations_of_creating creating] at changes additions
      constructor
      · rw [additions, find]
        exact marked.added
      · rw [changes, find]
        exact marked.changed
  | false =>
      obtain ⟨grownChanges, grownAdditions⟩ := with_alterations_listed creating
      constructor
      · rw [additions, find]
        intro name listed column found
        rcases List.mem_append.mp (grownAdditions.mem_iff.mp listed) with fresh | old
        · simpa using kept_of_listed distinct fresh found
        · exact marked.added name old column found
      · rw [changes, find]
        intro name listed column found
        rcases List.mem_append.mp (grownChanges.mem_iff.mp listed) with fresh | old
        · exact kept_of_listed distinct fresh found
        · exact marked.changed name old column found

theorem AltersAsMarked.with_names (marked : blueprint.AltersAsMarked) :
    blueprint.withNames.AltersAsMarked := by
  obtain ⟨changes, additions⟩ := with_names_listed blueprint
  constructor
  · rw [additions]
    exact marked.added
  · rw [changes]
    exact marked.changed

theorem AltersAsMarked.resolve (marked : blueprint.AltersAsMarked)
    (distinct : DistinctNames blueprint.columns) : blueprint.resolve.1.AltersAsMarked := by
  have registered := marked.with_implied distinct
  obtain ⟨_, resolved⟩ | ⟨_, resolved⟩ := resolve_cases blueprint
  · rw [resolved]
    exact registered
  · rw [resolved]
    exact registered.with_names

theorem column_with_defaults (name : String) :
    (blueprint.withDefaults value).column? name =
      (blueprint.column? name).map (Column.defaulting value) := by
  rw [column?, withDefaults, List.find?_map]
  rfl

end Blueprint

namespace Grammar

def strict (grammar : Grammar) : Grammar :=
  { grammar with settings := { grammar.settings with strictMode := true } }

/-- The default of a column, or, where it lacks a value, the one that is made up for its storage
type. -/
def writtenDefault (grammar : Grammar) (key : Option IndexSpec) (column : Column) :
    Option DefaultValue :=
  if column.lacksValue key then
    match grammar.storageType column with
    | .ok type => StorageType.implicitDefault type
    | .error _ => none
  else column.defaultValue

variable {grammar : Grammar} {blueprint : Blueprint} {value : Column → Option DefaultValue}

theorem require_columns_with_defaults :
    requireColumns (blueprint.withDefaults value) = requireColumns blueprint := by
  funext names
  simp only [requireColumns, Blueprint.column_with_defaults, Option.isNone_map]
  rfl

theorem inline_primary_with_defaults :
    inlinePrimary? (blueprint.withDefaults value) = inlinePrimary? blueprint := by
  have key : (blueprint.withDefaults value).primary? = blueprint.primary? := rfl
  unfold inlinePrimary?
  rw [key]
  cases blueprint.primary? with
  | none => rfl
  | some key =>
      simp only [Blueprint.column_with_defaults]
      split
      · rename_i name _
        cases blueprint.column? name <;> rfl
      · rfl

theorem effective_default_of_strict (column : Column) (type : String) :
    grammar.strict.effectiveDefault blueprint column type = column.defaultValue := by
  rw [effectiveDefault]
  cases column.defaultValue with
  | some own => rfl
  | none => simp [wantsImplicitDefault, strict]

theorem effective_default_eq_written (lenient : grammar.settings.strictMode = false)
    {column : Column} (new : column.change = false) {type : String}
    (stored : grammar.storageType column = .ok type) :
    grammar.effectiveDefault blueprint column type =
      grammar.writtenDefault blueprint.primary? column := by
  have keyed : (blueprint.primary?.any fun key => Text.listsName key.columns column.name) =
      inPrimary blueprint column.name := by
    rw [inPrimary]
    cases blueprint.primary? <;> rfl
  rw [effectiveDefault, writtenDefault, wantsImplicitDefault, Column.lacksValue, keyed, stored]
  cases own : column.defaultValue with
  | some default => simp
  | none => simp [lenient, new]

theorem written_default_of_change {column : Column} (modified : column.change = true)
    (key : Option IndexSpec) : grammar.writtenDefault key column = column.defaultValue := by
  simp [writtenDefault, Column.lacksValue, modified]

theorem render_column_of_strict (table : String) (column : Column) (type : String)
    (written : Option DefaultValue) :
    grammar.strict.renderColumn table (column.defaulting value) type written =
      grammar.renderColumn table column type written := rfl

theorem storage_type_of_strict (column : Column) :
    grammar.strict.storageType (column.defaulting value) = grammar.storageType column := rfl

theorem column_definition_of_strict (grammar : Grammar) (blueprint : Blueprint)
    (lenient : grammar.settings.strictMode = false) {column : Column}
    (new : column.change = false) :
    let written := grammar.writtenDefault blueprint.primary?
    grammar.strict.columnDefinition (blueprint.withDefaults written) (column.defaulting written) =
      grammar.columnDefinition blueprint column := by
  intro written
  have table : (blueprint.withDefaults written).table = blueprint.table := rfl
  simp only [columnDefinition, storage_type_of_strict, effective_default_of_strict,
    render_column_of_strict, table]
  cases stored : grammar.storageType column with
  | error fault => rfl
  | ok type =>
      have same : (column.defaulting written).defaultValue =
          grammar.effectiveDefault blueprint column type :=
        (effective_default_eq_written lenient new stored).symm
      simp only [bind, Except.bind, same]

theorem change_definition_of_strict (grammar : Grammar) (blueprint : Blueprint)
    (key : Option IndexSpec) {column : Column} (modified : column.change = true) :
    let written := grammar.writtenDefault key
    grammar.strict.changeDefinition (blueprint.withDefaults written) (column.defaulting written) =
      grammar.changeDefinition blueprint column := by
  intro written
  have table : (blueprint.withDefaults written).table = blueprint.table := rfl
  have same : (column.defaulting written).defaultValue = column.defaultValue :=
    written_default_of_change modified key
  simp only [changeDefinition, storage_type_of_strict, render_column_of_strict, table, same]

theorem create_statement_of_strict (lenient : grammar.settings.strictMode = false) :
    grammar.strict.createStatement
        (blueprint.withDefaults (grammar.writtenDefault blueprint.primary?)) =
      grammar.createStatement blueprint := by
  have added : ∀ value, (blueprint.withDefaults value).addedColumns =
      blueprint.addedColumns.map (Column.defaulting value) := by
    intro value
    rw [Blueprint.addedColumns, Blueprint.withDefaults, List.filter_map]
    rfl
  have primary : ∀ value, grammar.strict.createdPrimary (blueprint.withDefaults value) =
      grammar.createdPrimary blueprint := by
    intro value
    rw [createdPrimary, createdPrimary, require_columns_with_defaults]
    rfl
  have definitions : blueprint.addedColumns.mapM (grammar.strict.columnDefinition
        (blueprint.withDefaults (grammar.writtenDefault blueprint.primary?)) ∘
          Column.defaulting (grammar.writtenDefault blueprint.primary?)) =
      blueprint.addedColumns.mapM (grammar.columnDefinition blueprint) := by
    apply mapM_congr
    intro column member
    have new : column.change = false := by simpa using (List.mem_filter.mp member).2
    exact column_definition_of_strict grammar blueprint lenient new
  rw [createStatement, createStatement, added, primary, List.mapM_map, definitions]
  rfl

theorem require_column_with_defaults (name : String) :
    requireColumn (blueprint.withDefaults value) name =
      (requireColumn blueprint name).map (Column.defaulting value) := by
  rw [requireColumn, requireColumn, Blueprint.column_with_defaults]
  cases blueprint.column? name <;> rfl

theorem inline_clause_with_defaults (column : Column) :
    inlineClause (blueprint.withDefaults value) (column.defaulting value) =
      inlineClause blueprint column := by
  rw [inlineClause, inlineClause, inline_primary_with_defaults]
  rfl

theorem add_statement_of_strict (lenient : grammar.settings.strictMode = false) {name : String}
    (new : ∀ column, blueprint.column? name = some column → column.change = false) :
    grammar.strict.addStatement
        (blueprint.withDefaults (grammar.writtenDefault blueprint.primary?)) name =
      grammar.addStatement blueprint name := by
  rw [addStatement, addStatement, require_column_with_defaults, requireColumn]
  cases found : blueprint.column? name with
  | none => rfl
  | some column =>
      have definition := column_definition_of_strict grammar blueprint lenient (new column found)
      simp only [Except.map, bind, Except.bind, definition, inline_clause_with_defaults]
      rfl

theorem change_statement_of_strict {name : String} (key : Option IndexSpec)
    (modified : ∀ column, blueprint.column? name = some column → column.change = true) :
    grammar.strict.changeStatement (blueprint.withDefaults (grammar.writtenDefault key)) name =
      grammar.changeStatement blueprint name := by
  rw [changeStatement, changeStatement, require_column_with_defaults, requireColumn]
  cases found : blueprint.column? name with
  | none => rfl
  | some column =>
      have definition := change_definition_of_strict grammar blueprint key (modified column found)
      simp only [Except.map, bind, Except.bind, definition]
      rfl

theorem primary_statements_of_strict :
    grammar.strict.primaryStatements (blueprint.withDefaults value) =
      grammar.primaryStatements blueprint := by
  funext key
  have inlined : isInlined (blueprint.withDefaults value) key = isInlined blueprint key := by
    rw [isInlined, isInlined, inline_primary_with_defaults]
    rfl
  rw [primaryStatements, primaryStatements, require_columns_with_defaults, inlined]
  rfl

theorem index_statement_of_strict :
    grammar.strict.indexStatement (blueprint.withDefaults value) =
      grammar.indexStatement blueprint := by
  funext opening index
  rw [indexStatement, indexStatement, require_columns_with_defaults]
  rfl

theorem compile_of_strict (lenient : grammar.settings.strictMode = false)
    (marked : blueprint.AltersAsMarked) {command : Command}
    (member : command ∈ blueprint.commands) :
    grammar.strict.compile (blueprint.withDefaults (grammar.writtenDefault blueprint.primary?))
        command =
      grammar.compile blueprint command := by
  cases command with
  | create => rw [compile, compile, create_statement_of_strict lenient]
  | add names =>
      apply mapM_congr
      intro name listed
      exact add_statement_of_strict lenient
        (marked.added name (List.mem_flatMap.mpr ⟨_, member, listed⟩))
  | change names =>
      apply mapM_congr
      intro name listed
      exact change_statement_of_strict _
        (marked.changed name (List.mem_flatMap.mpr ⟨_, member, listed⟩))
  | primary key => rw [compile, compile, primary_statements_of_strict]
  | unique index => rw [compile, compile, index_statement_of_strict]
  | index index => rw [compile, compile, index_statement_of_strict]
  | _ => rfl

/-- Strict mode takes made-up defaults away and does nothing else. If a blueprint with different
column names lists its columns as they are marked, and every default that the grammar would make up
is written out, then the grammar in strict mode gives the same statements, or the same error. -/
theorem strict_mode_drops_made_up_defaults (grammar : Grammar) (blueprint : Blueprint)
    (lenient : grammar.settings.strictMode = false)
    (marked : blueprint.AltersAsMarked) (distinct : DistinctNames blueprint.columns) :
    let key := blueprint.resolve.1.primary?
    let explicit := blueprint.withDefaults (grammar.writtenDefault key)
    (grammar.strict.toSql explicit).2 = (grammar.toSql blueprint).2 := by
  intro key explicit
  have resolved : explicit.resolve =
      (blueprint.resolve.1.withDefaults (grammar.writtenDefault key), blueprint.resolve.2) :=
    Blueprint.resolve_with_defaults _ blueprint
  have same : grammar.strict.compileAll (blueprint.resolve.1.withDefaults
      (grammar.writtenDefault key)) = grammar.compileAll blueprint.resolve.1 :=
    gather_congr fun command member => compile_of_strict lenient (marked.resolve distinct) member
  rw [toSql, toSql, resolved]
  cases passed : blueprint.resolve with
  | mk registered outcome =>
      rw [passed] at same
      cases outcome with
      | error fault => rfl
      | ok done => exact same

/-- A table that is there, with a key over two columns, one of them in another spelling: a value is
made up for the total and for the note, and neither for the keys nor for the modified column. -/
def ordersOfShops : Blueprint :=
  { table := "orders"
    columns := [(Column.plain "shop" .integer).withNullable false,
      (Column.plain "number" .integer).withNullable false,
      ((Column.decimal "total" 10 2).withNullable false).asIndex,
      (Column.plain "note" .text).withNullable false,
      ((Column.plain "state" .string).withNullable false).asChange]
    commands := [.primary { columns := ["SHOP", "number"] }] }

theorem strict_mode_drops_made_up_defaults_orders :
    (Grammar.settings {}).strictMode = false ∧ ordersOfShops.AltersAsMarked ∧
    DistinctNames ordersOfShops.columns ∧
    let key := ordersOfShops.resolve.1.primary?
    let explicit := ordersOfShops.withDefaults (writtenDefault {} key)
    (toSql (strict {}) explicit).2 = (toSql {} ordersOfShops).2 ∧
    (toSql {} ordersOfShops).2 =
      .ok ["alter table orders modify state varchar2(255 char) not null",
        "alter table orders add shop int not null",
        "alter table orders add \"NUMBER\" int not null",
        "alter table orders add total decimal(10, 2) default '0' not null",
        "alter table orders add note text default '' not null",
        "alter table orders add constraint orders_shop_number_primary primary key (SHOP, \"NUMBER\")",
        "create index orders_total_index on orders ( total )"] := by
  have lenient : (Grammar.settings {}).strictMode = false := rfl
  have marked : ordersOfShops.AltersAsMarked :=
    Blueprint.alters_as_marked_of_plain (by decide)
  have distinct : DistinctNames ordersOfShops.columns := by
    unfold DistinctNames
    decide +kernel
  refine ⟨lenient, marked, distinct,
    strict_mode_drops_made_up_defaults {} ordersOfShops lenient marked distinct, ?_⟩
  decide +kernel

end Grammar

end SchemaBlueprint
