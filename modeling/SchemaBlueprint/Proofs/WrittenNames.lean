import SchemaBlueprint.Proofs.StatementParts

/-!
The names that statements have in them. Each name is listed with what it names, first as the parts
of a statement hold it and then, command by command, as the blueprint gives it. The two lists are
the same.
-/

namespace SchemaBlueprint

set_option autoImplicit false

abbrev RoledName := NameRole × String

def Part.names : Part → List RoledName
  | .name role given => [(role, given)]
  | .held part => part.names
  | _ => []

namespace Grammar

def namesIn (parts : List Part) : List RoledName := parts.flatMap Part.names

def tableNames (grammar : Grammar) (table : String) : List RoledName :=
  (if grammar.settings.schemaPrefix.isEmpty then []
    else [(.schema, grammar.settings.schemaPrefix)]) ++ [(.table, grammar.prefixedTable table)]

def listedNames (names : List String) : List RoledName := names.map fun name => (.column, name)

def definedNames (grammar : Grammar) (table : String) (column : Column) : List RoledName :=
  (.column, column.name) :: if column.allowed.isEmpty then []
    else [(.key, grammar.enumConstraint table column.name), (.column, column.name)]

def foreignNames (grammar : Grammar) (key : ForeignKey) : List RoledName :=
  (.key, key.name) :: listedNames key.columns ++ grammar.tableNames key.table
    ++ listedNames key.references

def indexNames (index : IndexSpec) : List RoledName :=
  (.key, index.name) :: listedNames index.columns

def inlineNames (blueprint : Blueprint) (column : Column) : List RoledName :=
  match inlinePrimary? blueprint with
  | some (key, name) => if Text.sameName name column.name then [(.key, key.name)] else []
  | none => []

def writtenNames (grammar : Grammar) (blueprint : Blueprint) : Command → List RoledName
  | .create => grammar.tableNames blueprint.table
      ++ blueprint.addedColumns.flatMap (grammar.definedNames blueprint.table)
      ++ blueprint.foreignKeys.flatMap grammar.foreignNames
      ++ blueprint.primary?.toList.flatMap indexNames
  | .add names => (names.filterMap blueprint.column?).flatMap fun column =>
      grammar.tableNames blueprint.table ++ grammar.definedNames blueprint.table column
        ++ inlineNames blueprint column
  | .change names => (names.filterMap blueprint.column?).flatMap fun column =>
      grammar.tableNames blueprint.table ++ grammar.definedNames blueprint.table column
  | .primary key =>
      if standsAlone blueprint key then grammar.tableNames blueprint.table ++ indexNames key else []
  | .foreign key =>
      if blueprint.creating then []
      else grammar.tableNames blueprint.table ++ grammar.foreignNames key
  | .unique index | .index index =>
      (.key, index.name) :: grammar.tableNames blueprint.table ++ listedNames index.columns
  | .drop | .tableComment _ => grammar.tableNames blueprint.table
  | .dropIfExists =>
      (.entry, grammar.prefixedTable blueprint.table) :: grammar.tableNames blueprint.table
  | .dropColumn columns => columns.flatMap fun column =>
      grammar.tableNames blueprint.table ++ [(.column, column)]
  | .dropPrimary name | .dropForeign name =>
      grammar.tableNames blueprint.table ++ [(.key, name)]
  | .dropUnique name | .dropIndex name => [(.key, name)]
  | .rename target => grammar.tableNames blueprint.table ++ grammar.tableNames target
  | .renameColumn source target =>
      grammar.tableNames blueprint.table ++ [(.column, source), (.column, target)]
  | .updateEnum column _ =>
      grammar.tableNames blueprint.table ++ [(.key, grammar.enumConstraint blueprint.table column)]
        ++ grammar.tableNames blueprint.table
        ++ [(.key, grammar.enumConstraint blueprint.table column), (.column, column)]
  | .columnExists _ => [(.entry, grammar.prefixedTable blueprint.table)]
  | .dropAllTables | .tableExists => []

variable {grammar : Grammar} {blueprint : Blueprint}

@[simp] theorem names_nil : namesIn [] = [] := rfl

@[simp] theorem names_cons (part : Part) (parts : List Part) :
    namesIn (part :: parts) = part.names ++ namesIn parts := List.flatMap_cons

@[simp] theorem names_append (front back : List Part) :
    namesIn (front ++ back) = namesIn front ++ namesIn back := List.flatMap_append

theorem names_constraints (clauses : List (List Part)) :
    namesIn (clauses.flatMap (Part.comma :: ·)) = clauses.flatMap namesIn := by
  rw [namesIn, List.flatMap_assoc]
  rfl

theorem names_divided (items : List (List Part)) :
    namesIn (divided items) = items.flatMap namesIn := by
  cases items with
  | nil => rfl
  | cons item items => rw [divided_cons, names_append, names_constraints, List.flatMap_cons]

theorem names_list (opening closing : String) (items : List (List Part)) :
    namesIn (listParts opening closing items) = items.flatMap namesIn := by
  simp [listParts, Part.names, names_divided]

@[simp] theorem names_column_list (opening closing : String) (names : List String) :
    namesIn (listParts opening closing (columnItems names)) = listedNames names := by
  rw [names_list, columnItems, listedNames, List.flatMap_map, List.map_eq_flatMap]
  rfl

theorem names_held (parts : List Part) : namesIn (parts.map .held) = namesIn parts := by
  rw [namesIn, List.flatMap_map]
  rfl

@[simp] theorem names_table (table : String) :
    namesIn (grammar.tableParts table) = grammar.tableNames table := by
  unfold tableParts tableNames
  split <;> simp [Part.names]

@[simp] theorem names_check (column : String) (allowed : List String) :
    namesIn (checkParts column allowed) = [(.column, column)] := by
  simp [checkParts, names_list, Part.names, List.flatMap_map]

theorem names_definition (table : String) (column : Column) (type : String)
    (value : Option DefaultValue) :
    namesIn (grammar.definitionParts table column type value) =
      grammar.definedNames table column := by
  unfold definitionParts definedNames
  cases column.allowed.isEmpty <;> simp [Part.names]

theorem names_column {value : Column → String → Option DefaultValue} {column : Column}
    {type : String} (stored : grammar.storageType column = .ok type) :
    namesIn (grammar.columnParts blueprint value column) =
      grammar.definedNames blueprint.table column := by
  rw [columnParts, stored]
  exact names_definition _ _ _ _

@[simp] theorem names_foreign (key : ForeignKey) :
    namesIn (grammar.foreignParts key) = grammar.foreignNames key := by
  unfold foreignParts foreignNames deletionParts
  cases key.onDelete <;> simp [Part.names]

@[simp] theorem names_primary (key : IndexSpec) : namesIn (primaryParts key) = indexNames key := by
  simp [primaryParts, indexNames, Part.names]

@[simp] theorem names_alter (rest : List Part) :
    namesIn (grammar.alterParts blueprint rest) =
      grammar.tableNames blueprint.table ++ namesIn rest := by
  simp [alterParts, Part.names]

@[simp] theorem names_inline (column : Column) :
    namesIn (inlineParts blueprint column) = inlineNames blueprint column := by
  unfold inlineParts inlineNames
  cases inlinePrimary? blueprint with
  | none => rfl
  | some inline =>
      dsimp only
      split <;> simp [Part.names]

@[simp] theorem names_drop (table : String) :
    namesIn (grammar.dropParts table) = grammar.tableNames table := by
  simp [dropParts, Part.names]

theorem names_create {statement : String}
    (written : grammar.createStatement blueprint = .ok statement) :
    namesIn (grammar.createParts blueprint) = grammar.writtenNames blueprint .create := by
  obtain ⟨definitions, defined, _, _⟩ := create_statement_eq_ok_iff.mp written
  have columns : (blueprint.addedColumns.map (grammar.newColumnParts blueprint)).flatMap namesIn =
      blueprint.addedColumns.flatMap (grammar.definedNames blueprint.table) := by
    rw [List.flatMap_map]
    apply List.flatMap_congr
    intro column member
    obtain ⟨definition, _, wrote⟩ := Outcome.exists_right defined member
    obtain ⟨type, stored, _⟩ := column_definition_eq_ok_iff.mp wrote
    exact names_column stored
  have clauses : (grammar.constraintParts blueprint).flatMap namesIn =
      blueprint.foreignKeys.flatMap grammar.foreignNames ++
        blueprint.primary?.toList.flatMap indexNames := by
    rw [constraintParts, List.flatMap_append, List.flatMap_map]
    cases blueprint.primary? <;> simp
  rw [createParts, names_cons, names_append, names_cons, names_append, names_append, names_table,
    names_divided, names_constraints, columns, clauses, writtenNames]
  simp [Part.names]

theorem stored_of_each {step : String → Except SchemaError String}
    (stores : ∀ name statement, step name = .ok statement → ∃ column type,
      blueprint.column? name = some column ∧ grammar.storageType column = .ok type)
    {names statements : List String} (written : names.mapM step = .ok statements) :
    ∀ column ∈ names.filterMap blueprint.column?,
      ∃ type, grammar.storageType column = .ok type := by
  intro column member
  obtain ⟨name, listed, found⟩ := List.mem_filterMap.mp member
  obtain ⟨statement, _, wrote⟩ :=
    Outcome.exists_right ((Outcome.mapM_eq_ok_iff _ _ _).mp written) listed
  obtain ⟨own, type, foundOwn, stored⟩ := stores name statement wrote
  rw [found, Option.some.injEq] at foundOwn
  exact ⟨type, foundOwn ▸ stored⟩

theorem names_of_command {command : Command} {statements : List String}
    (written : grammar.compile blueprint command = .ok statements) :
    (grammar.commandParts blueprint command).flatMap namesIn =
      grammar.writtenNames blueprint command := by
  cases command with
  | create =>
      obtain ⟨statement, created, _⟩ := Outcome.bind_pure_eq_ok_iff.mp written
      rw [commandParts, List.flatMap_singleton]
      exact names_create created
  | add names =>
      have stored : ∀ column ∈ names.filterMap blueprint.column?,
          ∃ type, grammar.storageType column = .ok type := by
        refine stored_of_each ?_ written
        intro name statement wrote
        obtain ⟨column, type, found, stored, _⟩ := add_statement_eq_ok_iff.mp wrote
        exact ⟨column, type, found, stored⟩
      rw [commandParts, List.flatMap_map, writtenNames]
      apply List.flatMap_congr
      intro column member
      obtain ⟨type, stored⟩ := stored column member
      simp [addParts, newColumnParts, names_column stored, Part.names]
  | change names =>
      have stored : ∀ column ∈ names.filterMap blueprint.column?,
          ∃ type, grammar.storageType column = .ok type := by
        refine stored_of_each ?_ written
        intro name statement wrote
        obtain ⟨column, type, found, stored, _⟩ := change_statement_eq_ok_iff.mp wrote
        exact ⟨column, type, found, stored⟩
      rw [commandParts, List.flatMap_map, writtenNames]
      apply List.flatMap_congr
      intro column member
      obtain ⟨type, stored⟩ := stored column member
      simp [changeParts, changedColumnParts, names_column stored, Part.names]
  | primary key =>
      rw [commandParts, writtenNames]
      split <;> simp [indexNames, Part.names]
  | foreign key =>
      rw [commandParts, writtenNames]
      split <;> simp [Part.names]
  | unique index | index index =>
      rw [commandParts, List.flatMap_singleton, writtenNames]
      simp [indexParts, Part.names]
  | dropColumn columns =>
      rw [commandParts, List.flatMap_map, writtenNames]
      simp [Part.names]
  | _ =>
      rw [commandParts, writtenNames]
      simp [Part.names, names_held]

theorem mem_statement_names {statements : List String}
    (compiled : (grammar.toSql blueprint).2 = .ok statements) {named : RoledName} :
    (∃ parts ∈ grammar.statementParts (grammar.toSql blueprint).1, named ∈ namesIn parts) ↔
      ∃ command ∈ (grammar.toSql blueprint).1.commands,
        named ∈ grammar.writtenNames (grammar.toSql blueprint).1 command := by
  obtain ⟨_, each, _⟩ := to_sql_emits compiled
  simp only [statementParts, List.mem_flatMap]
  constructor
  · rintro ⟨parts, ⟨command, member, row⟩, here⟩
    refine ⟨command, member, ?_⟩
    rw [← names_of_command (each command member)]
    exact List.mem_flatMap.mpr ⟨parts, row, here⟩
  · rintro ⟨command, member, here⟩
    rw [← names_of_command (each command member)] at here
    obtain ⟨parts, row, inside⟩ := List.mem_flatMap.mp here
    exact ⟨parts, ⟨command, member, row⟩, inside⟩

end Grammar

end SchemaBlueprint
