import SchemaBlueprint.Proofs.Emission
import SchemaBlueprint.Proofs.InlineKey

/-!
Statements taken apart. The text of a statement does not tell a name from the words around it, since
a name may be any text. Here each statement of a command is given as a row of parts that do: words,
names with what they name, and the marks that open, divide and close its lists. Written one behind
the other, the parts are the statement.
-/

namespace SchemaBlueprint

set_option autoImplicit false

inductive NameRole where
  | schema
  | table
  | column
  /-- An index, a key or a check. -/
  | key
  /-- A table that the catalog is asked for. -/
  | entry
  deriving DecidableEq, Repr

inductive Part where
  /-- Keywords, types and values. -/
  | words (text : String)
  | name (role : NameRole) (name : String)
  | opening (mark : String)
  | comma
  | closing (mark : String)
  /-- A part of a statement that stands in a literal, from which the server executes it. -/
  | held (part : Part)
  deriving DecidableEq, Repr

namespace Grammar

/-- A name as a statement has it. Schemas, indexes, keys and checks stand as they were given, and
what the catalog is asked for is a literal. -/
def writtenName (grammar : Grammar) : NameRole → String → String
  | .table, name | .column, name => grammar.wrap name
  | .schema, name | .key, name => name
  | .entry, name => sqlLiteral name

def partText (grammar : Grammar) : Part → String
  | .words text => text
  | .name role name => grammar.writtenName role name
  | .opening mark => mark
  | .comma => ", "
  | .closing mark => mark
  | .held part => escapeLiteral (grammar.partText part)

def spell (grammar : Grammar) (parts : List Part) : String :=
  String.join (parts.map grammar.partText)

def divided : List (List Part) → List Part
  | [] => []
  | [item] => item
  | item :: next :: rest => item ++ .comma :: divided (next :: rest)

def listParts (opening closing : String) (items : List (List Part)) : List Part :=
  .opening opening :: (divided items ++ [.closing closing])

def columnItems (names : List String) : List (List Part) :=
  names.map fun name => [.name .column name]

def checkParts (column : String) (allowed : List String) : List Part :=
  [.words "check (", .name .column column, .words " in "]
    ++ listParts "(" ")" (allowed.map fun value => [.words (sqlLiteral value)]) ++ [.words ")"]

def typeWords (column : Column) (type : String) (value : Option DefaultValue) : String :=
  " " ++ type ++ incrementClause column
    ++ (match value with
      | some value => " default " ++ value.literal
      | none => "")
    ++ if column.nullable then " null" else " not null"

def definitionParts (grammar : Grammar) (table : String) (column : Column) (type : String)
    (value : Option DefaultValue) : List Part :=
  [.name .column column.name, .words (typeWords column type value)]
    ++ if column.allowed.isEmpty then []
      else [.words " constraint ", .name .key (grammar.enumConstraint table column.name),
        .words " "] ++ checkParts column.name column.allowed

def columnParts (grammar : Grammar) (blueprint : Blueprint)
    (value : Column → String → Option DefaultValue) (column : Column) : List Part :=
  match grammar.storageType column with
  | .ok type => grammar.definitionParts blueprint.table column type (value column type)
  | .error _ => []

def newColumnParts (grammar : Grammar) (blueprint : Blueprint) : Column → List Part :=
  grammar.columnParts blueprint (grammar.effectiveDefault blueprint)

def changedColumnParts (grammar : Grammar) (blueprint : Blueprint) : Column → List Part :=
  grammar.columnParts blueprint fun column _ => column.defaultValue

def tableParts (grammar : Grammar) (table : String) : List Part :=
  (if grammar.settings.schemaPrefix.isEmpty then []
    else [.name .schema grammar.settings.schemaPrefix, .words "."])
    ++ [.name .table (grammar.prefixedTable table)]

def deletionParts (key : ForeignKey) : List Part :=
  match key.onDelete with
  | some action => [.words (" on delete " ++ action)]
  | none => []

def foreignParts (grammar : Grammar) (key : ForeignKey) : List Part :=
  [.words "constraint ", .name .key key.name, .words " foreign key"]
    ++ listParts " ( " " )" (columnItems key.columns) ++ .words " references "
    :: (grammar.tableParts key.table ++ listParts " ( " " )" (columnItems key.references)
      ++ deletionParts key)

def primaryParts (key : IndexSpec) : List Part :=
  [.words "constraint ", .name .key key.name, .words " primary key"]
    ++ listParts " ( " " )" (columnItems key.columns)

def constraintParts (grammar : Grammar) (blueprint : Blueprint) : List (List Part) :=
  blueprint.foreignKeys.map grammar.foreignParts ++ (blueprint.primary?.map primaryParts).toList

/-- The statement that creates a table. Its constraints are put behind its columns with a comma in
front of each. -/
def createParts (grammar : Grammar) (blueprint : Blueprint) : List Part :=
  .words "create table " :: (grammar.tableParts blueprint.table ++ .opening " ( "
    :: (divided (blueprint.addedColumns.map (grammar.newColumnParts blueprint))
      ++ (grammar.constraintParts blueprint).flatMap (Part.comma :: ·) ++ [.closing " )"]))

def alterParts (grammar : Grammar) (blueprint : Blueprint) (rest : List Part) : List Part :=
  .words "alter table " :: (grammar.tableParts blueprint.table ++ rest)

def inlineParts (blueprint : Blueprint) (column : Column) : List Part :=
  match inlinePrimary? blueprint with
  | some (key, name) =>
      if Text.sameName name column.name then
        [.words " constraint ", .name .key key.name, .words " primary key"]
      else []
  | none => []

def addParts (grammar : Grammar) (blueprint : Blueprint) (column : Column) : List Part :=
  grammar.alterParts blueprint
    (.words " add " :: (grammar.newColumnParts blueprint column ++ inlineParts blueprint column))

def changeParts (grammar : Grammar) (blueprint : Blueprint) (column : Column) : List Part :=
  grammar.alterParts blueprint (.words " modify " :: grammar.changedColumnParts blueprint column)

/-- Whether a primary key has a statement of its own: it is added to a table that is there, it was
asked for, and no column carries it. -/
def standsAlone (blueprint : Blueprint) (key : IndexSpec) : Bool :=
  !(blueprint.creating || key.implied || isInlined blueprint key)

def indexParts (grammar : Grammar) (blueprint : Blueprint) (opening : String) (index : IndexSpec) :
    List Part :=
  [.words opening, .name .key index.name, .words " on "] ++ grammar.tableParts blueprint.table
    ++ listParts " ( " " )" (columnItems index.columns)

def dropParts (grammar : Grammar) (table : String) : List Part :=
  .words "drop table " :: grammar.tableParts table

def commandParts (grammar : Grammar) (blueprint : Blueprint) : Command → List (List Part)
  | .create => [grammar.createParts blueprint]
  | .add names => (names.filterMap blueprint.column?).map (grammar.addParts blueprint)
  | .change names => (names.filterMap blueprint.column?).map (grammar.changeParts blueprint)
  | .primary key =>
      if standsAlone blueprint key then
        [grammar.alterParts blueprint
          ([.words " add constraint ", .name .key key.name, .words " primary key "]
            ++ listParts "(" ")" (columnItems key.columns))]
      else []
  | .foreign key =>
      if blueprint.creating then []
      else [grammar.alterParts blueprint (.words " add " :: grammar.foreignParts key)]
  | .unique index => [grammar.indexParts blueprint "create unique index " index]
  | .index index => [grammar.indexParts blueprint "create index " index]
  | .drop => [grammar.dropParts blueprint.table]
  | .dropIfExists =>
      [[.words "declare c int;\nbegin\n   select count(*) into c from user_tables where table_name = upper(",
        .name .entry (grammar.prefixedTable blueprint.table),
        .words ");\n   if c = 1 then\n      execute immediate ", .words "'"]
        ++ (grammar.dropParts blueprint.table).map .held
        ++ [.words "'", .words ";\n   end if;\nend;"]]
  | .dropAllTables => [[.words dropAllTablesBlock]]
  | .dropColumn columns =>
      columns.map fun column =>
        grammar.alterParts blueprint [.words " drop column ", .name .column column]
  | .dropPrimary name | .dropForeign name =>
      [grammar.alterParts blueprint [.words " drop constraint ", .name .key name]]
  | .dropUnique name | .dropIndex name => [[.words "drop index if exists ", .name .key name]]
  | .rename target =>
      [grammar.alterParts blueprint (.words " rename to " :: grammar.tableParts target)]
  | .renameColumn source target =>
      [grammar.alterParts blueprint [.words " rename column ", .name .column source,
        .words " to ", .name .column target]]
  | .tableComment comment =>
      [.words "comment on table " :: (grammar.tableParts blueprint.table
        ++ [.words " is ", .words (sqlLiteral comment)])]
  | .updateEnum column allowed =>
      let constraint := grammar.enumConstraint blueprint.table column
      [grammar.alterParts blueprint [.words " drop constraint ", .name .key constraint],
       grammar.alterParts blueprint ([.words " add constraint ", .name .key constraint, .words " "]
        ++ checkParts column allowed)]
  | .tableExists => [[.words tableExistsQuery]]
  | .columnExists database =>
      [[.words "select column_name from all_tab_cols where upper(owner) = upper(",
        .words (sqlLiteral database), .words ") and upper(table_name) = upper(",
        .name .entry (grammar.prefixedTable blueprint.table), .words ")"]]

def statementParts (grammar : Grammar) (blueprint : Blueprint) : List (List Part) :=
  blueprint.commands.flatMap (grammar.commandParts blueprint)

variable {grammar : Grammar} {blueprint : Blueprint}

@[simp] theorem spell_nil : grammar.spell [] = "" := rfl

@[simp] theorem spell_cons (part : Part) (parts : List Part) :
    grammar.spell (part :: parts) = grammar.partText part ++ grammar.spell parts := by
  rw [spell, List.map_cons, String.join_cons, spell]

@[simp] theorem spell_append (front back : List Part) :
    grammar.spell (front ++ back) = grammar.spell front ++ grammar.spell back := by
  rw [spell, List.map_append, String.join_append, spell, spell]

theorem divided_cons (item : List Part) (items : List (List Part)) :
    divided (item :: items) = item ++ items.flatMap (Part.comma :: ·) := by
  induction items generalizing item with
  | nil => simp [divided]
  | cons next rest ih => rw [divided, ih, List.flatMap_cons, List.cons_append]

theorem spell_divided (items : List (List Part)) :
    grammar.spell (divided items) = ", ".intercalate (items.map grammar.spell) := by
  induction items with
  | nil => rfl
  | cons item items ih =>
      cases items with
      | nil => simp [divided]
      | cons next rest =>
          rw [divided, spell_append, spell_cons, ih, List.map_cons, List.map_cons, List.map_cons,
            String.intercalate_cons_cons, String.append_assoc]
          rfl

theorem spell_list (opening closing : String) (items : List (List Part)) :
    grammar.spell (listParts opening closing items) =
      opening ++ ", ".intercalate (items.map grammar.spell) ++ closing := by
  simp only [listParts, spell_cons, spell_append, spell_divided, partText, spell_nil,
    String.append_empty, String.append_assoc]

theorem spell_column_list (opening closing : String) (names : List String) :
    grammar.spell (listParts opening closing (columnItems names)) =
      opening ++ grammar.columnize names ++ closing := by
  have items : (columnItems names).map grammar.spell = names.map grammar.wrap := by
    simp only [columnItems, List.map_map]
    apply List.map_congr_left
    intro name _
    simp [partText, writtenName]
  rw [spell_list, items]
  rfl

theorem spell_check (column : String) (allowed : List String) :
    grammar.spell (checkParts column allowed) = grammar.enumCheck column allowed := by
  have items : (allowed.map fun value => [Part.words (sqlLiteral value)]).map grammar.spell =
      allowed.map sqlLiteral := by
    simp only [List.map_map]
    apply List.map_congr_left
    intro value _
    simp [partText]
  simp only [checkParts, spell_append, spell_cons, spell_nil, spell_list, items, partText,
    writtenName, enumCheck, enumValues, String.append_empty, String.append_assoc]
  rfl

theorem spell_definition (table : String) (column : Column) (type : String)
    (value : Option DefaultValue) :
    grammar.spell (grammar.definitionParts table column type value) =
      grammar.renderColumn table column type value := by
  unfold definitionParts renderColumn nullClause typeWords
  cases value <;> cases column.allowed.isEmpty <;>
    simp [partText, writtenName, spell_check, String.append_assoc]

theorem spell_column {value : Column → String → Option DefaultValue} {column : Column}
    {type : String} (stored : grammar.storageType column = .ok type) :
    grammar.spell (grammar.columnParts blueprint value column) =
      grammar.renderColumn blueprint.table column type (value column type) := by
  rw [columnParts, stored]
  exact spell_definition _ _ _ _

theorem spell_table (table : String) :
    grammar.spell (grammar.tableParts table) = grammar.wrapTable table := by
  unfold tableParts wrapTable
  dsimp only
  split <;> simp [partText, writtenName, String.append_assoc]

theorem spell_foreign (key : ForeignKey) :
    grammar.spell (grammar.foreignParts key) = grammar.foreignClause key := by
  have opening : " foreign key ( " = " foreign key" ++ " ( " := rfl
  have middle : " ) references " = " )" ++ " references " := rfl
  unfold foreignClause foreignParts deletionParts
  rw [opening, middle]
  cases key.onDelete <;>
    simp only [spell_append, spell_cons, spell_nil, partText, writtenName, spell_column_list,
      spell_table, String.append_assoc, String.append_empty]

theorem spell_primary (key : IndexSpec) :
    grammar.spell (primaryParts key) = grammar.primaryClause key := by
  have opening : " primary key ( " = " primary key" ++ " ( " := rfl
  rw [primaryParts, primaryClause, spell_append, spell_column_list, opening]
  simp only [spell_cons, spell_nil, partText, writtenName, String.append_assoc,
    String.empty_append]

theorem spell_alter (rest : List Part) :
    grammar.spell (grammar.alterParts blueprint rest) =
      "alter table " ++ grammar.wrapTable blueprint.table ++ grammar.spell rest := by
  simp [alterParts, partText, spell_table, String.append_assoc]

theorem spell_inline (column : Column) :
    grammar.spell (inlineParts blueprint column) = inlineClause blueprint column := by
  unfold inlineParts inlineClause
  cases inlinePrimary? blueprint with
  | none => rfl
  | some inline =>
      dsimp only
      split <;> simp [partText, writtenName, String.append_assoc]

theorem spell_drop (table : String) :
    grammar.spell (grammar.dropParts table) = grammar.dropStatement table := by
  simp [dropParts, dropStatement, partText, spell_table]

theorem spell_held (parts : List Part) :
    grammar.spell (parts.map .held) = escapeLiteral (grammar.spell parts) := by
  induction parts with
  | nil => rfl
  | cons part parts ih =>
      rw [List.map_cons, spell_cons, spell_cons, ih, ← String.toList_inj]
      simp only [partText, String.toList_append, toList_escapeLiteral, Text.doubled_append]

theorem spell_constraints (clauses : List (List Part)) :
    grammar.spell (clauses.flatMap (Part.comma :: ·)) =
      String.join ((clauses.map grammar.spell).map (", " ++ ·)) := by
  induction clauses with
  | nil => rfl
  | cons clause clauses ih =>
      rw [List.flatMap_cons, spell_append, spell_cons, ih, List.map_cons, List.map_cons,
        String.join_cons]
      rfl

theorem spell_columns {columns : List Column} {definitions : List String}
    (defined : List.Forall₂ (fun column definition =>
      grammar.columnDefinition blueprint column = .ok definition) columns definitions) :
    definitions = (columns.map (grammar.newColumnParts blueprint)).map grammar.spell := by
  induction defined with
  | nil => rfl
  | cons head _ ih =>
      obtain ⟨type, stored, rfl⟩ := column_definition_eq_ok_iff.mp head
      rw [List.map_cons, List.map_cons, ← ih, newColumnParts, spell_column stored]

theorem spell_create {statement : String}
    (written : grammar.createStatement blueprint = .ok statement) :
    statement = grammar.spell (grammar.createParts blueprint) := by
  obtain ⟨definitions, defined, _, rfl⟩ := create_statement_eq_ok_iff.mp written
  have clauses : blueprint.foreignKeys.map grammar.foreignClause ++
      (blueprint.primary?.map grammar.primaryClause).toList =
      (grammar.constraintParts blueprint).map grammar.spell := by
    rw [constraintParts, List.map_append, List.map_map]
    congr 1
    · exact List.map_congr_left fun key _ => (spell_foreign key).symm
    · cases blueprint.primary? <;> simp [spell_primary]
  rw [createParts, spell_cons, spell_append, spell_cons, spell_append, spell_append, spell_divided,
    spell_constraints, spell_table, ← spell_columns defined, ← clauses]
  unfold createText
  simp [partText, String.append_assoc]

theorem spell_add {name statement : String}
    (written : grammar.addStatement blueprint name = .ok statement) :
    ∃ column, blueprint.column? name = some column ∧
      statement = grammar.spell (grammar.addParts blueprint column) := by
  obtain ⟨column, type, found, stored, rfl⟩ := add_statement_eq_ok_iff.mp written
  refine ⟨column, found, ?_⟩
  rw [addParts, spell_alter, spell_cons, spell_append, newColumnParts, spell_column stored,
    spell_inline]
  simp [partText, String.append_assoc]

theorem spell_change {name statement : String}
    (written : grammar.changeStatement blueprint name = .ok statement) :
    ∃ column, blueprint.column? name = some column ∧
      statement = grammar.spell (grammar.changeParts blueprint column) := by
  obtain ⟨column, type, found, stored, rfl⟩ := change_statement_eq_ok_iff.mp written
  refine ⟨column, found, ?_⟩
  rw [changeParts, spell_alter, spell_cons, changedColumnParts, spell_column stored]
  simp [partText, String.append_assoc]

theorem spell_index {opening statement : String} {index : IndexSpec}
    (written : grammar.indexStatement blueprint opening index = .ok statement) :
    statement = grammar.spell (grammar.indexParts blueprint opening index) := by
  rw [(index_statement_eq_ok_iff.mp written).2]
  simp [indexParts, partText, writtenName, spell_table, spell_column_list, String.append_assoc]

theorem spell_primary_statements {key : IndexSpec} {statements : List String}
    (written : grammar.primaryStatements blueprint key = .ok statements) :
    statements = (grammar.commandParts blueprint (.primary key)).map grammar.spell := by
  unfold primaryStatements at written
  unfold commandParts standsAlone
  cases creating : blueprint.creating with
  | true =>
      rw [if_pos creating] at written
      obtain ⟨_, _, rfl⟩ := Outcome.bind_pure_eq_ok_iff.mp written
      rfl
  | false =>
      rw [creating, if_neg (by decide)] at written
      cases silent : key.implied || isInlined blueprint key with
      | true =>
          rw [silent, if_pos rfl] at written
          cases written
          simp [silent]
      | false =>
          rw [silent, if_neg (by decide)] at written
          cases written
          have opening : " primary key (" = " primary key " ++ "(" := rfl
          rw [opening]
          simp only [silent, Bool.not_false, if_true, List.map_cons, List.map_nil,
            spell_alter, spell_append, spell_cons, spell_nil, spell_column_list, partText,
            writtenName, String.append_assoc, String.empty_append, Bool.false_or]

theorem spell_each {step : String → Except SchemaError String} {parts : Column → List Part}
    (spelled : ∀ name statement, step name = .ok statement → ∃ column,
      blueprint.column? name = some column ∧ statement = grammar.spell (parts column))
    {names statements : List String} (written : names.mapM step = .ok statements) :
    statements = ((names.filterMap blueprint.column?).map parts).map grammar.spell := by
  have paired := (Outcome.mapM_eq_ok_iff _ _ _).mp written
  clear written
  induction paired with
  | nil => rfl
  | cons head _ ih =>
      obtain ⟨column, found, rfl⟩ := spelled _ _ head
      rw [List.filterMap_cons_some found, List.map_cons, List.map_cons, ih]

theorem spell_command {command : Command} {statements : List String}
    (written : grammar.compile blueprint command = .ok statements) :
    statements = (grammar.commandParts blueprint command).map grammar.spell := by
  cases command with
  | create =>
      obtain ⟨statement, created, rfl⟩ := Outcome.bind_pure_eq_ok_iff.mp written
      rw [spell_create created]
      rfl
  | add names => exact spell_each (fun _ _ => spell_add) written
  | change names => exact spell_each (fun _ _ => spell_change) written
  | primary key => exact spell_primary_statements written
  | foreign key =>
      cases written
      unfold foreignStatements commandParts
      split
      · rfl
      · simp [spell_alter, spell_foreign, partText, String.append_assoc]
  | unique index | index index =>
      obtain ⟨statement, indexed, rfl⟩ := Outcome.bind_pure_eq_ok_iff.mp written
      rw [spell_index indexed]
      rfl
  | drop =>
      cases written
      simp [commandParts, spell_drop]
  | dropIfExists =>
      cases written
      unfold commandParts dropIfExistsBlock
      simp only [List.map_cons, List.map_nil, spell_append, spell_cons, spell_nil, spell_held,
        spell_drop, partText, writtenName, sqlLiteral, String.append_assoc, String.append_empty]
  | dropColumn columns =>
      cases written
      simp [commandParts, spell_alter, partText, writtenName, String.append_assoc]
  | dropPrimary name | dropUnique name | dropIndex name | dropForeign name =>
      cases written
      unfold commandParts dropConstraint
      simp [spell_alter, partText, writtenName, String.append_assoc]
  | rename target =>
      cases written
      simp [commandParts, spell_alter, spell_table, partText, String.append_assoc]
  | renameColumn source target =>
      cases written
      simp [commandParts, spell_alter, partText, writtenName, String.append_assoc]
  | tableComment comment =>
      cases written
      simp [commandParts, spell_table, partText, String.append_assoc]
  | updateEnum column allowed =>
      cases written
      simp [commandParts, updateEnumStatements, spell_alter, spell_check, partText, writtenName,
        String.append_assoc]
  | dropAllTables | tableExists =>
      cases written
      simp [commandParts, partText]
  | columnExists database =>
      cases written
      unfold commandParts columnExistsQuery
      simp [partText, writtenName, String.append_assoc]

theorem spell_statements {statements : List String}
    (compiled : (grammar.toSql blueprint).2 = .ok statements) :
    statements = (grammar.statementParts (grammar.toSql blueprint).1).map grammar.spell := by
  obtain ⟨_, each, joined⟩ := to_sql_emits compiled
  rw [joined, statements_of_emissions, statementParts, List.map_flatMap]
  apply List.flatMap_congr
  intro command member
  exact spell_command (each command member)

end Grammar

end SchemaBlueprint
