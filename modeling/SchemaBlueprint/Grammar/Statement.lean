import SchemaBlueprint.Grammar.Definition
import SchemaBlueprint.Blueprint.Implied

/-!
The statements of each command, and of a blueprint as a whole. What a command says depends on the
blueprint around it: a created table takes its keys into its own statement.
-/

namespace SchemaBlueprint

set_option autoImplicit false

def tableExistsQuery : String :=
  "select * from all_tables where upper(owner) = upper(?) and upper(table_name) = upper(?)"

def dropAllTablesBlock : String :=
  "\n".intercalate
    ["BEGIN",
     "FOR c IN (SELECT table_name FROM user_tables) LOOP",
     "EXECUTE IMMEDIATE ('DROP TABLE \"' || c.table_name || '\" CASCADE CONSTRAINTS');",
     "END LOOP;",
     "FOR s IN (SELECT sequence_name FROM user_sequences) LOOP",
     "EXECUTE IMMEDIATE ('DROP SEQUENCE ' || s.sequence_name);",
     "END LOOP;",
     "END;"]

inductive ConstraintKind where
  | primary
  | index
  | foreign
  deriving DecidableEq, Repr

namespace Grammar

def columnExistsQuery (owner table : String) : String :=
  "select column_name from all_tab_cols where upper(owner) = upper(" ++ sqlLiteral owner
    ++ ") and upper(table_name) = upper(" ++ sqlLiteral table ++ ")"

def requireColumns (blueprint : Blueprint) (names : List String) : Except SchemaError Unit :=
  match names.find? fun name => (blueprint.column? name).isNone with
  | some missing => .error (.unknownColumn blueprint.table missing)
  | none => .ok ()

def requireColumn (blueprint : Blueprint) (name : String) : Except SchemaError Column :=
  match blueprint.column? name with
  | some column => .ok column
  | none => .error (.unknownColumn blueprint.table name)

def foreignClause (grammar : Grammar) (key : ForeignKey) : String :=
  "constraint " ++ key.name ++ " foreign key ( " ++ grammar.columnize key.columns
    ++ " ) references " ++ grammar.wrapTable key.table ++ " ( " ++ grammar.columnize key.references
    ++ " )" ++ (match key.onDelete with
      | some action => " on delete " ++ action
      | none => "")

def primaryClause (grammar : Grammar) (key : IndexSpec) : String :=
  "constraint " ++ key.name ++ " primary key ( " ++ grammar.columnize key.columns ++ " )"

def createText (grammar : Grammar) (table : String) (definitions clauses : List String) : String :=
  "create table " ++ grammar.wrapTable table ++ " ( " ++ ", ".intercalate definitions
    ++ String.join (clauses.map (", " ++ ·)) ++ " )"

def createdPrimary (grammar : Grammar) (blueprint : Blueprint) :
    Except SchemaError (List String) :=
  match blueprint.primary? with
  | none => .ok []
  | some key => do
      requireColumns blueprint key.columns
      return [grammar.primaryClause key]

def createStatement (grammar : Grammar) (blueprint : Blueprint) : Except SchemaError String := do
  let definitions ← blueprint.addedColumns.mapM (grammar.columnDefinition blueprint)
  let primary ← grammar.createdPrimary blueprint
  return grammar.createText blueprint.table definitions
    (blueprint.foreignKeys.map grammar.foreignClause ++ primary)

/-- The primary key when it is one column that counts, with that column's name as the key gives it.
Such a key is declared along with its column. -/
def inlinePrimary? (blueprint : Blueprint) : Option (IndexSpec × String) :=
  match blueprint.primary? with
  | none => none
  | some key =>
      match key.columns with
      | [name] =>
          match blueprint.column? name with
          | some column => if column.autoIncrement then some (key, name) else none
          | none => none
      | _ => none

def isInlined (blueprint : Blueprint) (key : IndexSpec) : Bool :=
  match inlinePrimary? blueprint with
  | none => false
  | some (inline, name) =>
      inline = key && blueprint.commands.any fun command => Text.listsName command.addedNames name

def inlineClause (blueprint : Blueprint) (column : Column) : String :=
  match inlinePrimary? blueprint with
  | some (key, name) =>
      if Text.sameName name column.name then " constraint " ++ key.name ++ " primary key" else ""
  | none => ""

def addStatement (grammar : Grammar) (blueprint : Blueprint) (name : String) :
    Except SchemaError String := do
  let column ← requireColumn blueprint name
  let definition ← grammar.columnDefinition blueprint column
  return "alter table " ++ grammar.wrapTable blueprint.table ++ " add " ++ definition
    ++ inlineClause blueprint column

def changeStatement (grammar : Grammar) (blueprint : Blueprint) (name : String) :
    Except SchemaError String := do
  let column ← requireColumn blueprint name
  let definition ← grammar.changeDefinition blueprint column
  return "alter table " ++ grammar.wrapTable blueprint.table ++ " modify " ++ definition

/-- Adds a primary key to a table that is there, unless it is declared along with its column. A
created table declares it in its own statement. -/
def primaryStatements (grammar : Grammar) (blueprint : Blueprint) (key : IndexSpec) :
    Except SchemaError (List String) :=
  if blueprint.creating then do
    requireColumns blueprint key.columns
    return []
  else if key.implied || isInlined blueprint key then .ok []
  else .ok ["alter table " ++ grammar.wrapTable blueprint.table ++ " add constraint " ++ key.name
    ++ " primary key (" ++ grammar.columnize key.columns ++ ")"]

/-- Adds a foreign key to a table that is there. A created table declares it in its own
statement. -/
def foreignStatements (grammar : Grammar) (blueprint : Blueprint) (key : ForeignKey) : List String :=
  if blueprint.creating then []
  else ["alter table " ++ grammar.wrapTable blueprint.table ++ " add " ++ grammar.foreignClause key]

def indexStatement (grammar : Grammar) (blueprint : Blueprint) (opening : String)
    (index : IndexSpec) : Except SchemaError String := do
  if blueprint.creating then requireColumns blueprint index.columns
  return opening ++ index.name ++ " on " ++ grammar.wrapTable blueprint.table ++ " ( "
    ++ grammar.columnize index.columns ++ " )"

def dropStatement (grammar : Grammar) (table : String) : String :=
  "drop table " ++ grammar.wrapTable table

def dropIfExistsBlock (grammar : Grammar) (table : String) : String :=
  "declare c int;\nbegin\n   select count(*) into c from user_tables where table_name = upper("
    ++ sqlLiteral (grammar.prefixedTable table)
    ++ ");\n   if c = 1 then\n      execute immediate "
    ++ sqlLiteral (grammar.dropStatement table)
    ++ ";\n   end if;\nend;"

def dropConstraint (grammar : Grammar) (table name : String) : ConstraintKind → String
  | .index => "drop index if exists " ++ name
  | .primary | .foreign =>
      "alter table " ++ grammar.wrapTable table ++ " drop constraint " ++ name

/-- Replaces the check on a column. Checks cannot be altered, so the old one is dropped first. -/
def updateEnumStatements (grammar : Grammar) (table column : String) (allowed : List String) :
    List String :=
  let constraint := grammar.enumConstraint table column
  ["alter table " ++ grammar.wrapTable table ++ " drop constraint " ++ constraint,
   "alter table " ++ grammar.wrapTable table ++ " add constraint " ++ constraint ++ " "
    ++ grammar.enumCheck column allowed]

def compile (grammar : Grammar) (blueprint : Blueprint) :
    Command → Except SchemaError (List String)
  | .create => return [← grammar.createStatement blueprint]
  | .add columns => columns.mapM (grammar.addStatement blueprint)
  | .change columns => columns.mapM (grammar.changeStatement blueprint)
  | .primary key => grammar.primaryStatements blueprint key
  | .foreign key => .ok (grammar.foreignStatements blueprint key)
  | .unique index => return [← grammar.indexStatement blueprint "create unique index " index]
  | .index index => return [← grammar.indexStatement blueprint "create index " index]
  | .drop => .ok [grammar.dropStatement blueprint.table]
  | .dropIfExists => .ok [grammar.dropIfExistsBlock blueprint.table]
  | .dropAllTables => .ok [dropAllTablesBlock]
  | .dropColumn columns =>
      .ok (columns.map fun column =>
        "alter table " ++ grammar.wrapTable blueprint.table ++ " drop column "
          ++ grammar.wrap column)
  | .dropPrimary name => .ok [grammar.dropConstraint blueprint.table name .primary]
  | .dropUnique name => .ok [grammar.dropConstraint blueprint.table name .index]
  | .dropIndex name => .ok [grammar.dropConstraint blueprint.table name .index]
  | .dropForeign name => .ok [grammar.dropConstraint blueprint.table name .foreign]
  | .rename target =>
      .ok ["alter table " ++ grammar.wrapTable blueprint.table ++ " rename to "
        ++ grammar.wrapTable target]
  | .renameColumn source target =>
      .ok ["alter table " ++ grammar.wrapTable blueprint.table ++ " rename column "
        ++ grammar.wrap source ++ " to " ++ grammar.wrap target]
  | .tableComment comment =>
      .ok ["comment on table " ++ grammar.wrapTable blueprint.table ++ " is " ++ sqlLiteral comment]
  | .updateEnum column allowed =>
      .ok (grammar.updateEnumStatements blueprint.table column allowed)
  | .tableExists => .ok [tableExistsQuery]
  | .columnExists database =>
      .ok [columnExistsQuery database (grammar.prefixedTable blueprint.table)]

/-- The statements of all commands as they stand, in order, up to the first error. -/
def compileAll (grammar : Grammar) (blueprint : Blueprint) : Except SchemaError (List String) := do
  let blocks ← blueprint.commands.mapM (grammar.compile blueprint)
  return blocks.flatten

/-- Registers the implied commands and compiles all of them. The blueprint that comes back has them
registered, whether or not statements came of it. -/
def toSql (grammar : Grammar) (blueprint : Blueprint) :
    Blueprint × Except SchemaError (List String) :=
  match blueprint.resolve with
  | (resolved, .error fault) => (resolved, .error fault)
  | (resolved, .ok ()) => (resolved, grammar.compileAll resolved)

end Grammar

end SchemaBlueprint
