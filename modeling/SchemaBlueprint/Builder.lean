import SchemaBlueprint.Connection.Basic
import SchemaBlueprint.Grammar.Statement

/-!
Building a schema on a connection: blueprints are compiled and their statements executed, and the
catalog is asked what is there already. Table names are checked before they get into a statement.
-/

namespace SchemaBlueprint

set_option autoImplicit false

structure Builder (σ : Type) where
  connection : Connection σ
  grammar : Grammar
  /-- The owner whose tables the catalog is asked for. -/
  owner : String

namespace Builder

variable {σ : Type}

/-- Compiles a blueprint and executes its statements, which are the result. -/
def build (builder : Builder σ) (blueprint : Blueprint) : Session σ (List String) := do
  liftM (Identifier.validate blueprint.table)
  let statements ← liftM (builder.grammar.toSql blueprint).2
  builder.connection.executeAll statements
  return statements

def blueprintFor (builder : Builder σ) (table : String) : Except SchemaError Blueprint := do
  Identifier.validate table
  return { Blueprint.empty table with tablePrefix := builder.grammar.settings.tablePrefix }

def create (builder : Builder σ) (table : String) (define : Blueprint → Blueprint) :
    Session σ (List String) := do
  let blueprint ← liftM (builder.blueprintFor table)
  builder.build (define (blueprint.push .create))

def alter (builder : Builder σ) (table : String) (define : Blueprint → Blueprint) :
    Session σ (List String) := do
  let blueprint ← liftM (builder.blueprintFor table)
  builder.build (define blueprint)

def drop (builder : Builder σ) (table : String) : Session σ (List String) :=
  builder.alter table (·.push .drop)

def dropIfExists (builder : Builder σ) (table : String) : Session σ (List String) :=
  builder.alter table (·.push .dropIfExists)

/-- Renames a table. The new name is checked first. -/
def rename (builder : Builder σ) (table target : String) : Session σ (List String) := do
  liftM (Identifier.validate target)
  builder.alter table (·.push (.rename target))

/-- Drops every table and sequence of the connected user. -/
def dropAllTables (builder : Builder σ) : Session σ Unit :=
  builder.connection.execute dropAllTablesBlock

def hasTable (builder : Builder σ) (table : String) : Session σ Bool := do
  liftM (Identifier.validate table)
  let rows ← builder.connection.select tableExistsQuery
    [builder.owner, builder.grammar.prefixedTable table]
  return !rows.isEmpty

def columnListing (builder : Builder σ) (table : String) : Session σ (List String) := do
  liftM (Identifier.validate table)
  let query := Grammar.columnExistsQuery builder.owner (builder.grammar.prefixedTable table)
  let rows ← builder.connection.select query []
  return rows.filterMap (·.text? "COLUMN_NAME")

/-- Whether a table has all of some columns, up to ASCII case. -/
def hasColumns (builder : Builder σ) (table : String) (columns : List String) : Session σ Bool := do
  let existing ← builder.columnListing table
  return columns.all (Text.listsName existing)

def hasColumn (builder : Builder σ) (table column : String) : Session σ Bool :=
  builder.hasColumns table [column]

end Builder

end SchemaBlueprint
