import SchemaBlueprint.Catalog.Listing
import SchemaBlueprint.Connection.Basic

/-!
Reading the catalog of one owner through a connection: the columns and indexes of a table, and the
tables themselves.
-/

namespace SchemaBlueprint.Catalog

set_option autoImplicit false

def columnsQuery : String :=
  "SELECT COLUMN_NAME, DATA_TYPE, DATA_LENGTH, DATA_PRECISION, DATA_SCALE, NULLABLE, "
    ++ "DATA_DEFAULT, COLUMN_ID FROM ALL_TAB_COLUMNS WHERE OWNER = UPPER(?) "
    ++ "AND TABLE_NAME = UPPER(?) ORDER BY COLUMN_ID"

def indexesQuery : String :=
  "SELECT INDEX_NAME, UNIQUENESS, INDEX_TYPE FROM ALL_INDEXES WHERE TABLE_OWNER = UPPER(?) "
    ++ "AND TABLE_NAME = UPPER(?) ORDER BY INDEX_NAME"

def tablesQuery : String :=
  "SELECT TABLE_NAME FROM ALL_TABLES WHERE OWNER = UPPER(?) ORDER BY TABLE_NAME"

def requireText (row : Row) (column query : String) : Except SchemaError String :=
  match row.text? column with
  | some text => .ok text
  | none => .error (.database ("catalog row has no " ++ column) query)

/-- The column that a row describes. One without a number takes its place in the listing. -/
def columnOfRow (types : TypeRegistry) (position : Nat) (row : Row) :
    Except SchemaError ColumnInfo := do
  let name ← requireText row "COLUMN_NAME" columnsQuery
  let dataType := Text.lower ((row.text? "DATA_TYPE").getD "")
  return {
    name := Text.lower name
    dataType
    abstractType := types.meaning? dataType
    length := row.int? "DATA_LENGTH"
    precision := row.int? "DATA_PRECISION"
    scale := row.int? "DATA_SCALE"
    nullable := row.text? "NULLABLE" == some "Y"
    defaultText := parseDefault (row.text? "DATA_DEFAULT")
    ordinal := (row.int? "COLUMN_ID").getD (Int64.ofNat position) }

def columnsOfRows (types : TypeRegistry) (position : Nat) :
    List Row → Except SchemaError (List ColumnInfo)
  | [] => .ok []
  | row :: rest => do
      let column ← columnOfRow types position row
      return column :: (← columnsOfRows types (position + 1) rest)

def indexOfRow (row : Row) : Except SchemaError IndexInfo := do
  let name ← requireText row "INDEX_NAME" indexesQuery
  return {
    name := Text.lower name
    unique := match row.text? "UNIQUENESS" with
      | some word => Text.sameName word "UNIQUE"
      | none => false
    indexType := Text.lower ((row.text? "INDEX_TYPE").getD "") }

def tableOfRow (row : Row) : Except SchemaError String := do
  return Text.lower (← requireText row "TABLE_NAME" tablesQuery)

structure Reader (σ : Type) where
  connection : Connection σ
  owner : String
  types : TypeRegistry := TypeRegistry.standard

namespace Reader

variable {σ : Type}

def columns (reader : Reader σ) (table : String) : Session σ TableColumns := do
  let rows ← reader.connection.select columnsQuery [reader.owner, Text.upper table]
  return ⟨← liftM (columnsOfRows reader.types 1 rows)⟩

def column? (reader : Reader σ) (table column : String) : Session σ (Option ColumnInfo) := do
  return (← reader.columns table).get? column

def indexes (reader : Reader σ) (table : String) : Session σ (List IndexInfo) := do
  let rows ← reader.connection.select indexesQuery [reader.owner, Text.upper table]
  liftM (rows.mapM indexOfRow)

def tables (reader : Reader σ) : Session σ (List String) := do
  let rows ← reader.connection.select tablesQuery [reader.owner]
  liftM (rows.mapM tableOfRow)

def register (reader : Reader σ) (type meaning : String) : Reader σ :=
  { reader with types := reader.types.register type meaning }

end Reader

end SchemaBlueprint.Catalog
