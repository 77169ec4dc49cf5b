import SchemaBlueprint.Column.Basic

/-!
Columns in the forms in which they are mostly wanted, and the modifiers that refine them.
-/

namespace SchemaBlueprint.Column

set_option autoImplicit false

def plain (name : String) (type : ColumnType) : Column := { name, type }

def sized (name : String) (type : ColumnType) (length : UInt32) : Column :=
  { name, type, length := some length }

def numeric (name : String) (type : ColumnType) (total places : Option UInt32) : Column :=
  { name, type, total, places }

def decimal (name : String) (total places : UInt32) : Column :=
  numeric name .decimal (some total) (some places)

def enumeration (name : String) (allowed : List String) : Column :=
  { name, type := .enum, allowed }

/-- A number that counts up by itself and is never null. -/
def counter (name : String) (type : ColumnType) : Column :=
  { name, type, autoIncrement := true, nullable := false }

def increments (name : String) : Column := counter name .integer

def bigIncrements (name : String) : Column := counter name .bigInteger

def id : Column := bigIncrements "id"

def timestamps : List Column := [plain "created_at" .timestamp, plain "updated_at" .timestamp]

def withNullable (column : Column) (nullable : Bool) : Column := { column with nullable }

def withDefault (column : Column) (value : DefaultValue) : Column :=
  { column with defaultValue := some value }

def withLength (column : Column) (length : UInt32) : Column := { column with length := some length }

def asAutoIncrement (column : Column) : Column := { column with autoIncrement := true }

def asPrimary (column : Column) : Column := { column with primary := true }

def asUnique (column : Column) : Column := { column with unique := true }

def asIndex (column : Column) : Column := { column with index := true }

def asChange (column : Column) : Column := { column with change := true }

end SchemaBlueprint.Column
