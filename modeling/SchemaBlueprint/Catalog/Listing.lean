import SchemaBlueprint.Catalog.Row
import SchemaBlueprint.Catalog.TypeRegistry
import SchemaBlueprint.Json.Basic
import SchemaBlueprint.Text.Ascii

/-!
What a catalog says about a table: its columns and its indexes, with names in lower case and types by
their meaning.
-/

namespace SchemaBlueprint.Catalog

set_option autoImplicit false

structure ColumnInfo where
  name : String
  dataType : String
  /-- The meaning of the data type, if it is known. -/
  abstractType : Option String
  length : Option Int64
  precision : Option Int64
  scale : Option Int64
  nullable : Bool
  defaultText : Option String
  ordinal : Int64

structure IndexInfo where
  name : String
  unique : Bool
  indexType : String

structure TableColumns where
  columns : List ColumnInfo := []

/-- The characters between the quotes of a text that begins with one and ends with another. -/
def unquote? : List Char → Option (List Char)
  | '\'' :: rest => if rest.getLast? == some '\'' then some rest.dropLast else none
  | _ => none

/-- A default as the catalog stores it: white space around it does not count, and one pair of single
quotes is taken off. -/
def parseDefault (stored : Option String) : Option String :=
  stored.map fun text =>
    let trimmed := Text.trimChars text.toList
    String.ofList ((unquote? trimmed).getD trimmed)

namespace TableColumns

def get? (table : TableColumns) (name : String) : Option ColumnInfo :=
  table.columns.find? fun column => Text.sameName column.name name

def contains (table : TableColumns) (name : String) : Bool := (table.get? name).isSome

def names (table : TableColumns) : List String := table.columns.map (·.name)

def size (table : TableColumns) : Nat := table.columns.length

def isEmpty (table : TableColumns) : Bool := table.columns.isEmpty

end TableColumns

def ColumnInfo.encode (column : ColumnInfo) : Json :=
  let text (value : Option String) : Json := (value.map Json.text).getD .null
  let number (value : Option Int64) : Json := (value.map fun n => Json.int n.toInt).getD .null
  .object
    [("name", .text column.name), ("data_type", .text column.dataType),
     ("abstract_type", text column.abstractType), ("length", number column.length),
     ("precision", number column.precision), ("scale", number column.scale),
     ("nullable", .bool column.nullable), ("default", text column.defaultText),
     ("ordinal", .int column.ordinal.toInt)]

def IndexInfo.encode (index : IndexInfo) : Json :=
  .object
    [("name", .text index.name), ("unique", .bool index.unique),
     ("index_type", .text index.indexType)]

end SchemaBlueprint.Catalog
