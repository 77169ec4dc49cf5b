import SchemaBlueprint.Text.Ascii
import SchemaBlueprint.Decimal.Layout
import SchemaBlueprint.Literal

/-!
The columns of a table, described without regard to how a server stores them: a name, an abstract
type and the attributes that definitions, indexes and keys are made from.
-/

namespace SchemaBlueprint

set_option autoImplicit false

inductive ColumnType where
  | bigInteger
  | integer
  | mediumInteger
  | smallInteger
  | tinyInteger
  | float
  | double
  | decimal
  | boolean
  | char
  | string
  | nvarchar2
  | text
  | mediumText
  | longText
  | enum
  | date
  | dateTime
  | time
  | timestamp
  | timestampTz
  | binary
  | uuid
  | ipAddress
  | macAddress
  | json
  | jsonb
  deriving DecidableEq, Repr

namespace ColumnType

def all : List ColumnType :=
  [.bigInteger, .integer, .mediumInteger, .smallInteger, .tinyInteger, .float, .double, .decimal,
   .boolean, .char, .string, .nvarchar2, .text, .mediumText, .longText, .enum, .date, .dateTime,
   .time, .timestamp, .timestampTz, .binary, .uuid, .ipAddress, .macAddress, .json, .jsonb]

def name : ColumnType → String
  | .bigInteger => "bigInteger"
  | .integer => "integer"
  | .mediumInteger => "mediumInteger"
  | .smallInteger => "smallInteger"
  | .tinyInteger => "tinyInteger"
  | .float => "float"
  | .double => "double"
  | .decimal => "decimal"
  | .boolean => "boolean"
  | .char => "char"
  | .string => "string"
  | .nvarchar2 => "nvarchar2"
  | .text => "text"
  | .mediumText => "mediumText"
  | .longText => "longText"
  | .enum => "enum"
  | .date => "date"
  | .dateTime => "dateTime"
  | .time => "time"
  | .timestamp => "timestamp"
  | .timestampTz => "timestampTz"
  | .binary => "binary"
  | .uuid => "uuid"
  | .ipAddress => "ipAddress"
  | .macAddress => "macAddress"
  | .json => "json"
  | .jsonb => "jsonb"

def ofName? (name : String) : Option ColumnType := all.find? fun type => Text.sameName type.name name

def isSerial : ColumnType → Bool
  | .bigInteger | .integer | .mediumInteger | .smallInteger | .tinyInteger => true
  | _ => false

theorem ofName?_name (type : ColumnType) : ofName? type.name = some type := by
  cases type <;> decide +kernel

end ColumnType

inductive DefaultValue where
  | bool (value : Bool)
  | int (value : Int64)
  | float (value : Float)
  | text (value : String)
  /-- A piece of SQL that the server evaluates, such as `SYSDATE`. -/
  | expression (sql : String)

/-- What follows `default` in a column definition. Every value is a quoted literal, a boolean one of
the digits one and zero, and only an expression stands as it is. -/
def DefaultValue.literal : DefaultValue → String
  | .bool value => if value then "'1'" else "'0'"
  | .int value => "'" ++ Decimal.intText value.toInt ++ "'"
  | .float value => "'" ++ Decimal.floatText value ++ "'"
  | .text value => sqlLiteral value
  | .expression sql => sql

structure Column where
  /-- Told apart from the other columns of its table without regard to ASCII case. -/
  name : String
  type : ColumnType
  length : Option UInt32 := none
  /-- The number of all digits, for numeric types. -/
  total : Option UInt32 := none
  /-- The number of digits after the point, for numeric types. -/
  places : Option UInt32 := none
  nullable : Bool := true
  autoIncrement : Bool := false
  defaultValue : Option DefaultValue := none
  /-- The only values that the column may hold; no restriction when there are none. -/
  allowed : List String := []
  primary : Bool := false
  unique : Bool := false
  index : Bool := false
  /-- The column is there already and is to be modified. -/
  change : Bool := false

def Column.isCounter (column : Column) : Bool := column.autoIncrement && column.type.isSerial

end SchemaBlueprint
