import SchemaBlueprint.Column.Basic
import SchemaBlueprint.Error
import SchemaBlueprint.Text.Blank
import SchemaBlueprint.Text.Case
import SchemaBlueprint.Text.Segment

/-!
How the server stores a column, and the value that it puts into a column that may not be null and is
given none. Dates, date-times and times share one storage type, and so do booleans and the smallest
integers.
-/

namespace SchemaBlueprint.StorageType

set_option autoImplicit false

/-- The length of a text column that states none. -/
def usualLength : UInt32 := 255

/-- A text type with its length, counted in characters or in the server's own unit. -/
def sizedText (keyword : String) (length : UInt32) (lengthInChar : Bool) : String :=
  keyword ++ "(" ++ Decimal.natText length.toNat ++ (if lengthInChar then " char)" else ")")

/-- A floating type, or an exact one when a number of digits is asked for. -/
def floating (keyword : String) (total places : Option UInt32) : String :=
  match total with
  | none => keyword
  | some total =>
      if total = 0 then keyword
      else match places with
        | none => "numeric(" ++ Decimal.natText total.toNat ++ ")"
        | some places =>
            if places = 0 then "numeric(" ++ Decimal.natText total.toNat ++ ")"
            else "numeric(" ++ Decimal.natText total.toNat ++ ", " ++ Decimal.natText places.toNat
              ++ ")"

/-- The storage type of a column. A decimal has to say how many digits it has. -/
def ofColumn (lengthInChar : Bool) (column : Column) : Except SchemaError String :=
  let length := column.length.getD usualLength
  match column.type with
  | .char | .string | .enum => .ok (sizedText "varchar2" length lengthInChar)
  | .nvarchar2 => .ok (sizedText "nvarchar2" length lengthInChar)
  | .text | .mediumText | .longText => .ok "text"
  | .bigInteger => .ok "bigint"
  | .integer | .mediumInteger => .ok "int"
  | .smallInteger => .ok "smallint"
  | .tinyInteger | .boolean => .ok "tinyint"
  | .float => .ok (floating "float" column.total column.places)
  | .double => .ok (floating "double" column.total column.places)
  | .decimal =>
      match column.total, column.places with
      | some total, some places =>
          .ok ("decimal(" ++ Decimal.natText total.toNat ++ ", " ++ Decimal.natText places.toNat
            ++ ")")
      | _, _ => .error (.invalidColumn column.name "decimal requires both total and places")
  | .date | .dateTime | .time => .ok "date"
  | .timestamp => .ok "timestamp"
  | .timestampTz => .ok "timestamp with time zone"
  | .binary => .ok "blob"
  | .uuid => .ok (sizedText "varchar2" 36 lengthInChar)
  | .ipAddress => .ok (sizedText "varchar2" 45 lengthInChar)
  | .macAddress => .ok (sizedText "varchar2" 17 lengthInChar)
  | .json => .ok "json"
  | .jsonb => .ok "jsonb"

/-- The base name of a type: what stands before its parameters, trimmed and in lower case. -/
def baseName (type : String) : String :=
  String.ofList (Text.lowerChars (Text.trimChars (type.toList.takeWhile (· ≠ '('))))

def textTypes : List String :=
  ["string", "text", "longvarchar", "char", "varchar", "varchar2", "nvarchar2", "nvarchar"]

def documentTypes : List String := ["json", "jsonb"]

def numericTypes : List String :=
  ["integer", "int", "bigint", "smallint", "tinyint", "float", "double", "decimal", "numeric",
   "dec", "number", "real", "double precision", "boolean", "bit", "byte"]

def instantTypes : List String :=
  ["datetime", "timestamp", "timestamp time zone", "timestamp with timezone",
   "timestamp with local time zone"]

/-- Types that hold bytes, for which no default is made up. -/
def byteTypes : List String := ["binary", "varbinary", "blob", "clob", "raw"]

def epochInstant : String := "1970-01-01 00:00:00"

/-- The value for a column that may not be null and is given none, by the base name of its storage
type. A type of unknown family gets the empty text, unless its name speaks of dates or times. -/
def implicitDefaultOfBase (base : String) : Option DefaultValue :=
  if textTypes.contains base then some (.text "")
  else if documentTypes.contains base then some (.text "\x7b\x7d")
  else if numericTypes.contains base then some (.int 0)
  else if instantTypes.contains base then some (.text epochInstant)
  else if base = "date" then some (.text "1970-01-01")
  else if base = "time" then some (.text "00:00:00")
  else if base = "year" then some (.text "1970")
  else if Text.isWithin "time".toList base.toList || Text.isWithin "date".toList base.toList then
    some (.text epochInstant)
  else if byteTypes.contains base then none
  else some (.text "")

def implicitDefault (type : String) : Option DefaultValue := implicitDefaultOfBase (baseName type)

end SchemaBlueprint.StorageType
