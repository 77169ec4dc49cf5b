import SchemaBlueprint.Grammar.Basic
import SchemaBlueprint.Blueprint.Basic
import SchemaBlueprint.StorageType

/-!
Column definitions: a name and a storage type, then the counting keyword, the default, whether the
column may be null, and a check that holds it to its allowed values.
-/

namespace SchemaBlueprint

set_option autoImplicit false

def unquotedLower (text : String) : List Char :=
  (Text.lowerChars text.toList).filter fun c => !(c = '"' || c = '\'' || c = '`')

def enumConstraintName (table column : String) : String :=
  String.ofList (unquotedLower table) ++ "_" ++ String.ofList (unquotedLower column) ++ "_enum"

def enumValues (allowed : List String) : String := ", ".intercalate (allowed.map sqlLiteral)

namespace Grammar

def enumConstraint (grammar : Grammar) (table column : String) : String :=
  enumConstraintName (grammar.prefixedTable table) (grammar.wrap column)

def enumCheck (grammar : Grammar) (column : String) (allowed : List String) : String :=
  "check (" ++ grammar.wrap column ++ " in (" ++ enumValues allowed ++ "))"

def incrementClause (column : Column) : String :=
  if column.isCounter then " " ++ counterKeyword else ""

/-- The default, whether the column may be null, and the check of its allowed values. The server
wants the default first. -/
def nullClause (grammar : Grammar) (table : String) (column : Column)
    (value : Option DefaultValue) : String :=
  let defaultPart := match value with
    | some value => " default " ++ value.literal
    | none => ""
  let nullPart := if column.nullable then " null" else " not null"
  let checkPart :=
    if column.allowed.isEmpty then ""
    else " constraint " ++ grammar.enumConstraint table column.name ++ " "
      ++ grammar.enumCheck column.name column.allowed
  defaultPart ++ nullPart ++ checkPart

def renderColumn (grammar : Grammar) (table : String) (column : Column) (type : String)
    (value : Option DefaultValue) : String :=
  grammar.wrap column.name ++ " " ++ type ++ incrementClause column
    ++ grammar.nullClause table column value

def inPrimary (blueprint : Blueprint) (name : String) : Bool :=
  match blueprint.primary? with
  | some key => Text.listsName key.columns name
  | none => false

/-- Whether a column without a default gets one made up: it may not be null, it is not part of a key
and does not count, and the grammar is not strict. -/
def wantsImplicitDefault (grammar : Grammar) (blueprint : Blueprint) (column : Column) : Bool :=
  !(grammar.settings.strictMode || column.nullable || column.autoIncrement || column.primary
    || inPrimary blueprint column.name)

def effectiveDefault (grammar : Grammar) (blueprint : Blueprint) (column : Column)
    (type : String) : Option DefaultValue :=
  match column.defaultValue with
  | some value => some value
  | none =>
      if grammar.wantsImplicitDefault blueprint column then StorageType.implicitDefault type
      else none

def storageType (grammar : Grammar) (column : Column) : Except SchemaError String :=
  StorageType.ofColumn grammar.settings.lengthInChar column

def columnDefinition (grammar : Grammar) (blueprint : Blueprint) (column : Column) :
    Except SchemaError String := do
  let type ← grammar.storageType column
  return grammar.renderColumn blueprint.table column type
    (grammar.effectiveDefault blueprint column type)

/-- The definition of a column that is being modified, which gets no default but its own. -/
def changeDefinition (grammar : Grammar) (blueprint : Blueprint) (column : Column) :
    Except SchemaError String := do
  let type ← grammar.storageType column
  return grammar.renderColumn blueprint.table column type column.defaultValue

end Grammar

end SchemaBlueprint
