import SchemaBlueprint.Json.Basic
import SchemaBlueprint.Blueprint.Basic

/-!
Blueprints as JSON values. What a column does not state is left out; its flags are always there.
-/

namespace SchemaBlueprint

set_option autoImplicit false

/-- A default as a value: an expression is an object, so that it cannot be taken for a text. -/
def DefaultValue.encode : DefaultValue → Json
  | .bool value => .bool value
  | .int value => .int value.toInt
  | .float value => .ofFloat value
  | .text value => .text value
  | .expression sql => .object [("expression", .text sql)]

def Column.encode (column : Column) : Json :=
  let number (value : UInt32) : Json := .int (value.toNat : Int)
  .object <|
    [("name", .text column.name), ("type", .text column.type.name)]
    ++ Json.optional "length" number column.length
    ++ Json.optional "total" number column.total
    ++ Json.optional "places" number column.places
    ++ [("nullable", .bool column.nullable), ("autoIncrement", .bool column.autoIncrement)]
    ++ Json.optional "default" DefaultValue.encode column.defaultValue
    ++ (if column.allowed.isEmpty then [] else [("allowed", .texts column.allowed)])
    ++ [("primary", .bool column.primary), ("unique", .bool column.unique),
        ("index", .bool column.index), ("change", .bool column.change)]

def IndexSpec.entries (spec : IndexSpec) : List (String × Json) :=
  [("index", .text spec.name), ("columns", .texts spec.columns)]
    ++ (if spec.implied then [("implied", .bool true)] else [])

def ForeignKey.entries (key : ForeignKey) : List (String × Json) :=
  [("index", .text key.name), ("columns", .texts key.columns), ("on", .text key.table),
   ("references", .texts key.references)] ++ Json.optional "onDelete" .text key.onDelete

def Command.entries : Command → List (String × Json)
  | .add columns | .change columns | .dropColumn columns => [("columns", .texts columns)]
  | .primary spec | .unique spec | .index spec => spec.entries
  | .foreign key => key.entries
  | .dropPrimary name | .dropUnique name | .dropIndex name | .dropForeign name =>
      [("index", .text name)]
  | .rename target => [("to", .text target)]
  | .renameColumn source target => [("from", .text source), ("to", .text target)]
  | .tableComment comment => [("comment", .text comment)]
  | .updateEnum column allowed => [("column", .text column), ("allowed", .texts allowed)]
  | .columnExists database => [("database", .text database)]
  | .create | .drop | .dropIfExists | .dropAllTables | .tableExists => []

def Command.encode (command : Command) : Json :=
  .object (("name", .text command.name) :: command.entries)

def Blueprint.encode (blueprint : Blueprint) : Json :=
  .object
    [("table", .text blueprint.table), ("prefix", .text blueprint.tablePrefix),
     ("columns", .list (blueprint.columns.map Column.encode)),
     ("commands", .list (blueprint.commands.map Command.encode))]

end SchemaBlueprint
