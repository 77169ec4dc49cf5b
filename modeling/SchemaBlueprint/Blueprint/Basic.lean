import SchemaBlueprint.Column.Basic
import SchemaBlueprint.Command
import SchemaBlueprint.Text.Case

/-!
A blueprint: the columns that one table should have and the commands that bring it there.
-/

namespace SchemaBlueprint

set_option autoImplicit false

structure Blueprint where
  /-- The name of the table, without its prefix. -/
  table : String
  /-- What generated index names put in front of the table. -/
  tablePrefix : String := ""
  columns : List Column := []
  commands : List Command := []

namespace Blueprint

def empty (table : String) : Blueprint := { table }

def creating (blueprint : Blueprint) : Bool := blueprint.commands.any Command.isCreate

def addedColumns (blueprint : Blueprint) : List Column := blueprint.columns.filter (!·.change)

def changedColumns (blueprint : Blueprint) : List Column := blueprint.columns.filter (·.change)

/-- The first column called `name`, up to ASCII case. -/
def column? (blueprint : Blueprint) (name : String) : Option Column :=
  blueprint.columns.find? fun column => Text.sameName column.name name

def primary? (blueprint : Blueprint) : Option IndexSpec := blueprint.commands.findSome? Command.primary?

def foreignKeys (blueprint : Blueprint) : List ForeignKey :=
  blueprint.commands.filterMap Command.foreign?

def primaryCount (blueprint : Blueprint) : Nat := (blueprint.commands.filterMap Command.primary?).length

/-- A character of a generated name: dots and hyphens would not be part of a plain identifier. -/
def plainNameChar (c : Char) : Char := if c = '-' || c = '.' then '_' else c

/-- The name that an index gets when it has none: the prefixed table, the columns and the kind of
index joined by underscores, in lower case, with underscores for hyphens and dots. -/
def indexName (blueprint : Blueprint) (kindWord : String) (columns : List String) : String :=
  let joined := blueprint.tablePrefix ++ blueprint.table ++ "_" ++ "_".intercalate columns ++ "_"
    ++ kindWord
  String.ofList ((Text.lowerChars joined.toList).map plainNameChar)

def namedIndex (blueprint : Blueprint) (kind : IndexKind) (columns : List String) : IndexSpec :=
  { name := blueprint.indexName kind.word columns, columns }

end Blueprint

end SchemaBlueprint
