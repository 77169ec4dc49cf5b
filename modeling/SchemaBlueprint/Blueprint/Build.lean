import SchemaBlueprint.Blueprint.Basic

/-!
The steps by which a blueprint is put together: columns and commands are always added at the end.
-/

namespace SchemaBlueprint.Blueprint

set_option autoImplicit false

def addColumn (blueprint : Blueprint) (column : Column) : Blueprint :=
  { blueprint with columns := blueprint.columns ++ [column] }

def addColumns (blueprint : Blueprint) (columns : List Column) : Blueprint :=
  { blueprint with columns := blueprint.columns ++ columns }

def push (blueprint : Blueprint) (command : Command) : Blueprint :=
  { blueprint with commands := blueprint.commands ++ [command] }

def addPrimary (blueprint : Blueprint) (columns : List String) : Blueprint :=
  blueprint.push (.primary (blueprint.namedIndex .primary columns))

def addUnique (blueprint : Blueprint) (columns : List String) : Blueprint :=
  blueprint.push (.unique (blueprint.namedIndex .unique columns))

def addIndex (blueprint : Blueprint) (columns : List String) : Blueprint :=
  blueprint.push (.index (blueprint.namedIndex .index columns))

/-- A foreign key with a generated name if it has none. -/
def namedForeign (blueprint : Blueprint) (key : ForeignKey) : ForeignKey :=
  if key.name.isEmpty then
    { key with name := blueprint.indexName IndexKind.foreign.word key.columns }
  else key

def addForeign (blueprint : Blueprint) (key : ForeignKey) : Blueprint :=
  blueprint.push (.foreign (blueprint.namedForeign key))

end SchemaBlueprint.Blueprint
