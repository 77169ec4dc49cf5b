import SchemaBlueprint.Config.Basic

/-!
Which configurations are accepted. Of several faults the first in a fixed order is reported.
-/

namespace SchemaBlueprint.Config

set_option autoImplicit false

/-- The fault of a setting that goes into names, if it is set and cannot be an identifier. -/
def settingFault? (field value : String) : Option ConfigFault :=
  if value.isEmpty then none
  else (Identifier.fault? value).map (.settingName field)

def connectionFault? (settings : ConnectionSettings) : Option ConfigFault :=
  if settings.driver ≠ "dm" then some (.driver settings.driver)
  else if settings.host.isEmpty && settings.tns.isEmpty then some .serverMissing
  else if settings.database.isEmpty then some (.fieldMissing "database")
  else if settings.username.isEmpty then some (.fieldMissing "username")
  else if settings.port = 0 then some .portZero
  else none

/-- The first fault of a configuration: of its connection, then of the schema, then of the table
prefix. -/
def fault? (config : Config) : Option ConfigFault :=
  (connectionFault? config.connection).or
    ((settingFault? "schema_prefix" config.grammar.schemaPrefix).or
      (settingFault? "table_prefix" config.grammar.tablePrefix))

def validate (config : Config) : Except SchemaError Config :=
  match config.fault? with
  | some fault => .error (.config fault)
  | none => .ok config

end SchemaBlueprint.Config
