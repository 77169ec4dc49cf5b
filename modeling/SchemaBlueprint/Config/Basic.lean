import SchemaBlueprint.Grammar.Basic
import SchemaBlueprint.Json.Basic

/-!
The configuration: where the server is, who connects to it, and how statements are written for it.
-/

namespace SchemaBlueprint

set_option autoImplicit false

structure ConnectionSettings where
  /-- The kind of server; there is only one. -/
  driver : String := "dm"
  /-- A connect descriptor, which takes the place of host and port. -/
  tns : String := ""
  host : String := ""
  port : UInt16 := 5237
  database : String := ""
  username : String := ""
  password : String := ""
  charset : String := "UTF8"
  odbcDriver : String := "DM8 ODBC DRIVER"
  deriving DecidableEq, Repr

structure Config where
  connection : ConnectionSettings
  grammar : GrammarSettings := {}
  deriving DecidableEq, Repr

namespace ConnectionSettings

def server (settings : ConnectionSettings) : String :=
  if settings.tns.isEmpty then settings.host else settings.tns

def serverAttributes (settings : ConnectionSettings) : String :=
  if settings.tns.isEmpty then
    "Server=" ++ settings.host ++ ";TCP_Port=" ++ Decimal.natText settings.port.toNat ++ ";"
  else "Server=" ++ settings.tns ++ ";"

/-- The settings as a connection string, a sequence of attributes. Values stand as they are. -/
def connectionString (settings : ConnectionSettings) : String :=
  "Driver=\x7b" ++ settings.odbcDriver ++ "\x7d;" ++ settings.serverAttributes
    ++ "UID=" ++ settings.username ++ ";PWD=" ++ settings.password
    ++ ";CHARSET=" ++ settings.charset ++ ";"

/-- The settings as an object, without the password. -/
def encode (settings : ConnectionSettings) : Json :=
  .object
    [("driver", .text settings.driver), ("tns", .text settings.tns), ("host", .text settings.host),
     ("port", .int (settings.port.toNat : Int)), ("database", .text settings.database),
     ("username", .text settings.username), ("charset", .text settings.charset),
     ("odbc_driver", .text settings.odbcDriver)]

/-- Opens a connection. No driver is built in, so there is nothing to reach a server with. -/
def connect {α : Type} (settings : ConnectionSettings) : Except SchemaError α :=
  .error (.config (.unreachable settings.server))

end ConnectionSettings

def GrammarSettings.encode (settings : GrammarSettings) : Json :=
  .object
    [("schema_prefix", .text settings.schemaPrefix), ("table_prefix", .text settings.tablePrefix),
     ("length_in_char", .bool settings.lengthInChar), ("strict_mode", .bool settings.strictMode)]

namespace Config

/-- The owner in the catalog: the schema if one is set, and else the database. -/
def owner (config : Config) : String :=
  if config.grammar.schemaPrefix.isEmpty then config.connection.database
  else config.grammar.schemaPrefix

def encode (config : Config) : Json :=
  .object [("connection", config.connection.encode), ("grammar", config.grammar.encode)]

end Config

end SchemaBlueprint
