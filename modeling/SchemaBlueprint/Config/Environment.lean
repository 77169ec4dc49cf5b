import SchemaBlueprint.Config.Validation
import SchemaBlueprint.Decimal.Read
import SchemaBlueprint.Text.Blank

/-!
The configuration from named texts, such as the environment of a process holds. What is not named
keeps its usual value.
-/

namespace SchemaBlueprint.Config

set_option autoImplicit false

/-- A truth value, in any case and with white space around it. -/
def flag? (text : String) : Option Bool :=
  let word := String.ofList (Text.lowerChars (Text.trimChars text.toList))
  if ["true", "yes", "1", "on"].contains word then some true
  else if ["false", "no", "0", "off", ""].contains word then some false
  else none

def port? (text : String) : Option UInt16 :=
  (Decimal.readNat? 0xFFFF (Text.trimChars text.toList)).map UInt16.ofNat

def readFlag (lookup : String → Option String) (key : String) (usual : Bool) :
    Except SchemaError Bool :=
  match lookup key with
  | none => .ok usual
  | some text =>
      match flag? text with
      | some value => .ok value
      | none => .error (.config (.flag key text))

def readPort (lookup : String → Option String) (usual : UInt16) : Except SchemaError UInt16 :=
  match lookup "DB_PORT" with
  | none => .ok usual
  | some text =>
      match port? text with
      | some port => .ok port
      | none => .error (.config (.port text))

/-- The configuration that named texts describe, before it is validated. Texts that cannot be read
are reported in the order of the settings. -/
def readLookup (lookup : String → Option String) : Except SchemaError Config := do
  let usual : ConnectionSettings := {}
  let usualGrammar : GrammarSettings := {}
  let port ← readPort lookup usual.port
  let lengthInChar ← readFlag lookup "DB_LENGTH_IN_CHAR" usualGrammar.lengthInChar
  let strictMode ← readFlag lookup "DB_STRICT_MODE" usualGrammar.strictMode
  return {
    connection := {
      driver := usual.driver
      tns := (lookup "DB_TNS").getD usual.tns
      host := (lookup "DB_HOST").getD usual.host
      port
      database := (lookup "DB_DATABASE").getD usual.database
      username := (lookup "DB_USERNAME").getD usual.username
      password := (lookup "DB_PASSWORD").getD usual.password
      charset := (lookup "DB_CHARSET").getD usual.charset
      odbcDriver := (lookup "DB_ODBC_DRIVER").getD usual.odbcDriver }
    grammar := {
      schemaPrefix := (lookup "DB_SCHEMA_PREFIX").getD usualGrammar.schemaPrefix
      tablePrefix := (lookup "DB_PREFIX").getD usualGrammar.tablePrefix
      lengthInChar
      strictMode } }

def ofLookup (lookup : String → Option String) : Except SchemaError Config := do
  (← readLookup lookup).validate

end SchemaBlueprint.Config
