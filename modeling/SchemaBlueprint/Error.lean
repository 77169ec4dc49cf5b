import SchemaBlueprint.Text.Quoted
import SchemaBlueprint.Decimal.Layout

/-!
What can go wrong, as causes. The wording of every message, the chain of causes shown for it and the
exit status of the command line are functions of the cause, all in this module.
-/

namespace SchemaBlueprint

set_option autoImplicit false

inductive IdentifierFault where
  | empty
  | nullCharacter (name : String)
  | tooLong (name : String)
  deriving DecidableEq, Repr

/-- The greatest length of an identifier, in bytes of its UTF-8 form. -/
def greatestIdentifierSize : Nat := 128

def IdentifierFault.message : IdentifierFault → String
  | .empty => "Identifier cannot be empty"
  | .nullCharacter name =>
      "SECURITY: Identifier contains null byte (possible injection attempt): " ++ Text.quoted name
  | .tooLong name =>
      "SECURITY: Identifier exceeds maximum length of " ++ Decimal.natText greatestIdentifierSize
        ++ " bytes (got " ++ Decimal.natText name.utf8ByteSize ++ " bytes): " ++ Text.quoted name

inductive ConfigFault where
  /-- A refusal in words of the caller's own. -/
  | stated (text : String)
  | identifier (fault : IdentifierFault)
  | primaryKeys (table : String) (count : Nat)
  | port (text : String)
  | flag (key : String) (text : String)
  | driver (name : String)
  | serverMissing
  | fieldMissing (field : String)
  | portZero
  | settingName (field : String) (fault : IdentifierFault)
  | unreachable (server : String)
  | verbosity (word : String)
  | logFormat (word : String)
  deriving DecidableEq, Repr

def configurationLabel : String := "Configuration error: "

def ConfigFault.message : ConfigFault → String
  | .stated text => text
  | .identifier fault => fault.message
  | .primaryKeys table count =>
      "table " ++ table ++ " declares " ++ Decimal.natText count ++ " primary keys"
  | .port text => "DB_PORT is not a valid port: " ++ Text.quoted text
  | .flag key text => key ++ " must be a boolean, got " ++ Text.quoted text
  | .driver name => "connection.driver must be 'dm', got '" ++ name ++ "'"
  | .serverMissing => "connection.host or connection.tns is required"
  | .fieldMissing field => "connection." ++ field ++ " is required"
  | .portZero => "connection.port must be non-zero"
  | .settingName field fault =>
      "grammar." ++ field ++ ": " ++ configurationLabel ++ fault.message
  | .unreachable server =>
      "cannot connect to " ++ server ++ ": built without the `odbc` feature"
  | .verbosity word => "unknown verbosity: " ++ word
  | .logFormat word => "unknown log format: " ++ word

inductive DecodeFault where
  | missingField (name : String)
  | unsupportedType (name : String)
  /-- A value has another shape than its place asks for. -/
  | misshapen
  deriving DecidableEq, Repr

def unsupportedTypeMessage (name : String) : String := "Unsupported column type: " ++ name

def DecodeFault.message : DecodeFault → String
  | .missingField name => "missing field `" ++ name ++ "`"
  | .unsupportedType name => unsupportedTypeMessage name
  | .misshapen => "a value has the wrong shape"

/-- Why a YAML document is refused: its text is not one well-formed document, or the document does
not describe what it should. -/
inductive YamlFault where
  | malformed
  | decoding (fault : DecodeFault)
  deriving DecidableEq, Repr

def YamlFault.message : YamlFault → String
  | .malformed => "not a well-formed document"
  | .decoding fault => fault.message

inductive SchemaError where
  | config (fault : ConfigFault)
  | unknownColumn (table column : String)
  | invalidColumn (column message : String)
  | unsupportedType (name : String)
  | database (message sql : String)
  | io (message : String)
  | yaml (fault : YamlFault)
  | json (fault : DecodeFault)
  deriving DecidableEq, Repr

namespace SchemaError

def message : SchemaError → String
  | .config fault => configurationLabel ++ fault.message
  | .unknownColumn table column => "Unknown column '" ++ column ++ "' on table " ++ table
  | .invalidColumn column message => "Invalid column '" ++ column ++ "': " ++ message
  | .unsupportedType name => unsupportedTypeMessage name
  | .database message sql => "Database error: " ++ message ++ "\n  SQL: " ++ sql
  | .io message => "IO error: " ++ message
  | .yaml fault => "YAML error: " ++ fault.message
  | .json fault => "JSON error: " ++ fault.message

/-- The messages of what lies behind an error, nearest first. Only errors passed on from reading a
file or a document have something behind them. -/
def causes : SchemaError → List String
  | .io message => [message]
  | .yaml fault => [fault.message]
  | .json fault => [fault.message]
  | _ => []

def exitCode : SchemaError → Nat
  | .database _ _ => 2
  | .io _ => 3
  | _ => 1

/-- The message with its chain of causes, numbered from one. -/
def detailed (error : SchemaError) : String :=
  let causeLines := error.causes.zipIdx 1 |>.map fun (cause, depth) =>
    "\nCaused by:\n  " ++ Decimal.natText depth ++ ": " ++ cause
  "Error: " ++ error.message ++ "\n" ++ String.join causeLines

end SchemaError

end SchemaBlueprint
