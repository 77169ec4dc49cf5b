import SchemaBlueprint.CommandLine.Arguments
import SchemaBlueprint.Config.Environment
import SchemaBlueprint.Config.File
import SchemaBlueprint.Grammar.Statement
import SchemaBlueprint.Json.Printer

/-!
What the program does with its arguments: a blueprint file is compiled, or a catalog is to be read.
The files and the environment are asked for in the order in which they are needed.
-/

namespace SchemaBlueprint.CommandLine

set_option autoImplicit false

structure Surroundings (m : Type → Type) where
  fileText : String → m (Except SchemaError String)
  environment : String → m (Option String)

def variableNames : List String :=
  ["DB_TNS", "DB_HOST", "DB_PORT", "DB_DATABASE", "DB_USERNAME", "DB_PASSWORD", "DB_CHARSET",
   "DB_ODBC_DRIVER", "DB_PREFIX", "DB_SCHEMA_PREFIX", "DB_LENGTH_IN_CHAR", "DB_STRICT_MODE"]

inductive Outcome where
  | help
  | version
  | refused
  | finished (output : String)
  | failed (error : SchemaError)

def Outcome.status : Outcome → Nat
  | .help => 0
  | .version => 0
  | .refused => 2
  | .finished _ => 0
  | .failed error => error.exitCode

def Outcome.complaint : Outcome → String
  | .failed error => error.detailed ++ "\n"
  | _ => ""

def versionText : String := "dm8-schema 0.1.0\n"

def verbosities : List String := ["debug", "info", "warn", "error"]

def logFormats : List String := ["json", "text"]

def checkLog (invocation : Invocation) : Except SchemaError Unit :=
  let verbosity := Text.lower ((invocation.value? "verbosity").getD "warn")
  let logFormat := (invocation.value? "log-format").getD "text"
  if !verbosities.contains verbosity then .error (.config (.verbosity verbosity))
  else if !logFormats.contains logFormat then .error (.config (.logFormat logFormat))
  else .ok ()

def adjustSettings (invocation : Invocation) (settings : GrammarSettings) : GrammarSettings where
  schemaPrefix := (invocation.value? "schema-prefix").getD settings.schemaPrefix
  tablePrefix := (invocation.value? "table-prefix").getD settings.tablePrefix
  lengthInChar := match invocation.value? "length-in-char" with
    | some word => word == "true"
    | none => settings.lengthInChar
  strictMode := settings.strictMode || invocation.has "strict"

/-- A blueprint whose prefix is the one of the settings unless it has one of its own. -/
def inheritPrefix (settings : GrammarSettings) (blueprint : Blueprint) : Blueprint :=
  if blueprint.tablePrefix.isEmpty then { blueprint with tablePrefix := settings.tablePrefix }
  else blueprint

def statementText (asJson : Bool) (statements : List String) : String :=
  if asJson then Json.render (Json.texts statements) ++ "\n"
  else String.join (statements.map (· ++ ";\n"))

def compileText (invocation : Invocation) (settings : GrammarSettings) (text : String) :
    Except SchemaError String := do
  let settings := adjustSettings invocation settings
  let blueprint ← Blueprint.ofFile text
  let grammar : Grammar := { settings }
  let statements ← (grammar.toSql (inheritPrefix settings blueprint)).2
  return statementText (invocation.has "output-json") statements

section

variable {m : Type → Type} [Monad m]

def loadConfig (world : Surroundings m) (path : String) : ExceptT SchemaError m Config := do
  liftM (Config.ofFile (← ExceptT.mk (world.fileText path)))

def environmentConfig (world : Surroundings m) : ExceptT SchemaError m Config := do
  let values ← (variableNames.mapM fun name => do
    return (name, ← world.environment name) : m (List (String × Option String)))
  liftM (Config.ofLookup fun name => (values.lookup name).join)

def baseSettings (world : Surroundings m) (invocation : Invocation) :
    ExceptT SchemaError m GrammarSettings :=
  match invocation.value? "config" with
  | some path => Config.grammar <$> loadConfig world path
  | none => pure {}

def runCompile (world : Surroundings m) (invocation : Invocation) (path : String) :
    ExceptT SchemaError m String := do
  let settings ← baseSettings world invocation
  let text ← ExceptT.mk (world.fileText path)
  liftM (compileText invocation settings text)

def runCatalog (world : Surroundings m) (invocation : Invocation) :
    ExceptT SchemaError m String := do
  let config ← match invocation.value? "config" with
    | some path => loadConfig world path
    | none => environmentConfig world
  liftM config.connection.connect

def runInvocation (world : Surroundings m) (invocation : Invocation) :
    ExceptT SchemaError m String := do
  liftM (checkLog invocation)
  match invocation.command with
  | .compile => runCompile world invocation ((invocation.value? "blueprint").getD "")
  | _ => runCatalog world invocation

def run (world : Surroundings m) (arguments : List String) : m Outcome :=
  match readArguments arguments with
  | .error .help => pure .help
  | .error .version => pure .version
  | .error .refused => pure .refused
  | .ok invocation => do
      match ← (runInvocation world invocation).run with
      | .ok output => return .finished output
      | .error error => return .failed error

end

end SchemaBlueprint.CommandLine
