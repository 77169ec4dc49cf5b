import SchemaBlueprint.CommandLine.Run

/-!
The program: the command line with the files and the environment of the process around it.
-/

namespace SchemaBlueprint.CommandLine

set_option autoImplicit false

def helpText : String :=
  "\n".intercalate
    ["Schema grammar and catalog introspection for DM8", "",
     "Usage: dm8-schema [OPTIONS] <COMMAND>", "",
     "Commands:",
     "  compile  Compile a YAML or JSON blueprint into DDL statements",
     "  columns  List the columns of a table",
     "  indexes  List the indexes of a table",
     "  tables   List the tables of the configured owner",
     "  help     Print this message", "",
     "Options:",
     "  -c, --config <CONFIG>          Path to YAML configuration file",
     "      --output-json              Output JSON result to stdout",
     "      --log-format <LOG_FORMAT>  Log format: text or json",
     "      --verbosity <VERBOSITY>    Log verbosity: debug, info, warn, error",
     "  -h, --help                     Print help",
     "  -V, --version                  Print version", ""]

/-- The name and number that the system gives to a fault, if it is one of the system's. -/
def systemFault? : IO.Error → Option (String × UInt32)
  | .noFileOrDirectory _ number details => some (details, number)
  | .permissionDenied _ number details => some (details, number)
  | .inappropriateType _ number details => some (details, number)
  | .invalidArgument _ number details => some (details, number)
  | .resourceExhausted _ number details => some (details, number)
  | .hardwareFault number details => some (details, number)
  | .noSuchThing _ number details => some (details, number)
  | .unsupportedOperation number details => some (details, number)
  | .otherError number details => some (details, number)
  | _ => none

def fileError (error : IO.Error) : SchemaError :=
  match systemFault? error with
  | some (details, number) =>
      .io (details ++ " (os error " ++ Decimal.natText number.toNat ++ ")")
  | none => .io "stream did not contain valid UTF-8"

def processSurroundings : Surroundings IO where
  fileText path := do
    try
      return .ok (← IO.FS.readFile path)
    catch error =>
      return .error (fileError error)
  environment name := IO.getEnv name

end SchemaBlueprint.CommandLine

open SchemaBlueprint.CommandLine in
def main (arguments : List String) : IO UInt32 := do
  let outcome ← run processSurroundings arguments
  match outcome with
  | .help => IO.print helpText
  | .version => IO.print versionText
  | .refused => IO.eprintln "The arguments were not understood. Try --help."
  | .finished output => IO.print output
  | .failed _ => IO.eprint outcome.complaint
  return UInt32.ofNat outcome.status
