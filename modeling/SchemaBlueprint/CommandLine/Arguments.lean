/-!
The arguments of the command line. Options belong to the program or to one of its commands; those of
the program may also stand behind the command, where they take precedence. Arguments are read in
order, and the first that asks for help or cannot be understood decides.
-/

namespace SchemaBlueprint.CommandLine

set_option autoImplicit false

inductive OptionKind where
  | flag
  | text
  /-- The path of a file, which is not empty. -/
  | path
  | truth
  deriving DecidableEq

structure OptionSpec where
  name : String
  short : Option Char := none
  kind : OptionKind
  required : Bool := false

inductive CommandName where
  | compile
  | columns
  | indexes
  | tables
  deriving DecidableEq

def CommandName.word : CommandName → String
  | .compile => "compile"
  | .columns => "columns"
  | .indexes => "indexes"
  | .tables => "tables"

def CommandName.ofWord? (word : String) : Option CommandName :=
  [CommandName.compile, .columns, .indexes, .tables].find? fun name => name.word == word

def programOptions : List OptionSpec :=
  [{ name := "config", short := some 'c', kind := .path },
   { name := "output-json", kind := .flag },
   { name := "log-format", kind := .text },
   { name := "verbosity", kind := .text }]

def commandOptions : CommandName → List OptionSpec
  | .compile =>
      [{ name := "blueprint", short := some 'b', kind := .path, required := true },
       { name := "strict", kind := .flag },
       { name := "length-in-char", kind := .truth },
       { name := "schema-prefix", kind := .text },
       { name := "table-prefix", kind := .text }]
  | .columns | .indexes => [{ name := "table", short := some 't', kind := .text, required := true }]
  | .tables => []

inductive Halt where
  | help
  | version
  | refused
  deriving DecidableEq

/-- The options that have been given, with their values; a flag has an empty one. -/
abbrev Given := List (String × String)

inductive Argument where
  | long (name : String) (attached : Option String)
  | short (letter : Char) (attached : Option String)
  | separator
  | word (text : String)
  deriving DecidableEq

/-- Sorts out an argument. A single hyphen is a word. -/
def Argument.ofText (text : String) : Argument :=
  match text.toList with
  | ['-', '-'] => .separator
  | '-' :: '-' :: rest =>
      let name := String.ofList (rest.takeWhile (· ≠ '='))
      match rest.dropWhile (· ≠ '=') with
      | _ :: value => .long name (some (String.ofList value))
      | [] => .long name none
  | '-' :: letter :: rest =>
      match rest with
      | [] => .short letter none
      | '=' :: value => .short letter (some (String.ofList value))
      | value => .short letter (some (String.ofList value))
  | _ => .word text

def OptionKind.accepts : OptionKind → String → Bool
  | .flag, _ => false
  | .text, _ => true
  | .path, value => !value.isEmpty
  | .truth, value => value == "true" || value == "false"

/-- Notes an option with its value. An option may be given only once in one place. -/
def note (given : Given) (spec : OptionSpec) (value : String) : Except Halt Given :=
  if given.any (·.1 == spec.name) then .error .refused
  else if spec.kind == .flag || spec.kind.accepts value then .ok (given ++ [(spec.name, value)])
  else .error .refused

def identify (specs : List OptionSpec) (atTop : Bool) : Argument → Except Halt OptionSpec
  | .long name attached =>
      if name = "help" then .error (if attached.isNone then .help else .refused)
      else if name = "version" && atTop then
        .error (if attached.isNone then .version else .refused)
      else match specs.find? (·.name == name) with
        | some spec => .ok spec
        | none => .error .refused
  | .short letter _ =>
      if letter = 'h' then .error .help
      else if letter = 'V' && atTop then .error .version
      else match specs.find? (·.short == some letter) with
        | some spec => .ok spec
        | none => .error .refused
  | _ => .error .refused

def Argument.attached : Argument → Option String
  | .long _ attached => attached
  | .short _ attached => attached
  | _ => none

/-- A value in an argument of its own, of which is not yet known whether its option takes it. -/
abbrev Pending := Option (OptionSpec × String)

def settle (given : Given) : Pending → Except Halt Given
  | some (spec, value) => note given spec value
  | none => .ok given

structure Progress where
  given : Given
  pending : Pending
  rest : List String

/-- Reads options up to the first word, which is left with what follows it. The end of the options is
left out, but no word may follow it. A value in an argument of its own is looked at when the next
option comes. -/
def readOptions (specs : List OptionSpec) (atTop : Bool) (given : Given) (pending : Pending) :
    List String → Except Halt Progress
  | [] => .ok { given, pending, rest := [] }
  | text :: rest =>
      match Argument.ofText text with
      | .word _ => .ok { given, pending, rest := text :: rest }
      | .separator => if rest.isEmpty then .ok { given, pending, rest := [] } else .error .refused
      | argument =>
          match settle given pending with
          | .error halt => .error halt
          | .ok given =>
          match identify specs atTop argument with
          | .error halt => .error halt
          | .ok spec =>
              match spec.kind, argument.attached with
              | .flag, some _ => .error .refused
              | .flag, none =>
                  match note given spec "" with
                  | .error halt => .error halt
                  | .ok given => readOptions specs atTop given none rest
              | _, some value =>
                  match note given spec value with
                  | .error halt => .error halt
                  | .ok given => readOptions specs atTop given none rest
              | _, none =>
                  match rest with
                  | [] => .error .refused
                  | value :: rest =>
                      match Argument.ofText value with
                      | .word _ => readOptions specs atTop given (some (spec, value)) rest
                      | _ => .error .refused

structure Invocation where
  command : CommandName
  /-- The options given with the command, then those given before it. -/
  given : Given

def Invocation.value? (invocation : Invocation) (name : String) : Option String :=
  invocation.given.lookup name

def Invocation.has (invocation : Invocation) (name : String) : Bool :=
  (invocation.value? name).isSome

/-- The answer to a request for help, which may name commands. There are no commands below these. -/
def readHelp : List String → Halt
  | [] => .help
  | [word] => if word = "help" || (CommandName.ofWord? word).isSome then .help else .refused
  | _ => .refused

def readCommand (command : CommandName) (arguments : List String) : Except Halt Given := do
  let progress ← readOptions (programOptions ++ commandOptions command) false [] none arguments
  let given ← settle progress.given progress.pending
  let complete := (commandOptions command).all fun spec =>
    !spec.required || given.any (·.1 == spec.name)
  if progress.rest.isEmpty && complete then .ok given else .error .refused

/-- Reads all arguments. What is pending before a command is looked at behind its arguments. -/
def readArguments (arguments : List String) : Except Halt Invocation := do
  let progress ← readOptions programOptions true [] none arguments
  match progress.rest with
  | [] => .error .refused
  | word :: rest =>
      if word = "help" then .error (readHelp rest)
      else match CommandName.ofWord? word with
        | some command => do
            let given ← readCommand command rest
            let before ← settle progress.given progress.pending
            .ok { command, given := given ++ before }
        | none => .error .refused

end SchemaBlueprint.CommandLine
