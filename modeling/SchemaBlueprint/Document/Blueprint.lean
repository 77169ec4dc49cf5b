import SchemaBlueprint.Document.Format
import SchemaBlueprint.Blueprint.Basic
import SchemaBlueprint.Decimal.Read

/-!
Blueprints in documents: which fields their parts have, which of these may be left out, and what they
are then.
-/

namespace SchemaBlueprint.Document

set_option autoImplicit false

variable {ν : Type}

/-- A value as the fields of a record: an object by its keys, a list in order. -/
def datumFields : Datum → Read (Fields Datum)
  | .object entries => .ok (.keyed entries)
  | .list items => .ok (.positional items)
  | _ => .error .misshapen

/-- Values as documents. Only null is absent, and every value has just its own type. -/
def datum : Format Datum where
  isNull
    | .null => true
    | _ => false
  text
    | .text value => .ok value
    | _ => .error .misshapen
  bool
    | .bool value => .ok value
    | _ => .error .misshapen
  natural greatest
    | .int value =>
        if 0 ≤ value && value ≤ (greatest : Int) then .ok value.toNat else .error .misshapen
    | _ => .error .misshapen
  items
    | .list items => .ok items
    | _ => .error .misshapen
  fields := datumFields
  value _ value := .ok value

def expressionFields : List (Field Datum (Option String)) :=
  [.of "expression" datum.text fun _ sql => some sql]

/-- A default: a boolean, a number, a text or an object with an expression. A whole number beyond 64
bits becomes a floating-point number. -/
def defaultValue : Datum → Read DefaultValue
  | .bool value => .ok (.bool value)
  | .int value =>
      if Decimal.leastInt64 ≤ value && value ≤ Decimal.greatestInt64 then
        .ok (.int (Int64.ofInt value))
      else .ok (.float (Decimal.nearestFloat (value < 0) value.natAbs 0))
  | .float value => .ok (.float value)
  | .text value => .ok (.text value)
  | .object entries =>
      match readFields expressionFields none (require "expression") (.keyed entries) with
      | .ok sql => .ok (.expression sql)
      | .error _ => .error .misshapen
  | _ => .error .misshapen

def columnType (format : Format ν) (node : ν) : Read ColumnType := do
  let name ← format.text node
  match ColumnType.ofName? name with
  | some type => .ok type
  | none => .error (.unsupportedType name)

structure ColumnDraft where
  name : Option String := none
  type : Option ColumnType := none
  /-- The column but for its name and type. -/
  rest : Column := { name := "", type := .integer }

def columnFields (format : Format ν) : List (Field ν ColumnDraft) :=
  let rest {α : Type} (name : String) (read : ν → Read α) (put : Column → α → Column) :=
    Field.of name read fun draft value => { draft with rest := put draft.rest value }
  [.of "name" format.text fun draft name => { draft with name := some name },
   .of "type" (columnType format) fun draft type => { draft with type := some type },
   rest "length" (format.optional format.word32) fun column length => { column with length },
   rest "total" (format.optional format.word32) fun column total => { column with total },
   rest "places" (format.optional format.word32) fun column places => { column with places },
   rest "nullable" format.bool fun column nullable => { column with nullable },
   rest "autoIncrement" format.bool fun column autoIncrement => { column with autoIncrement },
   rest "default" (format.optional fun node => format.value 3 node >>= defaultValue)
    fun column defaultValue => { column with defaultValue },
   rest "allowed" format.texts fun column allowed => { column with allowed },
   rest "primary" format.bool fun column primary => { column with primary },
   rest "unique" format.bool fun column unique => { column with unique },
   rest "index" format.bool fun column index => { column with index },
   rest "change" format.bool fun column change => { column with change }]

def ColumnDraft.complete (draft : ColumnDraft) : Read Column := do
  let name ← require "name" draft.name
  let type ← require "type" draft.type
  return { draft.rest with name, type }

def column (format : Format ν) (node : ν) : Read Column := do
  readFields (columnFields format) {} ColumnDraft.complete (← format.fields node)

structure IndexDraft where
  name : String := ""
  columns : Option (List String) := none
  implied : Bool := false

def indexFields : List (Field Datum IndexDraft) :=
  [.of "index" datum.text fun draft name => { draft with name },
   .of "columns" datum.texts fun draft columns => { draft with columns := some columns },
   .of "implied" datum.bool fun draft implied => { draft with implied }]

def IndexDraft.complete (draft : IndexDraft) : Read IndexSpec := do
  let columns ← require "columns" draft.columns
  return { name := draft.name, columns, implied := draft.implied }

structure ForeignDraft where
  name : String := ""
  columns : Option (List String) := none
  table : Option String := none
  references : Option (List String) := none
  onDelete : Option String := none

def foreignFields : List (Field Datum ForeignDraft) :=
  [.of "index" datum.text fun draft name => { draft with name },
   .of "columns" datum.texts fun draft columns => { draft with columns := some columns },
   .of "on" datum.text fun draft table => { draft with table := some table },
   .of "references" datum.texts fun draft references => { draft with references := some references },
   .of "onDelete" (datum.optional datum.text) fun draft onDelete => { draft with onDelete }]

def ForeignDraft.complete (draft : ForeignDraft) : Read ForeignKey := do
  let columns ← require "columns" draft.columns
  let table ← require "on" draft.table
  let references ← require "references" draft.references
  return { name := draft.name, columns, table, references, onDelete := draft.onDelete }

def readSole {α : Type} (name : String) (read : Datum → Read α) (fields : Fields Datum) : Read α :=
  readFields [.of name read fun (_ : Option α) value => some value] none (require name) fields

def readPair {α β : Type} (first : String) (readFirst : Datum → Read α) (second : String)
    (readSecond : Datum → Read β) (fields : Fields Datum) : Read (α × β) :=
  readFields
    [.of first readFirst fun (draft : Option α × Option β) value => (some value, draft.2),
     .of second readSecond fun draft value => (draft.1, some value)]
    (none, none)
    (fun draft => do
      let firstValue ← require first draft.1
      let secondValue ← require second draft.2
      return (firstValue, secondValue))
    fields

/-- A command without fields. Entries beside its name are passed over, values behind it are not. -/
def readBare (command : Command) : Fields Datum → Read Command
  | .keyed _ => .ok command
  | .positional [] => .ok command
  | .positional _ => .error .misshapen

def commandFrom (name : String) (fields : Fields Datum) : Read Command :=
  let index := readFields indexFields {} IndexDraft.complete fields
  match name with
  | "create" => readBare .create fields
  | "add" => .add <$> readSole "columns" datum.texts fields
  | "change" => .change <$> readSole "columns" datum.texts fields
  | "primary" => .primary <$> index
  | "foreign" => .foreign <$> readFields foreignFields {} ForeignDraft.complete fields
  | "unique" => .unique <$> index
  | "index" => .index <$> index
  | "drop" => readBare .drop fields
  | "dropIfExists" => readBare .dropIfExists fields
  | "dropAllTables" => readBare .dropAllTables fields
  | "dropColumn" => .dropColumn <$> readSole "columns" datum.texts fields
  | "dropPrimary" => .dropPrimary <$> readSole "index" datum.text fields
  | "dropUnique" => .dropUnique <$> readSole "index" datum.text fields
  | "dropIndex" => .dropIndex <$> readSole "index" datum.text fields
  | "dropForeign" => .dropForeign <$> readSole "index" datum.text fields
  | "rename" => .rename <$> readSole "to" datum.text fields
  | "renameColumn" =>
      (fun names => .renameColumn names.1 names.2) <$> readPair "from" datum.text "to" datum.text fields
  | "tableComment" => .tableComment <$> readSole "comment" datum.text fields
  | "updateEnum" =>
      (fun parts => .updateEnum parts.1 parts.2) <$>
        readPair "column" datum.text "allowed" datum.texts fields
  | "tableExists" => readBare .tableExists fields
  | "columnExists" => .columnExists <$> readSole "database" datum.text fields
  | _ => .error .misshapen

/-- A command: an object with its name among its fields, or a list that begins with its name. -/
def commandOfDatum : Datum → Read Command
  | .object entries =>
      let (names, fields) := entries.partition (·.1 == Key.name "name")
      match names with
      | [] => .error (.missingField "name")
      | [(_, .text name)] => commandFrom name (.keyed fields)
      | _ => .error .misshapen
  | .list [] => .error (.missingField "name")
  | .list (.text name :: values) => commandFrom name (.positional values)
  | _ => .error .misshapen

/-- A command. Its parts have the types that their own spelling gives them. -/
def command (format : Format ν) (node : ν) : Read Command := format.value 2 node >>= commandOfDatum

structure BlueprintDraft where
  table : Option String := none
  rest : Blueprint := { table := "" }

def blueprintFields (format : Format ν) : List (Field ν BlueprintDraft) :=
  let rest {α : Type} (name : String) (read : ν → Read α) (put : Blueprint → α → Blueprint) :=
    Field.of name read fun draft value => { draft with rest := put draft.rest value }
  [.of "table" format.text fun draft table => { draft with table := some table },
   rest "prefix" format.text fun blueprint tablePrefix => { blueprint with tablePrefix },
   rest "columns" (fun node => do (← format.items node).mapM (column format))
    fun blueprint columns => { blueprint with columns },
   rest "commands" (fun node => do (← format.items node).mapM (command format))
    fun blueprint commands => { blueprint with commands }]

def BlueprintDraft.complete (draft : BlueprintDraft) : Read Blueprint := do
  return { draft.rest with table := ← require "table" draft.table }

def blueprint (format : Format ν) (node : ν) : Read Blueprint := do
  readFields (blueprintFields format) {} BlueprintDraft.complete (← format.fields node)

end SchemaBlueprint.Document
