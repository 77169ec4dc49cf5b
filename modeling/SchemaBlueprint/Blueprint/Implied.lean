import SchemaBlueprint.Blueprint.Build
import SchemaBlueprint.Error

/-!
The commands that the columns of a blueprint imply. They are registered among the other commands
before these become statements, and registering them again adds only what is missing.
-/

namespace SchemaBlueprint

set_option autoImplicit false

/-- The position just past the last item that satisfies `holds`, or the front if none does. -/
def afterLast {α : Type} (holds : α → Bool) : List α → Nat
  | [] => 0
  | item :: rest =>
      let position := afterLast holds rest
      if 0 < position then position + 1 else if holds item then 1 else 0

def insertAt {α : Type} (position : Nat) (item : α) (items : List α) : List α :=
  items.take position ++ item :: items.drop position

namespace Blueprint

/-- The names of the modified columns that no `change` command lists. -/
def unlistedChanges (blueprint : Blueprint) : List String :=
  let listed := blueprint.commands.flatMap Command.changedNames
  (blueprint.changedColumns.map (·.name)).filter fun name => !Text.listsName listed name

def unlistedAdditions (blueprint : Blueprint) : List String :=
  let listed := blueprint.commands.flatMap Command.addedNames
  (blueprint.addedColumns.map (·.name)).filter fun name => !Text.listsName listed name

/-- With a `change` command for the modified columns that none lists, behind the last one. -/
def withChange (blueprint : Blueprint) : Blueprint :=
  match blueprint.unlistedChanges with
  | [] => blueprint
  | names =>
      let position := afterLast Command.isChange blueprint.commands
      { blueprint with commands := insertAt position (.change names) blueprint.commands }

/-- With an `add` command for the added columns that none lists, behind the last `change` or
`add`. -/
def withAddition (blueprint : Blueprint) : Blueprint :=
  match blueprint.unlistedAdditions with
  | [] => blueprint
  | names =>
      let position := afterLast (fun command => command.isChange || command.isAdd) blueprint.commands
      { blueprint with commands := insertAt position (.add names) blueprint.commands }

/-- With the `change` and `add` commands that an existing table needs. A table that is being created
gets its columns from the `create` command. -/
def withAlterations (blueprint : Blueprint) : Blueprint :=
  if blueprint.creating then blueprint else blueprint.withChange.withAddition

def flaggedIndexes (blueprint : Blueprint) (column : Column) : List Command :=
  (if column.primary then [.primary (blueprint.namedIndex .primary [column.name])] else []) ++
  (if column.unique then [.unique (blueprint.namedIndex .unique [column.name])] else []) ++
  (if column.index then [.index (blueprint.namedIndex .index [column.name])] else [])

/-- Whether two commands are keys or indexes of one kind over the same columns. -/
def sameIndex : Command → Command → Bool
  | .primary left, .primary right => Text.sameNames left.columns right.columns
  | .unique left, .unique right => Text.sameNames left.columns right.columns
  | .index left, .index right => Text.sameNames left.columns right.columns
  | _, _ => false

def hasIndex (blueprint : Blueprint) (candidate : Command) : Bool :=
  blueprint.commands.any fun command => sameIndex command candidate

def withFlaggedIndexes (blueprint : Blueprint) : Blueprint :=
  let flagged := blueprint.columns.flatMap blueprint.flaggedIndexes
  { blueprint with
    commands := blueprint.commands ++ flagged.filter fun command => !blueprint.hasIndex command }

/-- With the first counting column as the primary key, if there is no other primary key. -/
def withImpliedPrimary (blueprint : Blueprint) : Blueprint :=
  match blueprint.primary? with
  | some _ => blueprint
  | none =>
      match blueprint.columns.find? Column.isCounter with
      | none => blueprint
      | some column =>
          let key := blueprint.namedIndex .primary [column.name]
          blueprint.push (.primary { key with implied := true })

def withImplied (blueprint : Blueprint) : Blueprint :=
  blueprint.withAlterations.withFlaggedIndexes.withImpliedPrimary

def filledIndex (blueprint : Blueprint) (kind : IndexKind) (index : IndexSpec) : IndexSpec :=
  if index.name.isEmpty then { index with name := blueprint.indexName kind.word index.columns }
  else index

def filledCommand (blueprint : Blueprint) : Command → Command
  | .primary key => .primary (blueprint.filledIndex .primary key)
  | .unique index => .unique (blueprint.filledIndex .unique index)
  | .index index => .index (blueprint.filledIndex .index index)
  | .foreign key => .foreign (blueprint.namedForeign key)
  | command => command

def withNames (blueprint : Blueprint) : Blueprint :=
  { blueprint with commands := blueprint.commands.map blueprint.filledCommand }

/-- Registers the implied commands. A table with several primary keys is refused, but keeps what was
registered before that came out. -/
def resolve (blueprint : Blueprint) : Blueprint × Except SchemaError Unit :=
  let registered := blueprint.withImplied
  if 1 < registered.primaryCount then
    (registered, .error (.config (.primaryKeys registered.table registered.primaryCount)))
  else (registered.withNames, .ok ())

end Blueprint

end SchemaBlueprint
