/-!
What can be done to a table, one command at a time.
-/

namespace SchemaBlueprint

set_option autoImplicit false

inductive IndexKind where
  | primary
  | unique
  | index
  | foreign
  deriving DecidableEq, Repr

/-- The word for a kind, with which generated names end. -/
def IndexKind.word : IndexKind → String
  | .primary => "primary"
  | .unique => "unique"
  | .index => "index"
  | .foreign => "foreign"

structure IndexSpec where
  /-- A name is generated for an empty one. -/
  name : String := ""
  columns : List String
  /-- The key was registered for a counting column and not asked for. -/
  implied : Bool := false
  deriving DecidableEq, Repr

structure ForeignKey where
  name : String := ""
  columns : List String
  table : String := ""
  references : List String := []
  /-- What happens here when the row referred to is deleted. -/
  onDelete : Option String := none
  deriving DecidableEq, Repr

inductive Command where
  | create
  | add (columns : List String)
  | change (columns : List String)
  | primary (key : IndexSpec)
  | foreign (key : ForeignKey)
  | unique (index : IndexSpec)
  | index (index : IndexSpec)
  | drop
  | dropIfExists
  | dropAllTables
  | dropColumn (columns : List String)
  | dropPrimary (name : String)
  | dropUnique (name : String)
  | dropIndex (name : String)
  | dropForeign (name : String)
  | rename (target : String)
  | renameColumn (source target : String)
  | tableComment (comment : String)
  | updateEnum (column : String) (allowed : List String)
  | tableExists
  | columnExists (database : String)
  deriving DecidableEq, Repr

namespace Command

def name : Command → String
  | .create => "create"
  | .add _ => "add"
  | .change _ => "change"
  | .primary _ => "primary"
  | .foreign _ => "foreign"
  | .unique _ => "unique"
  | .index _ => "index"
  | .drop => "drop"
  | .dropIfExists => "dropIfExists"
  | .dropAllTables => "dropAllTables"
  | .dropColumn _ => "dropColumn"
  | .dropPrimary _ => "dropPrimary"
  | .dropUnique _ => "dropUnique"
  | .dropIndex _ => "dropIndex"
  | .dropForeign _ => "dropForeign"
  | .rename _ => "rename"
  | .renameColumn _ _ => "renameColumn"
  | .tableComment _ => "tableComment"
  | .updateEnum _ _ => "updateEnum"
  | .tableExists => "tableExists"
  | .columnExists _ => "columnExists"

def isCreate : Command → Bool
  | .create => true
  | _ => false

def isAdd : Command → Bool
  | .add _ => true
  | _ => false

def isChange : Command → Bool
  | .change _ => true
  | _ => false

def primary? : Command → Option IndexSpec
  | .primary key => some key
  | _ => none

def foreign? : Command → Option ForeignKey
  | .foreign key => some key
  | _ => none

def addedNames : Command → List String
  | .add columns => columns
  | _ => []

def changedNames : Command → List String
  | .change columns => columns
  | _ => []

end Command

end SchemaBlueprint
