import SchemaBlueprint.Identifier

/-!
A grammar: the settings under which statements are written, and how names are written under them.
-/

namespace SchemaBlueprint

set_option autoImplicit false

structure GrammarSettings where
  schemaPrefix : String := ""
  tablePrefix : String := ""
  lengthInChar : Bool := true
  /-- Columns that may not be null get no default of their own. -/
  strictMode : Bool := false
  deriving DecidableEq, Repr

structure Grammar where
  settings : GrammarSettings := {}
  policy : Identifier.Policy := Identifier.Policy.server

namespace Grammar

def dialectName : String := "dm8"

def counterKeyword : String := "auto_increment"

def prefixedTable (grammar : Grammar) (table : String) : String :=
  grammar.settings.tablePrefix ++ table

def wrap (grammar : Grammar) (name : String) : String := grammar.policy.wrap name

def columnize (grammar : Grammar) (names : List String) : String := grammar.policy.columnize names

/-- A table as it is written: with its prefix, and qualified by the schema if there is one. The
schema itself stands as it was configured. -/
def wrapTable (grammar : Grammar) (table : String) : String :=
  let wrapped := grammar.wrap (grammar.prefixedTable table)
  if grammar.settings.schemaPrefix.isEmpty then wrapped
  else grammar.settings.schemaPrefix ++ "." ++ wrapped

end Grammar

end SchemaBlueprint
