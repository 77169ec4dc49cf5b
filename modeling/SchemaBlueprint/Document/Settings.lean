import SchemaBlueprint.Document.Format
import SchemaBlueprint.Config.Basic

/-!
Settings in documents: which fields they have, which of these may be left out, and what they are
then.
-/

namespace SchemaBlueprint.Document

set_option autoImplicit false

variable {ν : Type}

def grammarFields (format : Format ν) : List (Field ν GrammarSettings) :=
  [.of "schema_prefix" format.text fun settings schemaPrefix => { settings with schemaPrefix },
   .of "table_prefix" format.text fun settings tablePrefix => { settings with tablePrefix },
   .of "length_in_char" format.bool fun settings lengthInChar => { settings with lengthInChar },
   .of "strict_mode" format.bool fun settings strictMode => { settings with strictMode }]

def grammarSettings (format : Format ν) (node : ν) : Read GrammarSettings := do
  readFields (grammarFields format) {} .ok (← format.fields node)

structure ConnectionDraft where
  database : Option String := none
  username : Option String := none
  /-- The settings but for the database and the user. -/
  rest : ConnectionSettings := {}

def connectionFields (format : Format ν) : List (Field ν ConnectionDraft) :=
  let rest {α : Type} (name : String) (read : ν → Read α)
      (put : ConnectionSettings → α → ConnectionSettings) :=
    Field.of name read fun (draft : ConnectionDraft) value =>
      { draft with rest := put draft.rest value }
  [rest "driver" format.text fun settings driver => { settings with driver },
   rest "tns" format.text fun settings tns => { settings with tns },
   rest "host" format.text fun settings host => { settings with host },
   rest "port" format.word16 fun settings port => { settings with port },
   .of "database" format.text fun draft database => { draft with database := some database },
   .of "username" format.text fun draft username => { draft with username := some username },
   rest "password" format.text fun settings password => { settings with password },
   rest "charset" format.text fun settings charset => { settings with charset },
   rest "odbc_driver" format.text fun settings odbcDriver => { settings with odbcDriver }]

def ConnectionDraft.complete (draft : ConnectionDraft) : Read ConnectionSettings := do
  let database ← require "database" draft.database
  let username ← require "username" draft.username
  return { draft.rest with database, username }

def connectionSettings (format : Format ν) (node : ν) : Read ConnectionSettings := do
  readFields (connectionFields format) {} ConnectionDraft.complete (← format.fields node)

structure ConfigDraft where
  connection : Option ConnectionSettings := none
  grammar : GrammarSettings := {}

def configFields (format : Format ν) : List (Field ν ConfigDraft) :=
  [.of "connection" (connectionSettings format) fun draft connection =>
    { draft with connection := some connection },
   .of "grammar" (grammarSettings format) fun draft grammar => { draft with grammar }]

def ConfigDraft.complete (draft : ConfigDraft) : Read Config := do
  return { connection := ← require "connection" draft.connection, grammar := draft.grammar }

def config (format : Format ν) (node : ν) : Read Config := do
  readFields (configFields format) {} ConfigDraft.complete (← format.fields node)

end SchemaBlueprint.Document
