import SchemaBlueprint.Catalog.Row
import SchemaBlueprint.Error

/-!
Connections to a database, as far as this library needs them: statements are executed, and queries
with parameters return rows. What a connection does to the world is a state of its own.
-/

namespace SchemaBlueprint

set_option autoImplicit false

/-- Work on a connection whose state is `σ`. It may fail, and then keeps what it did before. -/
abbrev Session (σ α : Type) := ExceptT SchemaError (StateM σ) α

structure Connection (σ : Type) where
  execute : String → Session σ Unit
  /-- Runs a query with a value for each of its question marks. -/
  select : String → List String → Session σ (List Catalog.Row)

/-- Runs statements in order, up to the first that is rejected. -/
def Connection.executeAll {σ : Type} (connection : Connection σ) : List String → Session σ Unit
  | [] => pure ()
  | statement :: rest => do
      connection.execute statement
      connection.executeAll rest

end SchemaBlueprint
