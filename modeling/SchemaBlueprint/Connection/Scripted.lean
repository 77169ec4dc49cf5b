import SchemaBlueprint.Connection.Basic
import SchemaBlueprint.Text.Segment

/-!
A connection that plays out a script: it records what is asked of it, answers queries from prepared
rows and can reject statements. With it, work on a database is rehearsed without one.
-/

namespace SchemaBlueprint

set_option autoImplicit false

/-- A rehearsal: the answers still to be given, and what has been asked so far. -/
structure Rehearsal where
  answers : List (List Catalog.Row) := []
  executed : List String := []
  queries : List (String × List String) := []

/-- The texts that make a statement be rejected, and the message with which it is. -/
structure Rejection where
  fragment : String
  message : String

def Rejection.applies (rejection : Rejection) (sql : String) : Bool :=
  Text.isWithin rejection.fragment.toList sql.toList

def rejected? (rejection : Option Rejection) (sql : String) : Option SchemaError :=
  match rejection with
  | some rejection => if rejection.applies sql then some (.database rejection.message sql) else none
  | none => none

/-- A connection that rehearses. A rejected statement is not recorded, and a query beyond the
prepared answers finds no rows. -/
def scriptedConnection (rejection : Option Rejection) : Connection Rehearsal where
  execute sql :=
    match rejected? rejection sql with
    | some error => throw error
    | none => modify fun state => { state with executed := state.executed ++ [sql] }
  select sql parameters :=
    match rejected? rejection sql with
    | some error => throw error
    | none => do
        let state ← get
        set { state with
          answers := state.answers.tail
          queries := state.queries ++ [(sql, parameters)] }
        return state.answers.headD []

end SchemaBlueprint
