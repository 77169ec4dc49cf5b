import SchemaBlueprint.Json.Basic

/-!
Values that bear their own type, as they stand where a document may hold values of several types. An
object may have keys that are no texts; a record recognises its fields by their names or by their
places.
-/

namespace SchemaBlueprint.Document

set_option autoImplicit false

inductive Key where
  | name (text : String)
  /-- A natural number, which is the place of a field in the order of their declaration. -/
  | place (index : Nat)
  | other
  deriving DecidableEq, Repr

/-- A value with the type that its own spelling gives it. -/
inductive Datum where
  | null
  | bool (value : Bool)
  | int (value : Int)
  | float (value : Float)
  | text (value : String)
  | list (items : List Datum)
  | object (entries : List (Key × Datum))

namespace Datum

mutual

def ofJson : Json → Datum
  | .null => .null
  | .bool value => .bool value
  | .int value => .int value
  | .float value => .float value
  | .text value => .text value
  | .list items => .list (ofItems items)
  | .object entries => .object (ofEntries entries)

def ofItems : List Json → List Datum
  | [] => []
  | item :: rest => ofJson item :: ofItems rest

def ofEntries : List (String × Json) → List (Key × Datum)
  | [] => []
  | (name, value) :: rest => (.name name, ofJson value) :: ofEntries rest

end

theorem ofItems_eq_map (items : List Json) : ofItems items = items.map ofJson := by
  induction items with
  | nil => rfl
  | cons item rest ih => simp [ofItems, ih]

theorem ofEntries_eq_map (entries : List (String × Json)) :
    ofEntries entries = entries.map fun entry => (.name entry.1, ofJson entry.2) := by
  induction entries with
  | nil => rfl
  | cons entry rest ih => simp [ofEntries, ih]

end Datum

end SchemaBlueprint.Document
