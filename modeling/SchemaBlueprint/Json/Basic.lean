/-!
JSON values. Whole numbers and floating-point numbers are told apart, as `1` and `1.0` are in a text.
-/

namespace SchemaBlueprint

set_option autoImplicit false

inductive Json where
  | null
  | bool (value : Bool)
  | int (value : Int)
  | float (value : Float)
  | text (value : String)
  | list (items : List Json)
  | object (entries : List (String × Json))

namespace Json

def texts (values : List String) : Json := .list (values.map .text)

/-- A floating-point number, or null for one that has no digits. -/
def ofFloat (value : Float) : Json := if value.isFinite then .float value else .null

def optional {α : Type} (key : String) (encode : α → Json) : Option α → List (String × Json)
  | some value => [(key, encode value)]
  | none => []

end Json

end SchemaBlueprint
