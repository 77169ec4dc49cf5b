import SchemaBlueprint.Catalog.Value
import SchemaBlueprint.Text.Case

/-!
Rows of a catalog. Columns are known by their upper-case names, since drivers differ in the case in
which they report them, and the last value given for a column counts.
-/

namespace SchemaBlueprint.Catalog

set_option autoImplicit false

/-- A row: its columns under their upper-case names, each of which stands once. -/
structure Row where
  cells : List (String × Value) := []

namespace Row

def empty : Row := {}

/-- The cells with a value for the column of an upper-case name. -/
def place (name : String) (value : Value) : List (String × Value) → List (String × Value)
  | [] => [(name, value)]
  | cell :: rest => if cell.1 = name then (name, value) :: rest else cell :: place name value rest

def insert (row : Row) (column : String) (value : Value) : Row :=
  ⟨place (Text.upper column) value row.cells⟩

def ofList (pairs : List (String × Value)) : Row :=
  pairs.foldl (fun row pair => row.insert pair.1 pair.2) empty

def get? (row : Row) (column : String) : Option Value := row.cells.lookup (Text.upper column)

def text? (row : Row) (column : String) : Option String := row.get? column >>= Value.text?

def int? (row : Row) (column : String) : Option Int64 := row.get? column >>= Value.int?

def size (row : Row) : Nat := row.cells.length

def isEmpty (row : Row) : Bool := row.cells.isEmpty

/-- Whether two rows have equal values in the same columns, in whatever order these were given. -/
def equals (left right : Row) : Bool :=
  left.size == right.size && left.cells.all fun cell =>
    match right.cells.lookup cell.1 with
    | some value => cell.2.equals value
    | none => false

end Row

end SchemaBlueprint.Catalog
