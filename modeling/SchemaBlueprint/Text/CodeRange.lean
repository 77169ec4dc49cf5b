/-!
Sets of characters given as ranges of code points, the form in which the tables of this library are
written down.
-/

namespace SchemaBlueprint.Text

set_option autoImplicit false

/-- The code points from the first component to the second, both included. -/
abbrev CodeRange := Nat × Nat

def inRanges (ranges : List CodeRange) (c : Char) : Bool :=
  ranges.any fun range => range.1 ≤ c.toNat && c.toNat ≤ range.2

theorem inRanges_nil (c : Char) : inRanges [] c = false := rfl

theorem inRanges_cons (range : CodeRange) (ranges : List CodeRange) (c : Char) :
    inRanges (range :: ranges) c =
      ((range.1 ≤ c.toNat && c.toNat ≤ range.2) || inRanges ranges c) := rfl

end SchemaBlueprint.Text
