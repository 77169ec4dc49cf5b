/-!
Comparison of names without regard to the case of ASCII letters. Letters beyond ASCII are compared
as they stand, so `É` and `é` name different columns.
-/

namespace SchemaBlueprint.Text

set_option autoImplicit false

def asciiFold (name : String) : List Char := name.toList.map Char.toLower

/-- Equality of names up to the case of ASCII letters. -/
def sameName (left right : String) : Bool := asciiFold left == asciiFold right

/-- Whether `name` stands in `names`, up to the case of ASCII letters. -/
def listsName (names : List String) (name : String) : Bool := names.any (sameName · name)

def sameNames (left right : List String) : Bool := left.map asciiFold == right.map asciiFold

theorem sameName_iff (left right : String) :
    sameName left right = true ↔ asciiFold left = asciiFold right := by
  simp [sameName]

theorem sameName_refl (name : String) : sameName name name = true := by
  simp [sameName]

theorem sameName_comm (left right : String) : sameName left right = sameName right left := by
  rw [Bool.eq_iff_iff, sameName_iff, sameName_iff]
  exact eq_comm

theorem sameName_trans {left middle right : String}
    (first : sameName left middle = true) (second : sameName middle right = true) :
    sameName left right = true := by
  rw [sameName_iff] at *
  exact first.trans second

theorem sameNames_iff (left right : List String) :
    sameNames left right = true ↔ left.map asciiFold = right.map asciiFold := by
  simp [sameNames]

end SchemaBlueprint.Text
