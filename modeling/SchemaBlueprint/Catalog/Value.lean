import SchemaBlueprint.Decimal.Layout
import SchemaBlueprint.Decimal.Read
import SchemaBlueprint.Text.Blank

/-!
Values of catalog rows. Some drivers hand over every value as text, so numbers are also read out of
texts.
-/

namespace SchemaBlueprint.Decimal

set_option autoImplicit false

def Binary.whole? : Binary → Option Int
  | .finite negative significand exponent =>
      let unit := Nat.pow 2 (-exponent).toNat
      if significand % unit = 0 then
        let magnitude : Nat := significand / unit * Nat.pow 2 exponent.toNat
        some (if negative then -(magnitude : Int) else (magnitude : Int))
      else none
  | _ => none

def clampInt64 (value : Int) : Int64 :=
  Int64.ofInt (max leastInt64 (min greatestInt64 value))

end SchemaBlueprint.Decimal

namespace SchemaBlueprint.Catalog

set_option autoImplicit false

inductive Value where
  | null
  | int (value : Int64)
  | float (value : Float)
  | text (value : String)

namespace Value

def isNull : Value → Bool
  | .null => true
  | _ => false

def asText? : Value → Option String
  | .text value => some value
  | _ => none

/-- The integer that a value is: a double without fraction counts, pressed into 64 bits, and so does
a text that writes one. -/
def int? : Value → Option Int64
  | .null => none
  | .int value => some value
  | .float value => (Decimal.Binary.ofFloat value).whole?.map Decimal.clampInt64
  | .text value => (Decimal.readInt64? (Text.trimChars value.toList)).map Int64.ofInt

def text? : Value → Option String
  | .null => none
  | .int value => some (Decimal.intText value.toInt)
  | .float value => some (Decimal.floatText value)
  | .text value => some value

/-- Whether two values are equal as the server compares them, so that what is not a number equals
nothing. -/
def equals : Value → Value → Bool
  | .null, .null => true
  | .int left, .int right => left == right
  | .float left, .float right => left == right
  | .text left, .text right => left == right
  | _, _ => false

end Value

end SchemaBlueprint.Catalog
