import SchemaBlueprint.Decimal.Shortest

/-!
Numbers written out. Whole numbers are plain digits with a minus sign in front of negative ones.
Doubles are written positionally, whatever their size, with the fewest digits that read back and
without a decimal point when nothing stands behind it.
-/

namespace SchemaBlueprint.Decimal

set_option autoImplicit false

def wholeDigits (number : Nat) : List Char := Nat.toDigits 10 number

def natText (number : Nat) : String := String.ofList (wholeDigits number)

def intText : Int → String
  | .ofNat number => natText number
  | .negSucc number => "-" ++ natText (number + 1)

/-- A decimal number without exponent: zeros fill the places between the digits and the point. -/
def positional (number : Magnitude) : List Char :=
  let digits := wholeDigits number.digits
  if 0 ≤ number.power then
    if number.digits = 0 then ['0'] else digits ++ List.replicate number.power.toNat '0'
  else
    let places := (-number.power).toNat
    if places < digits.length then
      digits.take (digits.length - places) ++ '.' :: digits.drop (digits.length - places)
    else
      '0' :: '.' :: List.replicate (places - digits.length) '0' ++ digits

def Binary.text : Binary → String
  | .notANumber => "NaN"
  | .infinite negative => if negative then "-inf" else "inf"
  | .finite negative significand exponent =>
      let digits := String.ofList (positional (shortest significand exponent))
      if negative then "-" ++ digits else digits

def floatText (value : Float) : String := (Binary.ofFloat value).text

end SchemaBlueprint.Decimal
