import SchemaBlueprint.Json.Basic
import SchemaBlueprint.Decimal.Read

/-!
Numbers of JSON texts. A number without fraction and exponent is whole as long as it fits in 64 bits;
every other number is a double. A double is computed from its leading digits, as many as fit in 64
bits, and one power of ten, with a rounding at each step. A number of up to fifteen digits and a small
exponent is therefore the nearest double, a longer one may be a step beside it.
-/

namespace SchemaBlueprint.Json

set_option autoImplicit false

structure Numeral where
  negative : Bool
  whole : List Char
  fraction : List Char
  exponent : Option Int

/-- The digits before the point and what follows them. Only a single zero begins with zero. -/
def readWhole? (text : List Char) : Option (List Char × List Char) :=
  match text.takeWhile Char.isDigit with
  | [] => none
  | '0' :: _ :: _ => none
  | digits => some (digits, text.dropWhile Char.isDigit)

/-- The digits of a fraction and what follows them. A point has a digit behind it. -/
def readFraction? : List Char → Option (List Char × List Char)
  | '.' :: rest =>
      match rest.takeWhile Char.isDigit with
      | [] => none
      | digits => some (digits, rest.dropWhile Char.isDigit)
  | rest => some ([], rest)

def readExponent? : List Char → Option (Option Int)
  | [] => some none
  | mark :: rest =>
      if mark = 'e' || mark = 'E' then
        let (down, digits) := Decimal.splitSign rest
        (Decimal.readDigits? 10 digits).map fun size =>
          some (if down then -(size : Int) else (size : Int))
      else none

def Numeral.read? (text : List Char) : Option Numeral := do
  let (negative, unsigned) := match text with
    | '-' :: rest => (true, rest)
    | rest => (false, rest)
  let (whole, afterWhole) ← readWhole? unsigned
  let (fraction, afterFraction) ← readFraction? afterWhole
  let exponent ← readExponent? afterFraction
  some ⟨negative, whole, fraction, exponent⟩

def greatestKept : Nat := 0xFFFFFFFFFFFFFFFF

/-- Appends digits to a number as long as it fits in 64 bits: the number, and the digits from the
first one that does not fit. -/
def keepDigits (kept : Nat) : List Char → Nat × List Char
  | [] => (kept, [])
  | digit :: rest =>
      let longer := kept * 10 + (digit.toNat - '0'.toNat)
      if longer ≤ greatestKept then keepDigits longer rest else (kept, digit :: rest)

/-- The digits that count and the power of ten they are counted in. Left-out digits before the point
are replaced by zeros, those behind it are dropped. -/
def Numeral.scaled (numeral : Numeral) : Nat × Int :=
  let (whole, droppedWhole) := keepDigits 0 numeral.whole
  let (kept, droppedFraction) := keepDigits whole numeral.fraction
  let places : Int := (numeral.fraction.length : Int) - (droppedFraction.length : Int)
  (kept, numeral.exponent.getD 0 + (droppedWhole.length : Int) - places)

def tenTo (power : Nat) : Float := Decimal.nearestFloat false 1 (power : Int)

def greatestPower : Nat := 308

/-- Divides by a power of ten, in more than one step when no double holds it. -/
def divideByTenTo (value : Float) (power : Nat) : Float :=
  if power ≤ greatestPower then value / tenTo power
  else if value == 0.0 then value
  else divideByTenTo (value / tenTo greatestPower) (power - greatestPower)
termination_by power
decreasing_by simp only [greatestPower] at *; omega

/-- The double that some digits, counted in a power of ten, are read as. There is none when the number
is greater than every double. -/
def scaledFloat? (digits : Nat) (power : Int) : Option Float :=
  let value := Decimal.nearestFloat false digits 0
  if power < 0 then some (divideByTenTo value power.natAbs)
  else if digits = 0 then some value
  else if power ≤ (greatestPower : Int) then
    let product := value * tenTo power.toNat
    if product.isFinite then some product else none
  else none

def Numeral.float? (numeral : Numeral) : Option Float :=
  let (digits, power) := numeral.scaled
  (scaledFloat? digits power).map fun value => if numeral.negative then -value else value

/-- The whole number that a numeral writes, if it is one of 64 bits: with a sign when it is negative,
without one otherwise. Zero with a minus sign is no whole number. -/
def Numeral.int? (numeral : Numeral) : Option Int :=
  match numeral.fraction, numeral.exponent with
  | [], none =>
      match Decimal.readDigits? 10 numeral.whole with
      | none => none
      | some magnitude =>
          if numeral.negative then
            let value : Int := -(magnitude : Int)
            if magnitude ≠ 0 && Decimal.leastInt64 ≤ value then some value else none
          else if magnitude ≤ greatestKept then some (magnitude : Int)
          else none
  | _, _ => none

def Numeral.value? (numeral : Numeral) : Option Json :=
  match numeral.int? with
  | some value => some (.int value)
  | none => numeral.float?.map .float

def readNumber? (text : List Char) : Option Json := (Numeral.read? text).bind Numeral.value?

end SchemaBlueprint.Json
