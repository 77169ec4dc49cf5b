/-!
The fewest decimal digits that still read back as a given binary floating-point number. A double is
taken apart into a whole significand and a power of two, and the search runs over ever finer decimal
grids in exact whole-number arithmetic.
-/

namespace SchemaBlueprint.Decimal

set_option autoImplicit false

/-- What the bits of a double say. A finite number is `significand * 2 ^ exponent`. -/
inductive Binary where
  | notANumber
  | infinite (negative : Bool)
  | finite (negative : Bool) (significand : Nat) (exponent : Int)
  deriving DecidableEq, Repr

/-- The least significand of a double that is not too small for full precision, which has 53 bits. -/
def leastFullSignificand : Nat := 0x10000000000000

def Binary.ofBits (bits : UInt64) : Binary :=
  let word := bits.toNat
  let negative := word / 0x8000000000000000 == 1
  let field : Nat := word / leastFullSignificand % 2048
  let fraction : Nat := word % leastFullSignificand
  if field = 2047 then
    if fraction = 0 then .infinite negative else .notANumber
  else if field = 0 then .finite negative fraction (-1074)
  else .finite negative (leastFullSignificand + fraction) ((field : Int) - 1075)

def Binary.ofFloat (value : Float) : Binary := Binary.ofBits value.toBits

/-- A decimal number without a sign: `digits * 10 ^ power`. -/
structure Magnitude where
  digits : Nat
  power : Int
  deriving DecidableEq, Repr

/-- A positive number with the bounds of the numbers that round to it, all over one denominator.
The bounds themselves round to it when `closed`. -/
structure Neighbourhood where
  lower : Nat
  value : Nat
  upper : Nat
  denominator : Nat
  closed : Bool

/-- The numbers that round to `significand * 2 ^ exponent`. They reach half a step up, and half a
step down, except that below a power of two the steps are half as long. -/
def Neighbourhood.ofFinite (significand : Nat) (exponent : Int) : Neighbourhood :=
  let narrow := significand == leastFullSignificand && exponent > -1074
  let below := if narrow then 1 else 2
  let scale := Nat.pow 2 (exponent - 2).toNat
  { lower := (4 * significand - below) * scale
    value := 4 * significand * scale
    upper := (4 * significand + 2) * scale
    denominator := Nat.pow 2 (2 - exponent).toNat
    closed := significand % 2 == 0 }

def Neighbourhood.inUnits (around : Neighbourhood) (power : Int) : Neighbourhood :=
  let up := Nat.pow 10 (-power).toNat
  { around with
    lower := around.lower * up
    value := around.value * up
    upper := around.upper * up
    denominator := around.denominator * Nat.pow 10 power.toNat }

def Neighbourhood.holds (around : Neighbourhood) (count : Nat) : Bool :=
  let point := count * around.denominator
  if around.closed then around.lower ≤ point && point ≤ around.upper
  else around.lower < point && point < around.upper

/-- The whole number of units next to the value that rounds to it: the nearer of the two when both
do, and the larger one on a tie. -/
def Neighbourhood.nearest? (around : Neighbourhood) : Option Nat :=
  let below := around.value / around.denominator
  let above := below + 1
  match around.holds below, around.holds above with
  | true, true =>
      let down := around.value - below * around.denominator
      let up := above * around.denominator - around.value
      some (if down < up then below else above)
  | true, false => some below
  | false, true => some above
  | false, false => none

/-- The number of decimal places by which a number below one has to move up to reach one. -/
def placesToOne (numerator denominator : Nat) : Nat → Nat
  | 0 => 0
  | fuel + 1 =>
      if denominator ≤ numerator then 0
      else placesToOne (numerator * 10) denominator fuel + 1

/-- The power of ten just above `numerator / denominator`, for positive numbers not below the least
double. -/
def decimalMagnitude (numerator denominator : Nat) : Int :=
  if denominator ≤ numerator then ((Nat.toDigits 10 (numerator / denominator)).length : Int)
  else 1 - (placesToOne numerator denominator 400 : Int)

def Magnitude.stripped (number : Magnitude) : Nat → Magnitude
  | 0 => number
  | fuel + 1 =>
      if number.digits ≠ 0 && number.digits % 10 == 0 then
        Magnitude.stripped ⟨number.digits / 10, number.power + 1⟩ fuel
      else number

/-- The shortest decimal number that reads back as `significand * 2 ^ exponent`. Seventeen digits
always suffice. -/
def shortest (significand : Nat) (exponent : Int) : Magnitude :=
  if significand = 0 then ⟨0, 0⟩
  else
    let around := Neighbourhood.ofFinite significand exponent
    let above := decimalMagnitude around.value around.denominator
    let found := (List.range 17).findSome? fun (extra : Nat) =>
      let power := above - ((extra : Int) + 1)
      ((around.inUnits power).nearest?).map fun digits => Magnitude.mk digits power
    (found.getD ⟨0, 0⟩).stripped 20

end SchemaBlueprint.Decimal
