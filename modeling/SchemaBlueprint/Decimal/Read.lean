/-!
Numbers read from their decimal text.
-/

namespace SchemaBlueprint.Decimal

set_option autoImplicit false

def digitValue? (base : Nat) (c : Char) : Option Nat :=
  let value :=
    if c.isDigit then c.toNat - '0'.toNat
    else if 'a' ≤ c && c ≤ 'f' then c.toNat - 'a'.toNat + 10
    else if 'A' ≤ c && c ≤ 'F' then c.toNat - 'A'.toNat + 10
    else base
  if value < base then some value else none

/-- The number that digits in `base` write, if there is at least one and nothing else. -/
def readDigits? (base : Nat) (digits : List Char) : Option Nat :=
  match digits with
  | [] => none
  | _ => digits.foldlM (fun total c => (digitValue? base c).map (total * base + ·)) 0

def splitSign : List Char → Bool × List Char
  | '-' :: rest => (true, rest)
  | '+' :: rest => (false, rest)
  | rest => (false, rest)

def readInt? (least greatest : Int) (text : List Char) : Option Int :=
  let (negative, digits) := splitSign text
  match readDigits? 10 digits with
  | none => none
  | some magnitude =>
      let value : Int := if negative then -(magnitude : Int) else (magnitude : Int)
      if least ≤ value && value ≤ greatest then some value else none

def leastInt64 : Int := -0x8000000000000000

def greatestInt64 : Int := 0x7FFFFFFFFFFFFFFF

def readInt64? (text : List Char) : Option Int := readInt? leastInt64 greatestInt64 text

def readNat? (greatest : Nat) (text : List Char) : Option Nat :=
  let digits := match text with
    | '+' :: rest => rest
    | _ => text
  match readDigits? 10 digits with
  | none => none
  | some value => if value ≤ greatest then some value else none

/-- The double nearest to `digits * 10 ^ power`. Powers beyond every double are cut off, where the
result is zero or infinite anyway. -/
def nearestFloat (negative : Bool) (digits : Nat) (power : Int) : Float :=
  let size : Int := ((Nat.toDigits 10 digits).length : Int) + power
  let magnitude : Float :=
    if digits = 0 then 0.0
    else if size > 400 then 1.0 / 0.0
    else if size < -400 then 0.0
    else if 0 ≤ power then Float.ofScientific digits false power.toNat
    else Float.ofScientific digits true (-power).toNat
  if negative then -magnitude else magnitude

/-- A decimal number with an optional fraction and exponent: digits on at least one side of the
point, then `e` or `E` with a signed whole number. The result is its sign, its digits as one whole
number and the power of ten they are counted in. -/
def readDecimal? (text : List Char) : Option (Bool × Nat × Int) :=
  let (negative, body) := splitSign text
  let whole := body.takeWhile Char.isDigit
  let afterWhole := body.dropWhile Char.isDigit
  let (fraction, afterFraction) := match afterWhole with
    | '.' :: rest => (rest.takeWhile Char.isDigit, rest.dropWhile Char.isDigit)
    | rest => ([], rest)
  match readDigits? 10 (whole ++ fraction) with
  | none => none
  | some digits =>
      let places : Int := (fraction.length : Int)
      match afterFraction with
      | [] => some (negative, digits, -places)
      | mark :: exponent =>
          if mark = 'e' || mark = 'E' then
            let (down, exponentDigits) := splitSign exponent
            (readDigits? 10 exponentDigits).map fun size =>
              (negative, digits, (if down then -(size : Int) else (size : Int)) - places)
          else none

def readFloat? (text : List Char) : Option Float :=
  (readDecimal? text).map fun (negative, digits, power) => nearestFloat negative digits power

end SchemaBlueprint.Decimal
