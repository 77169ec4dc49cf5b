import SchemaBlueprint.Yaml.Node
import SchemaBlueprint.Document.Blueprint
import SchemaBlueprint.Document.Settings

/-!
What YAML nodes mean. A plain scalar is null, a truth value or a number if it is spelled as one, and
a text otherwise; any other scalar is a text. A place for a text takes every scalar as it is written,
and a place for a list or a record takes nothing at all as an empty one.
-/

namespace SchemaBlueprint.Yaml

set_option autoImplicit false

open Document (Datum Key Read)

def isNullWord (text : String) : Bool := ["", "~", "null", "Null", "NULL"].contains text

def truthWord? (text : String) : Option Bool :=
  if ["true", "True", "TRUE"].contains text then some true
  else if ["false", "False", "FALSE"].contains text then some false
  else none

def basedDigits? : List Char → Option (Nat × List Char)
  | '0' :: 'x' :: digits => some (16, digits)
  | '0' :: 'o' :: digits => some (8, digits)
  | '0' :: 'b' :: digits => some (2, digits)
  | _ => none

/-- Whether a number without a base begins with a zero that has no place there. Such digits are a
text. -/
def hasIdleZero (digits : List Char) : Bool :=
  match digits with
  | '0' :: next :: rest => (next :: rest).all Char.isDigit
  | _ => false

def magnitude? (digits : List Char) : Option Nat :=
  match basedDigits? digits with
  | some (base, rest) => Decimal.readDigits? base rest
  | none => if hasIdleZero digits then none else Decimal.readDigits? 10 digits

def whole? (text : List Char) : Option Int :=
  match text with
  | '-' :: digits => (magnitude? digits).map fun size => -(size : Int)
  | '+' :: digits => (magnitude? digits).map fun size => (size : Int)
  | digits => (magnitude? digits).map fun size => (size : Int)

/-- The floating-point number that a plain scalar writes. One that is too great for a double is not
a number. -/
def float? (text : String) : Option Float :=
  let chars := text.toList
  let unsigned := if chars.head? == some '+' then chars.tail else chars
  let unsignedText := String.ofList unsigned
  if [".inf", ".Inf", ".INF"].contains unsignedText then some (1.0 / 0.0)
  else if ["-.inf", "-.Inf", "-.INF"].contains text then some (-(1.0 / 0.0))
  else if [".nan", ".NaN", ".NAN"].contains text then some (0.0 / 0.0)
  else
    let twice := chars.head? == some '+' &&
      (unsigned.head? == some '+' || unsigned.head? == some '-')
    if twice || hasIdleZero (Decimal.splitSign chars).2 then none
    else match Decimal.readFloat? unsigned with
      | some value => if value.isFinite then some value else none
      | none => none

def fitsWord (value : Int) : Bool := Decimal.leastInt64 ≤ value && value ≤ 0xFFFFFFFFFFFFFFFF

def fitsLongWord (value : Int) : Bool :=
  -0x80000000000000000000000000000000 ≤ value && value ≤ 0xFFFFFFFFFFFFFFFFFFFFFFFFFFFFFFFF

/-- The value of a plain scalar. A whole number of more than 64 bits has no place in any document,
unless it is so great that it is read as a floating-point number. -/
def plainValue (text : String) : Read Datum :=
  if isNullWord text then .ok .null
  else match truthWord? text with
    | some value => .ok (.bool value)
    | none =>
        let floating : Datum := match float? text with
          | some value => .float value
          | none => .text text
        match whole? text.toList with
        | some value =>
            if fitsWord value then .ok (.int value)
            else if fitsLongWord value then .error .misshapen
            else .ok floating
        | none => .ok floating

namespace Node

def text : Node → Read String
  | .scalar text _ => .ok text
  | _ => .error .misshapen

/-- What a key means by its spelling and its value. A whole number is a place only if no minus sign
stands in front of it, not even in front of zero. -/
def keyMeaning (spelling : Node) (value : Datum) : Key :=
  match spelling, value with
  | _, .text name => .name name
  | .scalar text _, .int place =>
      if text.toList.head? == some '-' then .other else .place place.toNat
  | _, _ => .other

mutual

/-- The value of a node, by the type that its own spelling gives it. Only `depth` collections may
stand in each other. -/
def value (depth : Nat) : Node → Read Datum
  | .scalar text plain => if plain then plainValue text else .ok (.text text)
  | .sequence items =>
      match depth with
      | 0 => .error .misshapen
      | depth + 1 => do return .list (← itemValues depth items)
  | .mapping entries =>
      match depth with
      | 0 => .error .misshapen
      | depth + 1 => do return .object (← entryValues depth entries)

def itemValues (depth : Nat) : List Node → Read (List Datum)
  | [] => .ok []
  | item :: rest => do
      let first ← item.value depth
      return first :: (← itemValues depth rest)

def entryValues (depth : Nat) : List (Node × Node) → Read (List (Key × Datum))
  | [] => .ok []
  | (key, node) :: rest => do
      let keyValue ← key.value depth
      let first ← node.value depth
      return (keyMeaning key keyValue, first) :: (← entryValues depth rest)

end

/-- The greatest number of collections that may stand in each other where their contents count. -/
def greatestDepth : Nat := 128

def isNull : Node → Bool
  | .scalar text plain => plain && isNullWord text
  | _ => false

def isBlank : Node → Bool
  | .scalar text plain => plain && text.isEmpty
  | _ => false

def bool : Node → Read Bool
  | .scalar text true =>
      match truthWord? text with
      | some value => .ok value
      | none => .error .misshapen
  | _ => .error .misshapen

def natural (greatest : Nat) : Node → Read Nat
  | .scalar text true =>
      let chars := text.toList
      let digits := if chars.head? == some '+' then chars.tail else chars
      match magnitude? digits with
      | some size => if size ≤ greatest then .ok size else .error .misshapen
      | none => .error .misshapen
  | _ => .error .misshapen

def items : Node → Read (List Node)
  | .sequence items => .ok items
  | node => if node.isBlank then .ok [] else .error .misshapen

/-- The entries of a mapping. Every scalar is a name as it is written. -/
def fields : Node → Read (Document.Fields Node)
  | .mapping entries => do
      let keyed ← entries.mapM fun entry => do return (Key.name (← entry.1.text), entry.2)
      return .keyed keyed
  | node => if node.isBlank then .ok (.keyed []) else .error .misshapen

end Node

def format : Document.Format Node where
  isNull := Node.isNull
  text := Node.text
  bool := Node.bool
  natural := Node.natural
  items := Node.items
  fields := Node.fields
  value level node := node.value (Node.greatestDepth - level)

def load {α : Type} (read : Node → Read α) (text : String) : Except SchemaError α :=
  match Node.ofText text with
  | .error fault => .error (.yaml fault)
  | .ok node =>
      match read node with
      | .error fault => .error (.yaml (.decoding fault))
      | .ok value => .ok value

end SchemaBlueprint.Yaml

namespace SchemaBlueprint

set_option autoImplicit false

/-- The blueprint in the text of a file, which is YAML; JSON is a part of it. -/
def Blueprint.ofFile (text : String) : Except SchemaError Blueprint :=
  Yaml.load (Document.blueprint Yaml.format) text

end SchemaBlueprint
