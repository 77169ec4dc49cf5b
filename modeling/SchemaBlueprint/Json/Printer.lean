import SchemaBlueprint.Json.Basic
import SchemaBlueprint.Decimal.Layout
import SchemaBlueprint.Text.Quoted

/-!
JSON texts laid out for reading: one item or entry a line, two more spaces at every level, and
characters beyond ASCII as they are.
-/

namespace SchemaBlueprint.Json

set_option autoImplicit false

def escapedControl (c : Char) : List Char :=
  let digits := Text.hexDigits c.toNat
  '\\' :: 'u' :: List.replicate (4 - digits.length) '0' ++ digits

def escapedChar (c : Char) : List Char :=
  match c with
  | '"' => ['\\', '"']
  | '\\' => ['\\', '\\']
  | '\n' => ['\\', 'n']
  | '\r' => ['\\', 'r']
  | '\t' => ['\\', 't']
  | '\x08' => ['\\', 'b']
  | '\x0c' => ['\\', 'f']
  | _ => if c.toNat < 0x20 then escapedControl c else [c]

def textLiteral (text : String) : String :=
  String.ofList ('"' :: text.toList.flatMap escapedChar ++ ['"'])

/-- A floating-point number, with a decimal point even if nothing stands behind it. -/
def floatLiteral (value : Float) : String :=
  if value.isFinite then
    let digits := Decimal.floatText value
    if digits.toList.contains '.' then digits else digits ++ ".0"
  else "null"

def freshLine (level : Nat) : String := String.ofList ('\n' :: List.replicate (2 * level) ' ')

def bracketed (opening closing : String) (level : Nat) (parts : List String) : String :=
  if parts.isEmpty then opening ++ closing
  else
    opening ++ freshLine (level + 1) ++ ("," ++ freshLine (level + 1)).intercalate parts
      ++ freshLine level ++ closing

mutual

/-- A value whose first character stands on a line at some level. -/
def renderAt (level : Nat) : Json → String
  | .null => "null"
  | .bool value => if value then "true" else "false"
  | .int value => Decimal.intText value
  | .float value => floatLiteral value
  | .text value => textLiteral value
  | .list items => bracketed "[" "]" level (renderItems level items)
  | .object entries => bracketed "\x7b" "\x7d" level (renderEntries level entries)

def renderItems (level : Nat) : List Json → List String
  | [] => []
  | item :: rest => renderAt (level + 1) item :: renderItems level rest

def renderEntries (level : Nat) : List (String × Json) → List String
  | [] => []
  | (key, value) :: rest =>
      (textLiteral key ++ ": " ++ renderAt (level + 1) value) :: renderEntries level rest

end

def render (value : Json) : String := renderAt 0 value

end SchemaBlueprint.Json
