import SchemaBlueprint.Text.UnprintableTable

/-!
The quoted form in which messages show a text, so that a reader sees every character of it: quotes
and backslashes are escaped, and characters that would not be seen are spelled out.
-/

namespace SchemaBlueprint.Text

set_option autoImplicit false

def hexDigits (number : Nat) : List Char := Nat.toDigits 16 number

def quotedChar (c : Char) : List Char :=
  match c with
  | '\x00' => ['\\', '0']
  | '\t' => ['\\', 't']
  | '\n' => ['\\', 'n']
  | '\r' => ['\\', 'r']
  | '"' => ['\\', '"']
  | '\\' => ['\\', '\\']
  | _ =>
      if isUnprintable c then '\\' :: 'u' :: '{' :: hexDigits c.toNat ++ ['}'] else [c]

/-- A text between double quotes, with every character of it visible. -/
def quoted (text : String) : String :=
  String.ofList ('"' :: text.toList.flatMap quotedChar ++ ['"'])

end SchemaBlueprint.Text
