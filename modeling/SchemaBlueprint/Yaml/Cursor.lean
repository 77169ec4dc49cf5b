import SchemaBlueprint.Error

/-!
A place in a YAML text: what is still to be read, and the line and column where it begins. Line ends
come in several spellings; whatever the spelling, one is one.
-/

namespace SchemaBlueprint.Yaml

set_option autoImplicit false

abbrev Scan (α : Type) := Except YamlFault α

def malformed {α : Type} : Scan α := .error .malformed

def isAllowed (c : Char) : Bool :=
  let code := c.toNat
  code == 0x9 || code == 0xA || code == 0xD || (0x20 ≤ code && code ≤ 0x7E) || code == 0x85
    || (0xA0 ≤ code && code ≤ 0xD7FF) || (0xE000 ≤ code && code ≤ 0xFFFD) || 0x10000 ≤ code

def isBreak (c : Char) : Bool :=
  c = '\n' || c = '\r' || c.toNat == 0x85 || c.toNat == 0x2028 || c.toNat == 0x2029

def isBlank (c : Char) : Bool := c = ' ' || c = '\t'

def atGap : List Char → Bool
  | [] => true
  | c :: _ => isBlank c || isBreak c

def utf8Size : List Char → Nat
  | [] => 0
  | c :: rest => c.utf8Size + utf8Size rest

/-- A place in a text. Lines and columns count from zero. -/
structure Cursor where
  rest : List Char
  /-- The number of bytes before the place in the UTF-8 form of the text. -/
  offset : Nat := 0
  line : Nat := 0
  column : Nat := 0

namespace Cursor

def start (text : List Char) : Cursor := { rest := text }

def advance (cursor : Cursor) (count : Nat) : Cursor :=
  { cursor with
    rest := cursor.rest.drop count
    offset := cursor.offset + utf8Size (cursor.rest.take count)
    column := cursor.column + count }

def skipWhile (cursor : Cursor) (holds : Char → Bool) : Cursor :=
  cursor.advance (cursor.rest.takeWhile holds).length

/-- The line end at a place as text, and the place behind it. Most spellings mean a plain line end;
the line and paragraph separators stand for themselves. -/
def readBreak (cursor : Cursor) : List Char × Cursor :=
  let behind (count : Nat) : Cursor :=
    { rest := cursor.rest.drop count
      offset := cursor.offset + utf8Size (cursor.rest.take count)
      line := cursor.line + 1 }
  match cursor.rest with
  | '\r' :: '\n' :: _ => (['\n'], behind 2)
  | c :: _ =>
      if c.toNat == 0x2028 || c.toNat == 0x2029 then ([c], behind 1)
      else if isBreak c then (['\n'], behind 1)
      else ([], cursor)
  | [] => ([], cursor)

def atDocumentMarker (cursor : Cursor) : Bool :=
  cursor.column == 0 && match cursor.rest with
    | '-' :: '-' :: '-' :: rest => atGap rest
    | '.' :: '.' :: '.' :: rest => atGap rest
    | _ => false

end Cursor

end SchemaBlueprint.Yaml
