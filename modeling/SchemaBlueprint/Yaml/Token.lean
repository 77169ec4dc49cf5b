import SchemaBlueprint.Yaml.Scalar

/-!
A YAML text as tokens. Indentation becomes tokens that open and close collections, and a key that is
not marked as one is recognised by the colon behind it, so that its token is put in where it began.
-/

namespace SchemaBlueprint.Yaml

set_option autoImplicit false

inductive Token where
  | streamEnd
  | documentStart
  | documentEnd
  | blockSequenceStart
  | blockMappingStart
  | blockEnd
  | flowSequenceStart
  | flowSequenceEnd
  | flowMappingStart
  | flowMappingEnd
  | blockEntry
  | flowEntry
  | key
  | value
  | scalar (text : String) (plain : Bool)
  deriving DecidableEq, Repr

/-- A place where a key may have begun: how many tokens were there before it, where it stands, and
whether it can be nothing but a key. -/
structure PossibleKey where
  position : Nat
  offset : Nat
  line : Nat
  column : Nat
  required : Bool

/-- The greatest length of a key that is not marked as one, in bytes. -/
def greatestKeyLength : Nat := 1024

/-- The character that may mark the beginning of a text or of a line. It takes a column like any
other. -/
def byteOrderMark : Char := Char.ofNat 0xFEFF

structure Lexer where
  cursor : Cursor
  /-- The tokens so far, last one first. -/
  tokens : List Token := []
  /-- The column of the innermost block collection, or -1 outside of all. -/
  indent : Int := -1
  /-- The columns of the block collections around it. -/
  outerIndents : List Int := []
  blockKey : Option PossibleKey := none
  /-- The possible keys within brackets, one for every open pair, innermost first. -/
  flowKeys : List (Option PossibleKey) := []
  keyAllowed : Bool := true

namespace Lexer

def inFlow (lexer : Lexer) : Bool := !lexer.flowKeys.isEmpty

def emit (lexer : Lexer) (token : Token) : Lexer := { lexer with tokens := token :: lexer.tokens }

def emitAt (lexer : Lexer) (position : Nat) (token : Token) : Lexer :=
  let later := lexer.tokens.length - position
  { lexer with tokens := lexer.tokens.take later ++ token :: lexer.tokens.drop later }

def possibleKey (lexer : Lexer) : Option PossibleKey :=
  match lexer.flowKeys with
  | key :: _ => key
  | [] => lexer.blockKey

def withPossibleKey (lexer : Lexer) (key : Option PossibleKey) : Lexer :=
  match lexer.flowKeys with
  | _ :: outer => { lexer with flowKeys := key :: outer }
  | [] => { lexer with blockKey := key }

def dropKey (lexer : Lexer) : Scan Lexer :=
  match lexer.possibleKey with
  | some key => if key.required then malformed else .ok (lexer.withPossibleKey none)
  | none => .ok lexer

def saveKey (lexer : Lexer) : Scan Lexer :=
  if lexer.keyAllowed then do
    let lexer ← lexer.dropKey
    return lexer.withPossibleKey (some
      { position := lexer.tokens.length
        offset := lexer.cursor.offset
        line := lexer.cursor.line
        column := lexer.cursor.column
        required := !lexer.inFlow && lexer.indent == (lexer.cursor.column : Int) })
  else .ok lexer

/-- Whether a possible key has become impossible: it may not go over a line end, nor be too long. -/
def isStale (cursor : Cursor) (key : PossibleKey) : Bool :=
  key.line < cursor.line || key.offset + greatestKeyLength < cursor.offset

def freshKey (cursor : Cursor) : Option PossibleKey → Scan (Option PossibleKey)
  | some key =>
      if isStale cursor key then (if key.required then malformed else .ok none) else .ok (some key)
  | none => .ok none

/-- Gives up the possible keys that have become impossible. Those of outer brackets can wait until
their brackets are the innermost ones, since none of them is required. -/
def dropStaleKeys (lexer : Lexer) : Scan Lexer := do
  let blockKey ← freshKey lexer.cursor lexer.blockKey
  match lexer.flowKeys with
  | [] => return { lexer with blockKey }
  | key :: outer =>
      let key ← freshKey lexer.cursor key
      return { lexer with blockKey, flowKeys := key :: outer }

/-- Opens a block collection at a column if it is deeper than the innermost one; its token is put in
behind `position` tokens. -/
def openBlock (lexer : Lexer) (column position : Nat) (token : Token) : Lexer :=
  if !lexer.inFlow && lexer.indent < (column : Int) then
    { lexer.emitAt position token with
      indent := column
      outerIndents := lexer.indent :: lexer.outerIndents }
  else lexer

def closeBlocks (column : Int) : List Int → Lexer → Lexer
  | [], lexer => lexer
  | outer :: others, lexer =>
      if !lexer.inFlow && column < lexer.indent then
        closeBlocks column others
          { lexer.emit .blockEnd with indent := outer, outerIndents := others }
      else lexer

def closeTo (lexer : Lexer) (column : Int) : Lexer := closeBlocks column lexer.outerIndents lexer

def skip (lexer : Lexer) (count : Nat) : Lexer := { lexer with cursor := lexer.cursor.advance count }

/-- Skips blanks, comments and line ends up to the next token. Tabs are skipped only where they
cannot be taken for indentation. -/
def skipToToken : Nat → Lexer → Lexer
  | 0, lexer => lexer
  | fuel + 1, lexer =>
      let mayTab := lexer.inFlow || !lexer.keyAllowed
      let cursor := lexer.cursor
      let cursor :=
        if cursor.column == 0 && cursor.rest.head? == some byteOrderMark then cursor.advance 1
        else cursor
      let cursor := cursor.skipWhile fun c => c = ' ' || (mayTab && c = '\t')
      let cursor :=
        if cursor.rest.head? == some '#' then cursor.skipWhile (!isBreak ·) else cursor
      match cursor.rest with
      | c :: _ =>
          if isBreak c then
            skipToToken fuel
              { lexer with
                cursor := cursor.readBreak.2
                keyAllowed := lexer.keyAllowed || !lexer.inFlow }
          else { lexer with cursor }
      | [] => { lexer with cursor }

def readEnd (lexer : Lexer) : Scan Lexer := do
  let lexer ← (lexer.closeTo (-1)).dropKey
  return { lexer.emit .streamEnd with keyAllowed := false }

def readMarker (lexer : Lexer) (token : Token) : Scan Lexer := do
  let lexer ← (lexer.closeTo (-1)).dropKey
  return { (lexer.emit token).skip 3 with keyAllowed := false }

def readOpening (lexer : Lexer) (token : Token) : Scan Lexer := do
  let lexer ← lexer.saveKey
  return { (lexer.emit token).skip 1 with
    flowKeys := none :: lexer.flowKeys, keyAllowed := true }

def readClosing (lexer : Lexer) (token : Token) : Scan Lexer := do
  let lexer ← lexer.dropKey
  return { (lexer.emit token).skip 1 with flowKeys := lexer.flowKeys.tail, keyAllowed := false }

def readComma (lexer : Lexer) : Scan Lexer := do
  let lexer ← lexer.dropKey
  return { (lexer.emit .flowEntry).skip 1 with keyAllowed := true }

def readItem (lexer : Lexer) : Scan Lexer := do
  if !lexer.inFlow && !lexer.keyAllowed then malformed
  else
    let lexer := lexer.openBlock lexer.cursor.column lexer.tokens.length .blockSequenceStart
    let lexer ← lexer.dropKey
    return { (lexer.emit .blockEntry).skip 1 with keyAllowed := true }

def readKey (lexer : Lexer) : Scan Lexer := do
  if !lexer.inFlow && !lexer.keyAllowed then malformed
  else
    let lexer := lexer.openBlock lexer.cursor.column lexer.tokens.length .blockMappingStart
    let lexer ← lexer.dropKey
    return { (lexer.emit .key).skip 1 with keyAllowed := !lexer.inFlow }

/-- A colon that begins a value. What stands before it was a key if it could be one. -/
def readValue (lexer : Lexer) : Scan Lexer :=
  match lexer.possibleKey with
  | some key =>
      let lexer := (lexer.emitAt key.position .key).withPossibleKey none
      let lexer := lexer.openBlock key.column key.position .blockMappingStart
      .ok { (lexer.emit .value).skip 1 with keyAllowed := false }
  | none =>
      if !lexer.inFlow && !lexer.keyAllowed then malformed
      else
        let lexer := lexer.openBlock lexer.cursor.column lexer.tokens.length .blockMappingStart
        .ok { (lexer.emit .value).skip 1 with keyAllowed := !lexer.inFlow }

def readBlockScalar (lexer : Lexer) (literal : Bool) : Scan Lexer := do
  let lexer ← lexer.dropKey
  let (text, cursor) ← readBlock literal lexer.indent lexer.cursor
  return { lexer.emit (.scalar text false) with cursor, keyAllowed := true }

def readQuotedScalar (lexer : Lexer) (double : Bool) : Scan Lexer := do
  let lexer ← lexer.saveKey
  let (text, cursor) ← readQuoted double lexer.cursor
  return { lexer.emit (.scalar text false) with cursor, keyAllowed := false }

def readPlainScalar (lexer : Lexer) : Scan Lexer := do
  let lexer ← lexer.saveKey
  let scalar ← readPlain lexer.inFlow (lexer.indent + 1).toNat lexer.cursor
  return { lexer.emit (.scalar scalar.text true) with
    cursor := scalar.cursor, keyAllowed := scalar.lineEnded }

def isIndicator (c : Char) : Bool :=
  ['-', '?', ':', ',', '[', ']', '{', '}', '#', '&', '*', '!', '|', '>', '\'', '"', '%', '@', '`'].contains c

/-- Whether a plain scalar may begin here. A hyphen may begin one if no blank follows, and outside of
brackets so may a question mark and a colon. -/
def startsPlain (inFlow : Bool) (c : Char) (following : List Char) : Bool :=
  let beforeBlank := match following with
    | next :: _ => isBlank next
    | [] => false
  !(isIndicator c || isBlank c || isBreak c) || (c = '-' && !beforeBlank)
    || (!inFlow && (c = '?' || c = ':') && !atGap following)

def readToken (lexer : Lexer) : Scan Lexer :=
  match lexer.cursor.rest with
  | [] => lexer.readEnd
  | c :: following =>
      if lexer.cursor.column == 0 && c = '%' then malformed
      else if lexer.cursor.atDocumentMarker then
        lexer.readMarker (if c = '-' then .documentStart else .documentEnd)
      else if c = '[' then lexer.readOpening .flowSequenceStart
      else if c = '{' then lexer.readOpening .flowMappingStart
      else if c = ']' then lexer.readClosing .flowSequenceEnd
      else if c = '}' then lexer.readClosing .flowMappingEnd
      else if c = ',' then lexer.readComma
      else if c = '-' && atGap following then lexer.readItem
      else if c = '?' && (lexer.inFlow || atGap following) then lexer.readKey
      else if c = ':' && (lexer.inFlow || atGap following) then lexer.readValue
      else if c = '|' && !lexer.inFlow then lexer.readBlockScalar true
      else if c = '>' && !lexer.inFlow then lexer.readBlockScalar false
      else if c = '\'' then lexer.readQuotedScalar false
      else if c = '"' then lexer.readQuotedScalar true
      else if startsPlain lexer.inFlow c following then lexer.readPlainScalar
      else malformed

def next (lexer : Lexer) : Scan Lexer := do
  let lexer ← (skipToToken (lexer.cursor.rest.length + 1) lexer).dropStaleKeys
  (lexer.closeTo (lexer.cursor.column : Int)).readToken

def run : Nat → Lexer → Scan (List Token)
  | 0, _ => malformed
  | fuel + 1, lexer =>
      match lexer.next with
      | .error fault => .error fault
      | .ok lexer =>
          if lexer.tokens.head? == some .streamEnd then .ok lexer.tokens.reverse
          else run fuel lexer

end Lexer

/-- The tokens of a text. Every token takes at least one character, and the end takes none. -/
def tokens (text : String) : Scan (List Token) :=
  let chars := text.toList
  if chars.all isAllowed then Lexer.run (chars.length + 1) { cursor := Cursor.start chars }
  else malformed

end SchemaBlueprint.Yaml
