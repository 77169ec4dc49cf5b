import SchemaBlueprint.Yaml.Cursor
import SchemaBlueprint.Decimal.Read

/-!
The scalars of a YAML text: plain ones, ones between quotes, and blocks of lines. Where a scalar goes
on over several lines, a single line end reads as a space and further ones as themselves.
-/

namespace SchemaBlueprint.Yaml

set_option autoImplicit false

structure Gap where
  spaces : List Char := []
  firstBreak : List Char := []
  otherBreaks : List Char := []
  broken : Bool := false

def Gap.text (gap : Gap) : List Char :=
  if gap.broken then
    if gap.firstBreak = ['\n'] then
      if gap.otherBreaks.isEmpty then [' '] else gap.otherBreaks
    else gap.firstBreak ++ gap.otherBreaks
  else gap.spaces

/-- Reads the blanks and line ends at a place. Blanks at the beginning of a line do not count, and
where an indentation is asked for, no tab may stand within it. -/
def readGap (indentation : Option Nat) : Nat → Gap → Cursor → Scan (Gap × Cursor)
  | 0, gap, cursor => .ok (gap, cursor)
  | fuel + 1, gap, cursor =>
      match cursor.rest with
      | [] => .ok (gap, cursor)
      | c :: _ =>
          if isBlank c then
            let violates := match indentation with
              | some least => gap.broken && c = '\t' && cursor.column < least
              | none => false
            if violates then malformed
            else if gap.broken then readGap indentation fuel gap (cursor.advance 1)
            else readGap indentation fuel { gap with spaces := gap.spaces ++ [c] } (cursor.advance 1)
          else if isBreak c then
            let (lineEnd, behind) := cursor.readBreak
            if gap.broken then
              readGap indentation fuel { gap with otherBreaks := gap.otherBreaks ++ lineEnd } behind
            else
              readGap indentation fuel { gap with firstBreak := lineEnd, broken := true } behind
          else .ok (gap, cursor)

def simpleEscape? : Char → Option Char
  | '0' => some '\x00'
  | 'a' => some '\x07'
  | 'b' => some '\x08'
  | 't' => some '\t'
  | '\t' => some '\t'
  | 'n' => some '\n'
  | 'v' => some '\x0b'
  | 'f' => some '\x0c'
  | 'r' => some '\r'
  | 'e' => some '\x1b'
  | ' ' => some ' '
  | '"' => some '"'
  | '/' => some '/'
  | '\\' => some '\\'
  | 'N' => some (Char.ofNat 0x85)
  | '_' => some (Char.ofNat 0xA0)
  | 'L' => some (Char.ofNat 0x2028)
  | 'P' => some (Char.ofNat 0x2029)
  | _ => none

def escapeWidth? : Char → Option Nat
  | 'x' => some 2
  | 'u' => some 4
  | 'U' => some 8
  | _ => none

def readEscape : List Char → Scan (Char × Nat)
  | [] => malformed
  | letter :: rest =>
      match simpleEscape? letter with
      | some c => .ok (c, 1)
      | none =>
          match escapeWidth? letter with
          | none => malformed
          | some width =>
              let digits := rest.take width
              match Decimal.readDigits? 16 digits with
              | none => malformed
              | some code =>
                  if digits.length = width && code.isValidChar then
                    .ok (Char.ofNat code, width + 1)
                  else malformed

/-- Reads a word of a quoted scalar, up to a blank, a line end or the closing quote. The result says
whether the word ended in a line end that does not count. -/
def readQuotedWord (double : Bool) : Nat → List Char → Cursor → Scan (List Char × Bool × Cursor)
  | 0, done, cursor => .ok (done, false, cursor)
  | fuel + 1, done, cursor =>
      match cursor.rest with
      | [] => .ok (done, false, cursor)
      | c :: following =>
          if isBlank c || isBreak c then .ok (done, false, cursor)
          else if !double && c = '\'' then
            if following.head? == some '\'' then
              readQuotedWord double fuel ('\'' :: done) (cursor.advance 2)
            else .ok (done, false, cursor)
          else if double && c = '"' then .ok (done, false, cursor)
          else if double && c = '\\' then
            match following with
            | next :: _ =>
                if isBreak next then .ok (done, true, ((cursor.advance 1).readBreak).2)
                else match readEscape following with
                  | .error fault => .error fault
                  | .ok (spelled, count) =>
                      readQuotedWord double fuel (spelled :: done) (cursor.advance (count + 1))
            | [] => malformed
          else readQuotedWord double fuel (c :: done) (cursor.advance 1)

/-- Reads the words of a quoted scalar up to the closing quote; `done` holds what has been read, last
character first. -/
def readQuotedBody (double : Bool) : Nat → List Char → Cursor → Scan (String × Cursor)
  | 0, _, _ => malformed
  | fuel + 1, done, cursor =>
      if cursor.atDocumentMarker || cursor.rest.isEmpty then malformed
      else do
        let (done, joined, cursor) ← readQuotedWord double cursor.rest.length done cursor
        let closing := if double then '"' else '\''
        if cursor.rest.head? == some closing then
          return (String.ofList done.reverse, cursor.advance 1)
        else
          let (gap, cursor) ← readGap none cursor.rest.length { broken := joined } cursor
          readQuotedBody double fuel (gap.text.reverse ++ done) cursor

def readQuoted (double : Bool) (cursor : Cursor) : Scan (String × Cursor) :=
  readQuotedBody double (cursor.rest.length + 1) [] (cursor.advance 1)

def isFlowMark (c : Char) : Bool := c = ',' || c = '[' || c = ']' || c = '{' || c = '}'

/-- Reads a word of a plain scalar, up to a blank, a line end, a colon that ends a key or, inside
brackets, a mark. -/
def readPlainWord (inFlow : Bool) : Nat → List Char → Cursor → Scan (List Char × Cursor)
  | 0, done, cursor => .ok (done, cursor)
  | fuel + 1, done, cursor =>
      match cursor.rest with
      | [] => .ok (done, cursor)
      | c :: following =>
          if isBlank c || isBreak c then .ok (done, cursor)
          else
            let beforeMark := match following with
              | next :: _ => isFlowMark next || next = '?'
              | [] => false
            if inFlow && c = ':' && beforeMark then malformed
            else if (c = ':' && atGap following) || (inFlow && isFlowMark c) then .ok (done, cursor)
            else readPlainWord inFlow fuel (c :: done) (cursor.advance 1)

structure PlainScalar where
  text : String
  lineEnded : Bool
  cursor : Cursor

/-- Reads the words of a plain scalar; `done` holds what has been read, last character first, and
`gap` what stands behind it. Outside brackets a line that is not indented enough ends the scalar. -/
def readPlainBody (inFlow : Bool) (least : Nat) :
    Nat → List Char → Gap → Cursor → Scan PlainScalar
  | 0, _, _, _ => malformed
  | fuel + 1, done, gap, cursor =>
      let finished : PlainScalar := ⟨String.ofList done.reverse, gap.broken, cursor⟩
      if cursor.atDocumentMarker || cursor.rest.head? == some '#' then .ok finished
      else do
        let (word, behind) ← readPlainWord inFlow cursor.rest.length [] cursor
        let advanced := !word.isEmpty
        let done := if advanced then word ++ gap.text.reverse ++ done else done
        let gap := if advanced then {} else gap
        match behind.rest with
        | c :: _ =>
            if isBlank c || isBreak c then
              let (gap, after) ← readGap (some least) behind.rest.length gap behind
              if !inFlow && after.column < least then
                return ⟨String.ofList done.reverse, gap.broken, after⟩
              else readPlainBody inFlow least fuel done gap after
            else return ⟨String.ofList done.reverse, gap.broken, behind⟩
        | [] => return ⟨String.ofList done.reverse, gap.broken, behind⟩

def readPlain (inFlow : Bool) (least : Nat) (cursor : Cursor) : Scan PlainScalar :=
  readPlainBody inFlow least (cursor.rest.length + 1) [] {} cursor

/-- What becomes of the line ends at the end of a block. -/
inductive Chomping where
  | strip
  | clip
  | keep
  deriving DecidableEq

def chompingOf? : Char → Option Chomping
  | '-' => some .strip
  | '+' => some .keep
  | _ => none

/-- A digit that states how much deeper a block is indented. -/
def indentDigit? (c : Char) : Option Nat :=
  if '1' ≤ c && c ≤ '9' then some (c.toNat - '0'.toNat) else none

def readBlockSigns (cursor : Cursor) : Scan (Chomping × Option Nat × Cursor) :=
  match cursor.rest with
  | c :: following =>
      match chompingOf? c with
      | some chomping =>
          match following with
          | d :: _ =>
              if d = '0' then malformed
              else match indentDigit? d with
                | some deeper => .ok (chomping, some deeper, cursor.advance 2)
                | none => .ok (chomping, none, cursor.advance 1)
          | [] => .ok (chomping, none, cursor.advance 1)
      | none =>
          if c = '0' then malformed
          else match indentDigit? c with
            | none => .ok (.clip, none, cursor)
            | some deeper =>
                match following.head?.bind chompingOf? with
                | some chomping => .ok (chomping, some deeper, cursor.advance 2)
                | none => .ok (.clip, some deeper, cursor.advance 1)
  | [] => .ok (.clip, none, cursor)

def skipLineRest (cursor : Cursor) : Cursor :=
  let cursor := cursor.skipWhile isBlank
  if cursor.rest.head? == some '#' then cursor.skipWhile (!isBreak ·) else cursor

/-- Reads the blank lines of a block, with the indentation of the line behind them. An indentation of
zero is not known yet; the greatest one found so far is `deepest`. -/
def readBlankLines (indent : Nat) :
    Nat → Nat → List Char → Cursor → Scan (Nat × List Char × Cursor)
  | 0, deepest, breaks, cursor => .ok (deepest, breaks, cursor)
  | fuel + 1, deepest, breaks, cursor =>
      let wanted (column : Nat) : Bool := indent == 0 || column < indent
      let spaces := (cursor.rest.takeWhile (· = ' ')).length
      let step := if indent == 0 then spaces else min spaces (indent - cursor.column)
      let cursor := cursor.advance step
      let deepest := max deepest cursor.column
      match cursor.rest with
      | c :: _ =>
          if wanted cursor.column && c = '\t' then malformed
          else if isBreak c then
            let (lineEnd, behind) := cursor.readBreak
            readBlankLines indent fuel deepest (breaks ++ lineEnd) behind
          else .ok (deepest, breaks, cursor)
      | [] => .ok (deepest, breaks, cursor)

/-- Reads the lines of a block; `done` holds what has been read, last character first, `lastBreak` the
end of the last line, and `breaks` the blank lines behind it. -/
def readBlockLines (literal : Bool) (indent : Nat) :
    Nat → List Char → List Char → List Char → Bool → Cursor →
      Scan (List Char × List Char × List Char × Cursor)
  | 0, done, lastBreak, breaks, _, cursor => .ok (done, lastBreak, breaks, cursor)
  | fuel + 1, done, lastBreak, breaks, afterBlank, cursor =>
      match cursor.rest with
      | [] => .ok (done, lastBreak, breaks, cursor)
      | c :: _ =>
          if cursor.column ≠ indent then .ok (done, lastBreak, breaks, cursor)
          else do
            let startsBlank := isBlank c
            let folds := !literal && lastBreak = ['\n'] && !afterBlank && !startsBlank
            let joint :=
              if folds then (if breaks.isEmpty then [' '] else breaks) else lastBreak ++ breaks
            let line := cursor.rest.takeWhile (!isBreak ·)
            let (lineEnd, behind) := (cursor.advance line.length).readBreak
            let (_, blankLines, next) ← readBlankLines indent (behind.rest.length + 1) 0 [] behind
            readBlockLines literal indent fuel (line.reverse ++ joint.reverse ++ done) lineEnd
              blankLines startsBlank next

def readBlock (literal : Bool) (parent : Int) (cursor : Cursor) : Scan (String × Cursor) := do
  let (chomping, deeper, cursor) ← readBlockSigns (cursor.advance 1)
  let cursor := skipLineRest cursor
  if !(cursor.rest.isEmpty || (cursor.rest.head?.map isBreak).getD false) then malformed
  else
    let cursor := cursor.readBreak.2
    let stated := match deeper with
      | some count => (max parent 0).toNat + count
      | none => 0
    let (deepest, breaks, cursor) ← readBlankLines stated (cursor.rest.length + 1) 0 [] cursor
    let indent := if stated == 0 then max deepest (max (parent + 1).toNat 1) else stated
    let (done, lastBreak, breaks, cursor) ←
      readBlockLines literal indent (cursor.rest.length + 1) [] [] breaks false cursor
    let ending := match chomping with
      | .strip => []
      | .clip => lastBreak
      | .keep => lastBreak ++ breaks
    return (String.ofList (done.reverse ++ ending), cursor)

end SchemaBlueprint.Yaml
