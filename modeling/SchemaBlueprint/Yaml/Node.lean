import SchemaBlueprint.Yaml.Token

/-!
A YAML document as a tree of nodes. A scalar keeps its text and whether it was plain, since only a
plain one can be anything but a text.
-/

namespace SchemaBlueprint.Yaml

set_option autoImplicit false

inductive Node where
  | scalar (text : String) (plain : Bool)
  | sequence (items : List Node)
  | mapping (entries : List (Node × Node))

namespace Node

def blank : Node := .scalar "" true

def stopsAt (stops : List Token) : List Token → Bool
  | token :: _ => stops.contains token
  | [] => true

def separated (first : Bool) (input : List Token) : Scan (List Token) :=
  if first then .ok input
  else match input with
    | .flowEntry :: rest => .ok rest
    | _ => malformed

mutual

/-- Reads a node. Block collections are allowed outside of brackets only, and a sequence that is not
indented only as the value of a key. -/
def readNode (fuel : Nat) (block unindented : Bool) (input : List Token) : Scan (Node × List Token) :=
  match fuel with
  | 0 => malformed
  | fuel + 1 =>
      match input with
      | .scalar text plain :: rest => .ok (.scalar text plain, rest)
      | .blockEntry :: _ =>
          if unindented then do
            let (items, rest) ← readItems fuel true input
            return (.sequence items, rest)
          else malformed
      | .flowSequenceStart :: rest => do
          let (items, rest) ← readFlowItems fuel true rest
          return (.sequence items, rest)
      | .flowMappingStart :: rest => do
          let (entries, rest) ← readFlowEntries fuel true rest
          return (.mapping entries, rest)
      | .blockSequenceStart :: rest =>
          if block then do
            let (items, rest) ← readItems fuel false rest
            match rest with
            | .blockEnd :: rest => return (.sequence items, rest)
            | _ => malformed
          else malformed
      | .blockMappingStart :: rest =>
          if block then do
            let (entries, rest) ← readEntries fuel rest
            match rest with
            | .blockEnd :: rest => return (.mapping entries, rest)
            | _ => malformed
          else malformed
      | _ => malformed

def readUnless (fuel : Nat) (stops : List Token) (block unindented : Bool) (input : List Token) :
    Scan (Node × List Token) :=
  match fuel with
  | 0 => malformed
  | fuel + 1 =>
      if stopsAt stops input then .ok (blank, input) else readNode fuel block unindented input

def readItems (fuel : Nat) (unindented : Bool) (input : List Token) : Scan (List Node × List Token) :=
  match fuel with
  | 0 => malformed
  | fuel + 1 =>
      match input with
      | .blockEntry :: rest => do
          let stops :=
            if unindented then [.blockEntry, .key, .value, .blockEnd] else [.blockEntry, .blockEnd]
          let (item, rest) ← readUnless fuel stops true false rest
          let (items, rest) ← readItems fuel unindented rest
          return (item :: items, rest)
      | _ => .ok ([], input)

def readEntries (fuel : Nat) (input : List Token) : Scan (List (Node × Node) × List Token) :=
  match fuel with
  | 0 => malformed
  | fuel + 1 =>
      let stops := [Token.key, .value, .blockEnd]
      match input with
      | .key :: rest => do
          let (key, rest) ← readUnless fuel stops true true rest
          let (value, rest) ← readBlockValue fuel rest
          let (entries, rest) ← readEntries fuel rest
          return ((key, value) :: entries, rest)
      | _ => .ok ([], input)

def readBlockValue (fuel : Nat) (input : List Token) : Scan (Node × List Token) :=
  match fuel with
  | 0 => malformed
  | fuel + 1 =>
      match input with
      | .value :: rest => readUnless fuel [.key, .value, .blockEnd] true true rest
      | _ => .ok (blank, input)

/-- Reads the items of a sequence between brackets, up to the closing one. An item may be a single
entry of a mapping. -/
def readFlowItems (fuel : Nat) (first : Bool) (input : List Token) : Scan (List Node × List Token) :=
  match fuel with
  | 0 => malformed
  | fuel + 1 =>
      match input with
      | .flowSequenceEnd :: rest => .ok ([], rest)
      | _ => do
          let input ← separated first input
          match input with
          | .flowSequenceEnd :: rest => return ([], rest)
          | .key :: rest =>
              let stops := [Token.flowEntry, .flowSequenceEnd]
              let (key, rest) ←
                if stopsAt (.value :: stops) rest then .ok (blank, rest.tail)
                else readNode fuel false false rest
              let (value, rest) ← readFlowValue fuel stops rest
              let (items, rest) ← readFlowItems fuel false rest
              return (.mapping [(key, value)] :: items, rest)
          | _ =>
              let (item, rest) ← readNode fuel false false input
              let (items, rest) ← readFlowItems fuel false rest
              return (item :: items, rest)

def readFlowEntries (fuel : Nat) (first : Bool) (input : List Token) :
    Scan (List (Node × Node) × List Token) :=
  match fuel with
  | 0 => malformed
  | fuel + 1 =>
      match input with
      | .flowMappingEnd :: rest => .ok ([], rest)
      | _ => do
          let input ← separated first input
          match input with
          | .flowMappingEnd :: rest => return ([], rest)
          | .key :: rest =>
              let stops := [Token.flowEntry, .flowMappingEnd]
              let (key, rest) ← readUnless fuel (.value :: stops) false false rest
              let (value, rest) ← readFlowValue fuel stops rest
              let (entries, rest) ← readFlowEntries fuel false rest
              return ((key, value) :: entries, rest)
          | _ =>
              let (key, rest) ← readNode fuel false false input
              let (entries, rest) ← readFlowEntries fuel false rest
              return ((key, blank) :: entries, rest)

def readFlowValue (fuel : Nat) (stops : List Token) (input : List Token) : Scan (Node × List Token) :=
  match fuel with
  | 0 => malformed
  | fuel + 1 =>
      match input with
      | .value :: rest => readUnless fuel stops false false rest
      | _ => .ok (blank, input)

end

def readDocument (fuel : Nat) : List Token → Scan (Node × List Token)
  | .documentStart :: rest =>
      readUnless fuel [.documentStart, .documentEnd, .streamEnd] true false rest
  | input => readNode fuel true false input

def isFinished (input : List Token) : Bool :=
  input.dropWhile (· == .documentEnd) == [.streamEnd]

/-- The node of a text that holds just one document. Reading one token takes less than four
steps. -/
def ofText (text : String) : Scan Node := do
  let input ← tokens text
  let (node, rest) ← readDocument (4 * input.length + 4) input
  if isFinished rest then return node else malformed

end Node

end SchemaBlueprint.Yaml
