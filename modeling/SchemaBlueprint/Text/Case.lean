import SchemaBlueprint.Text.CaseTable
import SchemaBlueprint.Text.CaseContext

/-!
Upper and lower case of whole texts, for every letter that has case. A letter may turn into several
(`ß` into `SS`), and a capital sigma that ends a word becomes the final small sigma.
-/

namespace SchemaBlueprint.Text

set_option autoImplicit false

def imageIn? (runs : List CaseRun) (code : Nat) : Option Nat :=
  runs.findSome? fun run => run.image? code

/-- The capital form of one character, which may have several letters. -/
def upperChar (c : Char) : List Char :=
  if c.toNat < 0x80 then [c.toUpper]
  else match capitalExpansions.lookup c.toNat with
    | some codes => codes.map Char.ofNat
    | none => match imageIn? capitalRuns c.toNat with
      | some code => [Char.ofNat code]
      | none => [c]

/-- The small form of one character, taken out of context. Only the dotted capital I takes two
characters: a small i and a combining dot above. -/
def lowerChar (c : Char) : List Char :=
  if c.toNat < 0x80 then [c.toLower]
  else if c.toNat = 0x130 then ['i', Char.ofNat 0x307]
  else match imageIn? smallRuns c.toNat with
    | some code => [Char.ofNat code]
    | none => [c]

def startsCased (chars : List Char) : Bool :=
  match chars.dropWhile isCaseIgnorable with
  | [] => false
  | c :: _ => isCased c

/-- The small form of a capital sigma: final when a cased letter comes before it and none after. -/
def smallSigma (before after : List Char) : Char :=
  if startsCased before && !startsCased after then 'ς' else 'σ'

/-- The small form of `rest`, where `before` holds the characters in front of it, nearest first. -/
def lowerAfter (before : List Char) : List Char → List Char
  | [] => []
  | c :: rest =>
      (if c = 'Σ' then [smallSigma before rest] else lowerChar c) ++ lowerAfter (c :: before) rest

def upperChars (chars : List Char) : List Char := chars.flatMap upperChar

def lowerChars (chars : List Char) : List Char := lowerAfter [] chars

def upper (text : String) : String := String.ofList (upperChars text.toList)

def lower (text : String) : String := String.ofList (lowerChars text.toList)

theorem upperChars_append (left right : List Char) :
    upperChars (left ++ right) = upperChars left ++ upperChars right := by
  simp [upperChars]

theorem toList_upper (text : String) : (upper text).toList = upperChars text.toList := by
  simp [upper]

theorem toList_lower (text : String) : (lower text).toList = lowerChars text.toList := by
  simp [lower]

end SchemaBlueprint.Text
