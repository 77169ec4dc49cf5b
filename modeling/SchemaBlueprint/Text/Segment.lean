/-!
Texts cut at a separator and put together again, and single characters written as several.
-/

namespace SchemaBlueprint.Text

set_option autoImplicit false

/-- The parts of a text between the places where `separator` stands. There is always one more part
than separators, and parts may be empty. -/
def segments (separator : Char) : List Char → List (List Char)
  | [] => [[]]
  | c :: rest =>
      if c = separator then [] :: segments separator rest
      else match segments separator rest with
        | [] => [[c]]
        | segment :: others => (c :: segment) :: others

def splitAt (separator : Char) (text : String) : List String :=
  (segments separator text.toList).map String.ofList

def doubled (mark : Char) (chars : List Char) : List Char :=
  chars.flatMap fun c => if c = mark then [c, c] else [c]

def double (mark : Char) (text : String) : String := String.ofList (doubled mark text.toList)

def isWithin (part : List Char) : List Char → Bool
  | [] => part.isEmpty
  | c :: rest => part.isPrefixOf (c :: rest) || isWithin part rest

theorem segments_ne_nil (separator : Char) (chars : List Char) : segments separator chars ≠ [] := by
  cases chars with
  | nil => simp [segments]
  | cons c rest =>
      simp only [segments]
      split
      · simp
      · split <;> simp

theorem doubled_append (mark : Char) (left right : List Char) :
    doubled mark (left ++ right) = doubled mark left ++ doubled mark right := by
  simp [doubled]

theorem toList_double (mark : Char) (text : String) :
    (double mark text).toList = doubled mark text.toList := by
  simp [double]

end SchemaBlueprint.Text
