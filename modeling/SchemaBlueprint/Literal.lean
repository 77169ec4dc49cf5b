import SchemaBlueprint.Text.Segment

/-!
Single-quoted SQL literals. A quote inside a literal is written twice, so no content can end it.
-/

namespace SchemaBlueprint

set_option autoImplicit false

def escapeLiteral (content : String) : String := Text.double '\'' content

def sqlLiteral (content : String) : String := "'" ++ escapeLiteral content ++ "'"

theorem toList_escapeLiteral (content : String) :
    (escapeLiteral content).toList = Text.doubled '\'' content.toList :=
  Text.toList_double _ _

theorem toList_sqlLiteral (content : String) :
    (sqlLiteral content).toList = '\'' :: Text.doubled '\'' content.toList ++ ['\''] := by
  simp [sqlLiteral, toList_escapeLiteral]

end SchemaBlueprint
