import Mathlib.Data.List.Induction
import Mathlib.Logic.Relation
import SchemaBlueprint.Catalog.Row
import SchemaBlueprint.Proofs.IntegerText

/-!
Rows as drivers report them: one value after the other, each under the name that the driver gives the
column. Drivers differ in the case of these names, in whether they report what is null, and in
whether numbers come as texts. A row tells of each column the last value reported for it, and reports
that differ in no more than that tell the same.
-/

namespace SchemaBlueprint.Catalog

set_option autoImplicit false

abbrev Report := List (String × Value)

def Report.value? (report : Report) (column : String) : Option Value :=
  (report.reverse.find? fun cell => Text.upper cell.1 == Text.upper column).map (·.2)

theorem Report.value_append (report : Report) (cell : String × Value) (name : String) :
    Report.value? (report ++ [cell]) name =
      if Text.upper name = Text.upper cell.1 then some cell.2 else report.value? name := by
  rw [value?, value?, List.reverse_append, List.reverse_singleton, List.singleton_append,
    List.find?_cons]
  by_cases same : Text.upper name = Text.upper cell.1
  · simp [same]
  · have other : (Text.upper cell.1 == Text.upper name) = false := beq_false_of_ne (Ne.symm same)
    rw [if_neg same, other]

namespace Row

theorem lookup_cell (name column : String) (value : Value) (rest : List (String × Value)) :
    ((column, value) :: rest).lookup name =
      if name = column then some value else rest.lookup name := by
  by_cases same : name = column
  · simp [same]
  · have other : (name == column) = false := beq_false_of_ne same
    simp [List.lookup_cons, same, other]

theorem lookup_place (column : String) (value : Value) (cells : List (String × Value))
    (name : String) :
    (place column value cells).lookup name =
      if name = column then some value else cells.lookup name := by
  induction cells with
  | nil => exact lookup_cell name column value []
  | cons cell rest ih =>
      obtain ⟨key, held⟩ := cell
      unfold place
      by_cases there : key = column
      · rw [if_pos there, lookup_cell, lookup_cell, there]
        split <;> rfl
      · rw [if_neg there, lookup_cell, lookup_cell, ih]
        by_cases own : name = key
        · rw [if_pos own, if_neg (own ▸ there), if_pos own]
        · rw [if_neg own, if_neg own]

theorem get_insert (row : Row) (column : String) (value : Value) (name : String) :
    (row.insert column value).get? name =
      if Text.upper name = Text.upper column then some value else row.get? name :=
  lookup_place _ _ _ _

theorem of_list_append (report : Report) (cell : String × Value) :
    ofList (report ++ [cell]) = (ofList report).insert cell.1 cell.2 := by
  rw [ofList, ofList, List.foldl_append]
  rfl

theorem get_of_list (report : Report) (name : String) :
    (ofList report).get? name = report.value? name := by
  induction report using List.reverseRecOn with
  | nil => rfl
  | append_singleton report cell ih =>
      rw [of_list_append, get_insert, ih, Report.value_append]

theorem text_of_list (report : Report) (name : String) :
    (ofList report).text? name = report.value? name >>= Value.text? := by
  rw [text?, get_of_list]

theorem int_of_list (report : Report) (name : String) :
    (ofList report).int? name = report.value? name >>= Value.int? := by
  rw [int?, get_of_list]

end Row

/-- One respect in which two drivers may differ about a value of a row, where nothing at all is what
is not reported. White space around a text only counts as such where it is `padded`. -/
inductive Respelled (padded : Bool) : Option Value → Option Value → Prop
  | null : Respelled padded (some .null) none
  | digits (number : Int64) :
      Respelled padded (some (.int number)) (some (.text (Decimal.intText number.toInt)))
  | space (allowed : padded = true) {front back : String} (text : String)
      (frontBlank : ∀ c ∈ front.toList, Text.isBlank c = true)
      (backBlank : ∀ c ∈ back.toList, Text.isBlank c = true) :
      Respelled padded (some (.text text)) (some (.text (front ++ text ++ back)))

def SameValue (padded : Bool) : Option Value → Option Value → Prop :=
  Relation.EqvGen (Respelled padded)

/-- Two reports tell the same of every column, where some columns hold numbers and may be padded. -/
def Report.Same (padded : List String) (left right : Report) : Prop :=
  ∀ column, SameValue (padded.contains (Text.upper column)) (left.value? column)
    (right.value? column)

namespace SameValue

variable {left right : Option Value}

theorem text (same : SameValue false left right) :
    left >>= Value.text? = right >>= Value.text? := by
  induction same with
  | rel left right respelled =>
      cases respelled with
      | null => rfl
      | digits number => rfl
      | space allowed => cases allowed
  | refl value => rfl
  | symm left right _ ih => exact ih.symm
  | trans left between right _ _ first second => exact first.trans second

theorem int {padded : Bool} (same : SameValue padded left right) :
    left >>= Value.int? = right >>= Value.int? := by
  induction same with
  | rel left right respelled =>
      cases respelled with
      | null => rfl
      | digits number =>
          have read : (Value.text (Decimal.intText number.toInt)).int? = some number := by
            rw [Value.int?, Decimal.trim_int_text, Decimal.read_int64_text, Option.map_some,
              Int64.ofInt_toInt]
          simp only [Option.bind_eq_bind, Option.bind_some, read]
          rfl
      | @space _ front back text frontBlank backBlank =>
          have read : (Value.text (front ++ text ++ back)).int? = (Value.text text).int? := by
            rw [Value.int?, Value.int?, String.toList_append, String.toList_append,
              Text.trim_chars_around frontBlank backBlank]
          simp only [Option.bind_eq_bind, Option.bind_some, read]
  | refl value => rfl
  | symm left right _ ih => exact ih.symm
  | trans left between right _ _ first second => exact first.trans second

end SameValue

namespace Report.Same

variable {padded : List String} {left right : Report}

theorem text (same : left.Same padded right) {column : String}
    (plain : Text.upper column ∉ padded) :
    (Row.ofList left).text? column = (Row.ofList right).text? column := by
  have values := same column
  rw [List.contains_eq_mem, decide_eq_false plain] at values
  rw [Row.text_of_list, Row.text_of_list, values.text]

theorem int (same : left.Same padded right) (column : String) :
    (Row.ofList left).int? column = (Row.ofList right).int? column := by
  rw [Row.int_of_list, Row.int_of_list, (same column).int]

theorem append (same : left.Same padded right) {column other : String} {value held : Value}
    (name : Text.upper column = Text.upper other)
    (values : SameValue (padded.contains (Text.upper column)) (some value) (some held)) :
    Report.Same padded (left ++ [(column, value)]) (right ++ [(other, held)]) := by
  intro queried
  rw [Report.value_append, Report.value_append, ← name]
  by_cases own : Text.upper queried = Text.upper column
  · rw [if_pos own, if_pos own, own]
    exact values
  · rw [if_neg own, if_neg own]
    exact same queried

theorem append_null (same : left.Same padded right) {column : String}
    (absent : right.value? column = none) :
    Report.Same padded (left ++ [(column, .null)]) right := by
  intro queried
  rw [Report.value_append]
  by_cases own : Text.upper queried = Text.upper column
  · have nothing : right.value? queried = none := by rwa [Report.value?, own, ← Report.value?]
    rw [if_pos own, nothing]
    exact .rel _ _ .null
  · rw [if_neg own]
    exact same queried

end Report.Same

end SchemaBlueprint.Catalog
