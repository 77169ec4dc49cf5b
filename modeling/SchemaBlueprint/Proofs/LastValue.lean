import Mathlib
import SchemaBlueprint.Proofs.ReportedRow

/-!
What a row holds after values have been inserted into it one by one: under each upper-case name the
value that was inserted last, and nothing else. Values whose names differ in upper case may be
inserted in any order. The rows then hold the same, and they are equal unless a value is the double
that is not a number, which equals nothing, itself included.
-/

namespace SchemaBlueprint.Catalog

set_option autoImplicit false

namespace Value

def isNaN : Value → Bool
  | .float number => number.isNaN
  | _ => false

theorem equals_self_iff (value : Value) : value.equals value = true ↔ value.isNaN = false := by
  cases value with
  | float number =>
      rw [equals, isNaN, Float.beq_self_iff, Float.isNaN_eq_decide_eq_nan, decide_eq_false_iff_not]
  | null => simp [equals, isNaN]
  | int number => simp [equals, isNaN]
  | text content => simp [equals, isNaN]

end Value

namespace Report

variable {report other : Report} {name : String} {value : Value}

def names (report : Report) : List String := report.map fun cell => Text.upper cell.1

/-- The value is reported for the column, and no other one is reported for it later. -/
def IsLast (report : Report) (name : String) (value : Value) : Prop :=
  ∃ front column back, report = front ++ (column, value) :: back ∧
    Text.upper column = Text.upper name ∧ ∀ later ∈ back, Text.upper later.1 ≠ Text.upper name

theorem names_append (report : Report) (cell : String × Value) :
    names (report ++ [cell]) = report.names ++ [Text.upper cell.1] := by
  rw [names, names, List.map_append, List.map_singleton]

theorem value_eq_some_iff : report.value? name = some value ↔ report.IsLast name value := by
  rw [value?, Option.map_eq_some_iff, IsLast]
  constructor
  · intro found
    obtain ⟨cell, first, rfl⟩ := found
    obtain ⟨own, back, front, reversed, others⟩ := List.find?_eq_some_iff_append.mp first
    refine ⟨front.reverse, cell.1, back.reverse, ?_, eq_of_beq own, ?_⟩
    · rw [← List.reverse_reverse report, reversed]
      simp
    · intro later member
      have different := others later (List.mem_reverse.mp member)
      simpa using different
  · intro last
    obtain ⟨front, column, back, rfl, own, others⟩ := last
    refine ⟨(column, value), ?_, rfl⟩
    rw [List.find?_eq_some_iff_append]
    refine ⟨beq_iff_eq.mpr own, back.reverse, front.reverse, by simp, ?_⟩
    intro later member
    have different := others later (List.mem_reverse.mp member)
    simpa using different

theorem value_eq_none_iff :
    report.value? name = none ↔ ∀ cell ∈ report, Text.upper cell.1 ≠ Text.upper name := by
  rw [value?, Option.map_eq_none_iff, List.find?_eq_none]
  simp

theorem value_of_distinct (distinct : report.names.Nodup) :
    report.value? name = some value ↔
      ∃ column, (column, value) ∈ report ∧ Text.upper column = Text.upper name := by
  rw [value_eq_some_iff]
  constructor
  · intro last
    obtain ⟨front, column, back, rfl, own, -⟩ := last
    exact ⟨column, by simp, own⟩
  · intro reported
    obtain ⟨column, member, own⟩ := reported
    obtain ⟨front, back, rfl⟩ := List.append_of_mem member
    refine ⟨front, column, back, rfl, own, ?_⟩
    -- A later value of the column would bring its name a second time.
    intro later behind same
    rw [names, List.map_append, List.map_cons] at distinct
    have absent := (List.nodup_cons.mp (List.nodup_append.mp distinct).2.1).1
    apply absent
    rw [own, ← same]
    exact List.mem_map_of_mem behind

theorem names_perm (order : other.Perm report) : other.names.Perm report.names := order.map _

theorem value_of_reordered (order : other.Perm report) (distinct : report.names.Nodup)
    (name : String) : other.value? name = report.value? name := by
  have otherDistinct := (names_perm order).nodup_iff.mpr distinct
  apply Option.ext
  intro value
  rw [value_of_distinct otherDistinct, value_of_distinct distinct]
  simp only [order.mem_iff]

end Report

namespace Row

variable {report other : Report} {row : Row}

/-- The row comes of inserting the values of the report, in their order, into a row without
columns. -/
inductive Inserted : Report → Row → Prop
  | nothing : Inserted [] empty
  | cell {report : Report} {row : Row} (inserted : Inserted report row) (column : String)
      (value : Value) : Inserted (report ++ [(column, value)]) (row.insert column value)

theorem inserted_of_list (report : Report) : Inserted report (ofList report) := by
  induction report using List.reverseRecOn with
  | nil => exact .nothing
  | append_singleton report cell ih =>
      rw [of_list_append]
      exact ih.cell cell.1 cell.2

theorem inserted_iff : Inserted report row ↔ row = ofList report := by
  constructor
  · intro inserted
    induction inserted with
    | nothing => rfl
    | cell _ column value ih => rw [of_list_append, ih]
  · intro same
    subst same
    exact inserted_of_list report

def columns (row : Row) : List String := row.cells.map (·.1)

theorem place_names (name : String) (value : Value) (cells : List (String × Value)) :
    (place name value cells).map (·.1) =
      if name ∈ cells.map (·.1) then cells.map (·.1) else cells.map (·.1) ++ [name] := by
  induction cells with
  | nil => rfl
  | cons cell rest ih =>
      unfold place
      by_cases there : cell.1 = name
      · rw [if_pos there, if_pos (by simp [there])]
        simp [there]
      · rw [if_neg there, List.map_cons, ih]
        have either : name ∈ (cell :: rest).map (·.1) ↔ name ∈ rest.map (·.1) := by
          rw [List.map_cons, List.mem_cons]
          exact or_iff_right (Ne.symm there)
        by_cases later : name ∈ rest.map (·.1)
        · rw [if_pos later, if_pos (either.mpr later), List.map_cons]
        · rw [if_neg later, if_neg (mt either.mp later), List.map_cons, List.cons_append]

theorem columns_insert (row : Row) (column : String) (value : Value) :
    (row.insert column value).columns =
      if Text.upper column ∈ row.columns then row.columns
      else row.columns ++ [Text.upper column] :=
  place_names _ _ _

theorem place_of_absent {name : String} {cells : List (String × Value)}
    (absent : name ∉ cells.map (·.1)) (value : Value) :
    place name value cells = cells ++ [(name, value)] := by
  induction cells with
  | nil => rfl
  | cons cell rest ih =>
      rw [List.map_cons, List.mem_cons, not_or] at absent
      rw [place, if_neg (Ne.symm absent.1), ih absent.2, List.cons_append]

namespace Inserted

theorem columns_distinct (inserted : Inserted report row) : row.columns.Nodup := by
  induction inserted with
  | nothing => exact List.nodup_nil
  | @cell report row _ column value ih =>
      rw [columns_insert]
      split
      · exact ih
      · rename_i absent
        rw [List.nodup_append_comm, List.singleton_append, List.nodup_cons]
        exact ⟨absent, ih⟩

theorem mem_columns_iff (inserted : Inserted report row) (name : String) :
    name ∈ row.columns ↔ name ∈ report.names := by
  induction inserted with
  | nothing => rfl
  | @cell report row _ column value ih =>
      rw [columns_insert, Report.names_append, List.mem_append, ← ih, List.mem_singleton]
      split
      · rename_i there
        constructor
        · exact .inl
        · intro either
          exact either.elim id fun same => same ▸ there
      · rw [List.mem_append, List.mem_singleton]

theorem size_eq (inserted : Inserted report row) : row.size = report.names.toFinset.card := by
  -- The columns are listed once each, so they are as many as there are names in the set of them.
  have same : row.columns.toFinset = report.names.toFinset := by
    apply Finset.ext
    intro name
    rw [List.mem_toFinset, List.mem_toFinset, inserted.mem_columns_iff]
  rw [← same, List.toFinset_card_of_nodup inserted.columns_distinct, columns, List.length_map, size]

theorem is_empty_iff (inserted : Inserted report row) : row.isEmpty = true ↔ report = [] := by
  have columns : row.columns = [] ↔ report.names = [] := by
    rw [List.eq_nil_iff_forall_not_mem, List.eq_nil_iff_forall_not_mem]
    simp only [inserted.mem_columns_iff]
  rw [Row.columns, Report.names, List.map_eq_nil_iff, List.map_eq_nil_iff] at columns
  rw [isEmpty, List.isEmpty_iff, columns]

theorem cells_of_distinct (inserted : Inserted report row) (distinct : report.names.Nodup) :
    row.cells = report.map fun cell => (Text.upper cell.1, cell.2) := by
  induction inserted with
  | nothing => rfl
  | @cell report row earlier column value ih =>
      rw [Report.names_append, List.nodup_append] at distinct
      have absent : Text.upper column ∉ row.columns := by
        rw [earlier.mem_columns_iff]
        intro member
        exact distinct.2.2 _ member _ (List.mem_singleton_self _) rfl
      rw [insert, place_of_absent absent, ih distinct.1, List.map_append, List.map_singleton]

end Inserted

theorem size_of_reordered (order : other.Perm report) :
    (ofList other).size = (ofList report).size := by
  rw [(inserted_of_list other).size_eq, (inserted_of_list report).size_eq,
    List.toFinset_eq_of_perm _ _ (Report.names_perm order)]

theorem get_of_reordered (order : other.Perm report) (distinct : report.names.Nodup)
    (name : String) : (ofList other).get? name = (ofList report).get? name := by
  rw [get_of_list, get_of_list, Report.value_of_reordered order distinct]

theorem equals_of_reordered (order : other.Perm report) (distinct : report.names.Nodup) :
    (ofList other).equals (ofList report) = true ↔ ∀ cell ∈ report, cell.2.isNaN = false := by
  have otherDistinct := (Report.names_perm order).nodup_iff.mpr distinct
  -- So every cell of one row is compared with itself in the other.
  have held : ∀ cell ∈ other, (ofList report).cells.lookup (Text.upper cell.1) = some cell.2 := by
    intro cell member
    have own : (ofList report).get? cell.1 = some cell.2 := by
      rw [get_of_list, Report.value_of_distinct distinct]
      exact ⟨cell.1, order.mem_iff.mp member, rfl⟩
    exact own
  rw [equals, size_of_reordered order, beq_self_eq_true, Bool.true_and,
    (inserted_of_list other).cells_of_distinct otherDistinct, List.all_map, List.all_eq_true]
  constructor
  · intro equal cell member
    have there := order.mem_iff.mpr member
    have own := equal cell there
    simp only [Function.comp_apply, held cell there] at own
    exact cell.2.equals_self_iff.mp own
  · intro numbers cell member
    simp only [Function.comp_apply, held cell member]
    exact cell.2.equals_self_iff.mpr (numbers cell (order.mem_iff.mp member))

/-- A row tells of every column, in whatever case it is asked for, the last value that was inserted
for it, and it has one column for each different name in upper case, however it was put together.
Values under different names may be inserted in any order. Then the rows tell the same, and they are
equal just when none of the values is the double that is not a number. -/
theorem last_inserted_value_held (report : Report) :
    (∀ row, Inserted report row ↔ row = ofList report) ∧
    (∀ name value, (ofList report).get? name = some value ↔ report.IsLast name value) ∧
    (∀ name, (ofList report).get? name = none ↔
      ∀ cell ∈ report, Text.upper cell.1 ≠ Text.upper name) ∧
    (ofList report).size = report.names.toFinset.card ∧
    ((ofList report).isEmpty = true ↔ report = []) ∧
    ∀ other : Report, other.Perm report → report.names.Nodup →
      (∀ name, (ofList other).get? name = (ofList report).get? name) ∧
      ((ofList other).equals (ofList report) = true ↔ ∀ cell ∈ report, cell.2.isNaN = false) := by
  have inserted := inserted_of_list report
  refine ⟨fun row => inserted_iff, ?_, ?_, inserted.size_eq, inserted.is_empty_iff, ?_⟩
  · intro name value
    rw [get_of_list, Report.value_eq_some_iff]
  · intro name
    rw [get_of_list, Report.value_eq_none_iff]
  · intro other order distinct
    exact ⟨get_of_reordered order distinct, equals_of_reordered order distinct⟩

def streetNumbers : Report := [("Straße", .int 5), ("rate", .float 0.5), ("note", .null)]

def streetRenumbered : Report := streetNumbers ++ [("STRASSE", .int 7)]

theorem last_inserted_value_held_streets :
    (streetNumbers.reverse.Perm streetNumbers ∧ streetNumbers.names.Nodup ∧
      (ofList streetNumbers.reverse).get? "strasse" = (ofList streetNumbers).get? "strasse" ∧
      (ofList streetNumbers.reverse).equals (ofList streetNumbers) = true) ∧
    (ofList streetRenumbered).get? "strasse" = some (.int 7) ∧
    (ofList streetRenumbered).size = 3 := by
  have order := streetNumbers.reverse_perm
  have distinct : streetNumbers.names.Nodup := by decide +kernel
  have numbers : ∀ cell ∈ streetNumbers, cell.2.isNaN = false := by decide +kernel
  obtain ⟨-, -, -, -, -, reordered⟩ := last_inserted_value_held streetNumbers
  obtain ⟨same, equal⟩ := reordered _ order distinct
  obtain ⟨-, last, -, size, -⟩ := last_inserted_value_held streetRenumbered
  refine ⟨⟨order, distinct, same "strasse", equal.mpr numbers⟩, ?_, ?_⟩
  · rw [last]
    exact ⟨streetNumbers, "STRASSE", [], rfl, by decide +kernel, by simp⟩
  · rw [size]
    decide +kernel

def unequalAmounts : Report := [("amount", .float (0.0 / 0.0)), ("id", .int 5)]

/-- What is not a number equals nothing, so a row with it is not equal to a row of the same values in
another order. -/
theorem reordered_row_unequal :
    unequalAmounts.names.Nodup ∧ unequalAmounts.reverse.Perm unequalAmounts ∧
      Inserted unequalAmounts (ofList unequalAmounts) ∧
      Inserted unequalAmounts.reverse (ofList unequalAmounts.reverse) ∧
      (ofList unequalAmounts.reverse).equals (ofList unequalAmounts) = false ∧
      (ofList unequalAmounts).equals (ofList unequalAmounts) = false := by
  have distinct : unequalAmounts.names.Nodup := by decide +kernel
  have reordered : (ofList unequalAmounts.reverse).equals (ofList unequalAmounts) = false := by
    decide +kernel
  have itself : (ofList unequalAmounts).equals (ofList unequalAmounts) = false := by
    decide +kernel
  exact ⟨distinct, unequalAmounts.reverse_perm, inserted_of_list _, inserted_of_list _, reordered,
    itself⟩

end Row

end SchemaBlueprint.Catalog
