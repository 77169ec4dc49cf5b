import SchemaBlueprint.Catalog.Reader
import SchemaBlueprint.Connection.Scripted
import SchemaBlueprint.Proofs.Execution
import SchemaBlueprint.Proofs.ReportedRow

/-!
Listings of the catalog do not depend on the driver. Each field of a record is read either as a text
or as a number, and the fields that are read as numbers are the ones that a driver may pad. A table
is listed with one record for every row or not at all.
-/

namespace SchemaBlueprint.Catalog

set_option autoImplicit false

variable {σ τ : Type}

def numberColumns : List String := ["DATA_LENGTH", "DATA_PRECISION", "DATA_SCALE", "COLUMN_ID"]

theorem column_of_same (types : TypeRegistry) (position : Nat) {left right : Report}
    (same : left.Same numberColumns right) :
    columnOfRow types position (Row.ofList left) = columnOfRow types position (Row.ofList right) := by
  have name := same.text (show Text.upper "COLUMN_NAME" ∉ numberColumns by decide +kernel)
  have type := same.text (show Text.upper "DATA_TYPE" ∉ numberColumns by decide +kernel)
  have nullable := same.text (show Text.upper "NULLABLE" ∉ numberColumns by decide +kernel)
  have default := same.text (show Text.upper "DATA_DEFAULT" ∉ numberColumns by decide +kernel)
  simp only [columnOfRow, requireText, name, type, nullable, default, same.int]

theorem columns_of_same (types : TypeRegistry) (position : Nat) {left right : List Report}
    (same : List.Forall₂ (Report.Same numberColumns) left right) :
    columnsOfRows types position (left.map Row.ofList) =
      columnsOfRows types position (right.map Row.ofList) := by
  induction same generalizing position with
  | nil => rfl
  | cons head _ ih =>
      rw [List.map_cons, List.map_cons, columnsOfRows, columnsOfRows, column_of_same _ _ head, ih]

theorem index_of_same {left right : Report} (same : left.Same [] right) :
    indexOfRow (Row.ofList left) = indexOfRow (Row.ofList right) := by
  simp only [indexOfRow, requireText, same.text List.not_mem_nil]

theorem table_of_same {left right : Report} (same : left.Same [] right) :
    tableOfRow (Row.ofList left) = tableOfRow (Row.ofList right) := by
  simp only [tableOfRow, requireText, same.text List.not_mem_nil]

theorem mapM_of_same {α : Type} {padded : List String} {read : Row → Except SchemaError α}
    (each : ∀ {left right : Report}, left.Same padded right →
      read (Row.ofList left) = read (Row.ofList right))
    {left right : List Report} (same : List.Forall₂ (Report.Same padded) left right) :
    (left.map Row.ofList).mapM read = (right.map Row.ofList).mapM read := by
  induction same with
  | nil => rfl
  | cons head _ ih => rw [List.map_cons, List.map_cons, List.mapM_cons, List.mapM_cons, each head, ih]

def Report.Named (report : Report) : Prop :=
  ∃ name, report.value? "COLUMN_NAME" = some name ∧ name.isNull = false

def namelessColumn : SchemaError := .database "catalog row has no COLUMN_NAME" columnsQuery

/-- One record for every report, in the order of the reports, the first of which is at `position`. A
record that has no number in the catalog is numbered by its position. -/
def ListsInOrder (types : TypeRegistry) (position : Nat) (reports : List Report)
    (records : List ColumnInfo) : Prop :=
  List.Forall₂ (fun row record =>
      columnOfRow types row.2 (Row.ofList row.1) = .ok record ∧
      record.ordinal = (row.1.value? "COLUMN_ID" >>= Value.int?).getD (Int64.ofNat row.2))
    (reports.zipIdx position) records

theorem column_of_report_cases (types : TypeRegistry) (position : Nat) (report : Report) :
    (report.Named ∧ ∃ record, columnOfRow types position (Row.ofList report) = .ok record ∧
      record.ordinal = (report.value? "COLUMN_ID" >>= Value.int?).getD (Int64.ofNat position)) ∨
    (¬ report.Named ∧ columnOfRow types position (Row.ofList report) = .error namelessColumn) := by
  have text := Row.text_of_list report "COLUMN_NAME"
  have number := Row.int_of_list report "COLUMN_ID"
  simp only [columnOfRow, requireText, text, number, Report.Named]
  cases report.value? "COLUMN_NAME" with
  | none => exact .inr ⟨by simp, rfl⟩
  | some value =>
      cases value with
      | null => exact .inr ⟨by simp [Value.isNull], rfl⟩
      | _ => exact .inl ⟨⟨_, rfl, rfl⟩, _, rfl, rfl⟩

theorem columns_of_reports_cases (types : TypeRegistry) (position : Nat) (reports : List Report) :
    ((∀ report ∈ reports, report.Named) ∧ ∃ records,
      columnsOfRows types position (reports.map Row.ofList) = .ok records ∧
      ListsInOrder types position reports records) ∨
    ((∃ report ∈ reports, ¬ report.Named) ∧
      columnsOfRows types position (reports.map Row.ofList) = .error namelessColumn) := by
  induction reports generalizing position with
  | nil => exact .inl ⟨fun _ member => absurd member List.not_mem_nil, [], rfl, .nil⟩
  | cons report rest ih =>
      rw [List.map_cons, columnsOfRows]
      obtain ⟨named, record, read, numbered⟩ | ⟨nameless, failed⟩ :=
        column_of_report_cases types position report
      · obtain ⟨others, records, all, listed⟩ | ⟨⟨other, there, nameless⟩, failed⟩ :=
          ih (position + 1)
        · left
          refine ⟨List.forall_mem_cons.mpr ⟨named, others⟩, record :: records, ?_, ?_⟩
          · rw [read, all]
            rfl
          · exact .cons ⟨read, numbered⟩ listed
        · right
          refine ⟨⟨other, List.mem_cons_of_mem _ there, nameless⟩, ?_⟩
          rw [read, failed]
          rfl
      · right
        refine ⟨⟨report, List.mem_cons_self, nameless⟩, ?_⟩
        rw [failed]
        rfl

def Answers (connection : Connection σ) (state : σ) (query : String) (parameters : List String)
    (reports : List Report) : Prop :=
  (play (connection.select query parameters) state).1 = .ok (reports.map Row.ofList)

theorem result_of_answer {α : Type} {connection : Connection σ} {state : σ} {query : String}
    {parameters : List String} {reports : List Report}
    (answers : Answers connection state query parameters reports)
    {next : List Row → Session σ α} {result : Except SchemaError α}
    (settled : ∀ after, (play (next (reports.map Row.ofList)) after).1 = result) :
    (play (connection.select query parameters >>= next) state).1 = result := by
  unfold Answers at answers
  rw [play_bind]
  cases answer : play (connection.select query parameters) state with
  | mk outcome after =>
      rw [answer] at answers
      cases answers
      exact settled after

namespace Reader

variable {reader : Reader σ} {state : σ} {reports : List Report}

theorem result_of_columns {table : String}
    (answers : Answers reader.connection state columnsQuery [reader.owner, Text.upper table]
      reports) :
    (play (reader.columns table) state).1 =
      (columnsOfRows reader.types 1 (reports.map Row.ofList)).map TableColumns.mk := by
  refine result_of_answer answers fun after => ?_
  rw [play_bind, play_lift]
  cases columnsOfRows reader.types 1 (reports.map Row.ofList) <;> rfl

theorem result_of_indexes {table : String}
    (answers : Answers reader.connection state indexesQuery [reader.owner, Text.upper table]
      reports) :
    (play (reader.indexes table) state).1 = (reports.map Row.ofList).mapM indexOfRow :=
  result_of_answer answers fun _ => rfl

theorem result_of_tables
    (answers : Answers reader.connection state tablesQuery [reader.owner] reports) :
    (play reader.tables state).1 = (reports.map Row.ofList).mapM tableOfRow :=
  result_of_answer answers fun _ => rfl

/-- Readers of the same catalog list the same when their drivers report the same up to what drivers
may differ about. Columns are listed with one record for every row, in the order of the rows, just
when every row names its column; otherwise the listing fails. -/
theorem listings_independent_of_driver (owner : String) (types : TypeRegistry)
    (left : Connection σ) (right : Connection τ) (before : σ) (start : τ) :
    let here : Reader σ := ⟨left, owner, types⟩
    let there : Reader τ := ⟨right, owner, types⟩
    (∀ table reports others,
      Answers left before columnsQuery [owner, Text.upper table] reports →
      Answers right start columnsQuery [owner, Text.upper table] others →
      List.Forall₂ (Report.Same numberColumns) reports others →
      (play (here.columns table) before).1 = (play (there.columns table) start).1) ∧
    (∀ table reports others,
      Answers left before indexesQuery [owner, Text.upper table] reports →
      Answers right start indexesQuery [owner, Text.upper table] others →
      List.Forall₂ (Report.Same []) reports others →
      (play (here.indexes table) before).1 = (play (there.indexes table) start).1) ∧
    (∀ reports others,
      Answers left before tablesQuery [owner] reports →
      Answers right start tablesQuery [owner] others →
      List.Forall₂ (Report.Same []) reports others →
      (play here.tables before).1 = (play there.tables start).1) ∧
    ∀ table reports, Answers left before columnsQuery [owner, Text.upper table] reports →
      ((∃ listing, (play (here.columns table) before).1 = .ok listing ∧
        ListsInOrder types 1 reports listing.columns) ↔ ∀ report ∈ reports, report.Named) ∧
      ((∃ report ∈ reports, ¬ report.Named) →
        (play (here.columns table) before).1 = .error namelessColumn) := by
  dsimp only
  refine ⟨?_, ?_, ?_, ?_⟩
  · intro table reports others answered answeredToo same
    rw [result_of_columns answered, result_of_columns answeredToo, columns_of_same _ _ same]
  · intro table reports others answered answeredToo same
    rw [result_of_indexes answered, result_of_indexes answeredToo,
      mapM_of_same index_of_same same]
  · intro reports others answered answeredToo same
    rw [result_of_tables answered, result_of_tables answeredToo, mapM_of_same table_of_same same]
  · intro table reports answered
    rw [result_of_columns answered]
    obtain ⟨named, records, all, listed⟩ | ⟨⟨report, there, nameless⟩, failed⟩ :=
      columns_of_reports_cases types 1 reports
    · rw [all]
      exact ⟨⟨fun _ => named, fun _ => ⟨⟨records⟩, rfl, listed⟩⟩,
        fun ⟨report, there, nameless⟩ => absurd (named report there) nameless⟩
    · rw [failed]
      refine ⟨⟨?_, fun named => absurd (named report there) nameless⟩, fun _ => rfl⟩
      rintro ⟨listing, listed, _⟩
      cases listed

def typedReport : Report :=
  [("COLUMN_NAME", .text "AMOUNT"), ("DATA_LENGTH", .int 4), ("DATA_SCALE", .null)]

def textualReport : Report := [("column_name", .text "AMOUNT"), ("Data_Length", .text " 4 ")]

theorem typed_report_same : typedReport.Same numberColumns textualReport := by
  have padded : " " ++ Decimal.intText (4 : Int64).toInt ++ " " = " 4 " := by decide +kernel
  have blank : ∀ c ∈ " ".toList, Text.isBlank c = true := List.all_eq_true.mp (by decide)
  have length : SameValue true (some (.int 4)) (some (.text " 4 ")) :=
    padded ▸ .trans _ _ _ (.rel _ _ (.digits 4)) (.rel _ _ (.space rfl _ blank blank))
  have nothing : Report.Same numberColumns [] [] := fun _ => .refl _
  have named : Report.Same numberColumns [("COLUMN_NAME", .text "AMOUNT")]
      [("column_name", .text "AMOUNT")] :=
    nothing.append (by decide +kernel) (.refl _)
  have number : numberColumns.contains (Text.upper "DATA_LENGTH") = true := by decide +kernel
  have measured : Report.Same numberColumns
      [("COLUMN_NAME", .text "AMOUNT"), ("DATA_LENGTH", .int 4)] textualReport :=
    named.append (by decide +kernel) (number ▸ length)
  have unscaled : (textualReport.value? "DATA_SCALE").isNone = true := by decide +kernel
  exact measured.append_null (Option.isNone_iff_eq_none.mp unscaled)

theorem listings_independent_of_driver_amounts :
    let typed : Rehearsal := { answers := [[Row.ofList typedReport]] }
    let textual : Rehearsal := { answers := [[Row.ofList textualReport]] }
    let parameters := ["APP", Text.upper "orders"]
    Answers (scriptedConnection none) typed columnsQuery parameters [typedReport] ∧
    Answers (scriptedConnection none) textual columnsQuery parameters [textualReport] ∧
    List.Forall₂ (Report.Same numberColumns) [typedReport] [textualReport] ∧
    let reader : Reader Rehearsal := { connection := scriptedConnection none, owner := "APP" }
    (play (reader.columns "orders") typed).1 = (play (reader.columns "orders") textual).1 ∧
    ∃ listing, (play (reader.columns "orders") typed).1 = .ok listing ∧
      ListsInOrder TypeRegistry.standard 1 [typedReport] listing.columns := by
  dsimp only
  have same : List.Forall₂ (Report.Same numberColumns) [typedReport] [textualReport] :=
    .cons typed_report_same .nil
  have told : (typedReport.value? "COLUMN_NAME").any (!·.isNull) = true := by decide +kernel
  have named : ∀ report ∈ [typedReport], report.Named := by
    rw [Option.any_eq_true] at told
    simpa [Report.Named] using told
  obtain ⟨columns, _, _, whole⟩ := listings_independent_of_driver "APP" TypeRegistry.standard
    (scriptedConnection none) (scriptedConnection none)
    { answers := [[Row.ofList typedReport]] } { answers := [[Row.ofList textualReport]] }
  exact ⟨rfl, rfl, same, columns "orders" [typedReport] [textualReport] rfl rfl same,
    (whole "orders" [typedReport] rfl).1.mpr named⟩

end Reader

end SchemaBlueprint.Catalog
