import Mathlib.Data.List.Find
import SchemaBlueprint.Proofs.CatalogListing
import SchemaBlueprint.Proofs.SmallLetters

/-!
Looking a column up under the name that the catalog reports. Names are listed in full lower case, but
a look-up folds no letters beyond ASCII. So the reported name of a column is found just when its
letters beyond ASCII are small already.
-/

namespace SchemaBlueprint.Catalog

set_option autoImplicit false

open Text (IsSmallBeyondAscii)

variable {σ : Type}

theorem Report.named_of_text {report : Report} {name : String}
    (told : (Row.ofList report).text? "COLUMN_NAME" = some name) : report.Named := by
  rw [Row.text_of_list] at told
  obtain ⟨value, there, text⟩ := Option.bind_eq_some_iff.mp told
  refine ⟨value, there, ?_⟩
  cases value with
  | null => cases text
  | _ => rfl

theorem name_of_column {types : TypeRegistry} {position : Nat} {row : Row} {record : ColumnInfo}
    {name : String} (read : columnOfRow types position row = .ok record)
    (named : row.text? "COLUMN_NAME" = some name) : record.name = Text.lower name := by
  rw [columnOfRow, requireText, named] at read
  cases read
  rfl

theorem names_of_listing {types : TypeRegistry} {position : Nat} {reports : List Report}
    {records : List ColumnInfo} {names : List String}
    (listed : ListsInOrder types position reports records)
    (named : reports.map (fun report => (Row.ofList report).text? "COLUMN_NAME") =
      names.map some) :
    records.map (·.name) = names.map Text.lower := by
  induction reports generalizing position records names with
  | nil =>
      cases listed
      rw [List.map_nil, eq_comm, List.map_eq_nil_iff] at named
      rw [named]
      rfl
  | cons report rest ih =>
      rw [ListsInOrder, List.zipIdx_cons] at listed
      cases listed with
      | cons head later =>
          cases names with
          | nil => cases named
          | cons name more =>
              obtain ⟨own, remaining⟩ := List.cons.inj named
              rw [List.map_cons, List.map_cons, name_of_column head.1 own, ih later remaining]

namespace TableColumns

variable {listing : TableColumns} {names : List String}

theorem get_of_lower_names (listed : listing.names = names.map Text.lower) (asked : String) :
    listing.get? asked =
      if IsSmallBeyondAscii asked then
        listing.columns.find? fun column => column.name == Text.lower asked
      else none := by
  have same : ∀ column ∈ listing.columns,
      Text.sameName column.name asked = true ↔
        IsSmallBeyondAscii asked ∧ column.name = Text.lower asked := by
    intro column member
    have lowered : column.name ∈ names.map Text.lower := listed ▸ List.mem_map_of_mem member
    obtain ⟨name, _, written⟩ := List.mem_map.mp lowered
    rw [← written]
    exact Text.same_name_lower_iff name asked
  split
  · rename_i small
    rw [get?]
    apply List.find?_congr
    intro column member
    rw [Bool.eq_iff_iff, same column member, beq_iff_eq, and_iff_right small]
  · rename_i capital
    rw [get?, List.find?_eq_none]
    exact fun column member found => capital ((same column member).mp found).1

theorem contains_reported_iff (listed : listing.names = names.map Text.lower) {name : String}
    (reported : name ∈ names) : listing.contains name = true ↔ IsSmallBeyondAscii name := by
  rw [contains, get_of_lower_names listed]
  split
  · rename_i small
    have lowered : Text.lower name ∈ listing.names := listed ▸ List.mem_map_of_mem reported
    obtain ⟨column, member, own⟩ := List.mem_map.mp lowered
    rw [List.find?_isSome]
    exact ⟨fun _ => small, fun _ => ⟨column, member, beq_iff_eq.mpr own⟩⟩
  · rename_i capital
    simp [capital]

theorem get_at_position (listed : listing.names = names.map Text.lower) {position : Nat}
    {name : String} (there : names[position]? = some name) (small : IsSmallBeyondAscii name)
    (different : (names.map Text.lower).Nodup) :
    ∃ record, listing.columns[position]? = some record ∧ listing.get? name = some record := by
  have own : listing.names[position]? = some (Text.lower name) := by
    rw [listed, List.getElem?_map, there, Option.map_some]
  have placed := own
  rw [TableColumns.names, List.getElem?_map, Option.map_eq_some_iff] at placed
  obtain ⟨record, placed, called⟩ := placed
  refine ⟨record, placed, ?_⟩
  obtain ⟨inside, here⟩ := List.getElem?_eq_some_iff.mp placed
  rw [get_of_lower_names listed, if_pos small, List.find?_eq_some_iff_getElem]
  refine ⟨beq_iff_eq.mpr called, position, inside, here, ?_⟩
  intro earlier before
  rw [Bool.not_eq_true', beq_eq_false_iff_ne]
  intro alike
  -- An earlier column of that name would repeat it in the listing.
  have present : earlier < listing.columns.length := Nat.lt_trans before inside
  have repeated : listing.names[earlier]? = listing.names[position]? := by
    rw [own, TableColumns.names, List.getElem?_map, List.getElem?_eq_getElem present,
      Option.map_some, alike]
  have known : earlier < listing.names.length := by
    rwa [TableColumns.names, List.length_map]
  exact Nat.ne_of_lt before ((List.getElem?_inj known (listed ▸ different)).mp repeated)

end TableColumns

namespace Reader

/-- A table is listed with a record for every row, and a column is looked up in this listing. The
name that a row reports finds a record just when its letters beyond ASCII are small, and then the
record of that row when no two names coincide in lower case. -/
theorem reported_name_finds_column_iff (reader : Reader σ) (state : σ) (table : String)
    (reports : List Report) (names : List String)
    (answers : Answers reader.connection state columnsQuery [reader.owner, Text.upper table] reports)
    (named : reports.map (fun report => (Row.ofList report).text? "COLUMN_NAME") =
      names.map some) :
    ∃ listing, (play (reader.columns table) state).1 = .ok listing ∧
      ListsInOrder reader.types 1 reports listing.columns ∧
      (∀ asked, (play (reader.column? table asked) state).1 = .ok (listing.get? asked)) ∧
      ∀ (position : Nat) (name : String), names[position]? = some name →
        ((∃ record, listing.get? name = some record) ↔ IsSmallBeyondAscii name) ∧
        (listing.contains name = true ↔ IsSmallBeyondAscii name) ∧
        (IsSmallBeyondAscii name → (names.map Text.lower).Nodup →
          ∃ record, listing.columns[position]? = some record ∧
            listing.get? name = some record) := by
  have all_named : ∀ report ∈ reports, report.Named := by
    intro report member
    have told := List.mem_map_of_mem (f := fun report => (Row.ofList report).text? "COLUMN_NAME")
      member
    rw [named] at told
    obtain ⟨name, _, text⟩ := List.mem_map.mp told
    exact Report.named_of_text text.symm
  obtain ⟨_, records, all, listed⟩ | ⟨⟨report, there, nameless⟩, _⟩ :=
    columns_of_reports_cases reader.types 1 reports
  · have lowered : (TableColumns.mk records).names = names.map Text.lower :=
      names_of_listing listed named
    have read : (play (reader.columns table) state).1 = .ok ⟨records⟩ := by
      rw [result_of_columns answers, all]
      rfl
    refine ⟨⟨records⟩, read, listed, ?_, ?_⟩
    · intro asked
      rw [column?, play_bind]
      cases played : play (reader.columns table) state with
      | mk outcome after =>
          rw [played] at read
          cases read
          rfl
    · intro position name there
      have reported : name ∈ names := List.mem_of_getElem? there
      have contained := TableColumns.contains_reported_iff lowered reported
      refine ⟨?_, contained, TableColumns.get_at_position lowered there⟩
      rw [← contained, TableColumns.contains, Option.isSome_iff_exists]
  · exact absurd (all_named report there) nameless

def accentedReports : List Report :=
  [[("COLUMN_NAME", .text "ID")], [("column_name", .text "größe")], [("COLUMN_NAME", .text "ÉTAT")]]

theorem reported_name_finds_column_iff_accented :
    let reader : Reader Rehearsal := { connection := scriptedConnection none, owner := "APP" }
    let state : Rehearsal := { answers := [accentedReports.map Row.ofList] }
    let names := ["ID", "größe", "ÉTAT"]
    Answers reader.connection state columnsQuery ["APP", Text.upper "t"] accentedReports ∧
    accentedReports.map (fun report => (Row.ofList report).text? "COLUMN_NAME") =
      names.map some ∧
    (names.map Text.lower).Nodup ∧
    ∃ listing, (play (reader.columns "t") state).1 = .ok listing ∧
      (∃ first, listing.columns[0]? = some first ∧
        (play (reader.column? "t" "ID") state).1 = .ok (some first)) ∧
      (∃ second, listing.columns[1]? = some second ∧
        (play (reader.column? "t" "größe") state).1 = .ok (some second)) ∧
      (play (reader.column? "t" "ÉTAT") state).1 = .ok none := by
  intro reader state names
  have answers : Answers reader.connection state columnsQuery ["APP", Text.upper "t"]
      accentedReports := rfl
  have named : accentedReports.map (fun report => (Row.ofList report).text? "COLUMN_NAME") =
      names.map some := by decide +kernel
  have different : (names.map Text.lower).Nodup := by decide +kernel
  refine ⟨answers, named, different, ?_⟩
  obtain ⟨listing, listed, _, asked, found⟩ :=
    reported_name_finds_column_iff reader state "t" accentedReports names answers named
  refine ⟨listing, listed, ?_, ?_, ?_⟩
  · obtain ⟨first, placed, own⟩ := (found 0 "ID" rfl).2.2 (by decide +kernel) different
    exact ⟨first, placed, own ▸ asked "ID"⟩
  · obtain ⟨second, placed, own⟩ := (found 1 "größe" rfl).2.2 (by decide +kernel) different
    exact ⟨second, placed, own ▸ asked "größe"⟩
  · have capital : ¬ IsSmallBeyondAscii "ÉTAT" := by decide +kernel
    rw [← (found 2 "ÉTAT" rfl).1, ← Option.isSome_iff_exists, Option.not_isSome_iff_eq_none]
      at capital
    exact capital ▸ asked "ÉTAT"

/-- The only column of a table is not found under the name that the catalog reports for it, though it
is listed. -/
theorem capital_name_finds_no_column :
    let reader : Reader Rehearsal := { connection := scriptedConnection none, owner := "APP" }
    let state : Rehearsal :=
      { answers := [[Row.ofList [("COLUMN_NAME", .text "ÉTAT")]]] }
    ((play (reader.columns "t") state).1.toOption.map TableColumns.names) = some ["état"] ∧
      ((play (reader.columns "t") state).1.toOption.map fun listing => listing.contains "ÉTAT") =
        some false ∧
      ((play (reader.column? "t" "ÉTAT") state).1.toOption.map Option.isNone) = some true := by
  decide +kernel

end Reader

end SchemaBlueprint.Catalog
