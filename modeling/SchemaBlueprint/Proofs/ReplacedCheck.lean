import SchemaBlueprint.Proofs.Compilation
import SchemaBlueprint.Proofs.Spelling

/-!
The check that holds a column to its values, as the column's definition declares it and as it is
replaced later. A definition is one without a check and the clause behind it. What replaces the
check drops and declares it under the name of that clause, in whatever spelling the column is given.
-/

namespace SchemaBlueprint

set_option autoImplicit false

theorem Text.part_of_intercalate (separator : String) {texts : List String} {text : String}
    (member : text ∈ texts) :
    ∃ front back, separator.intercalate texts = front ++ text ++ back := by
  induction texts with
  | nil => cases member
  | cons head rest ih =>
      cases rest with
      | nil =>
          rw [List.mem_singleton.mp member]
          exact ⟨"", "", by simp⟩
      | cons next later =>
          rw [String.intercalate_cons_cons]
          rcases List.mem_cons.mp member with rfl | below
          · exact ⟨"", separator ++ separator.intercalate (next :: later), by
              simp [String.append_assoc]⟩
          · obtain ⟨front, back, whole⟩ := ih below
            refine ⟨head ++ separator ++ front, back, ?_⟩
            rw [whole]
            simp only [String.append_assoc]

theorem Text.append_glued {first second joined : String} (glued : first ++ second = joined)
    (rest : String) : first ++ (second ++ rest) = joined ++ rest := by
  rw [← String.append_assoc, glued]

def Column.allowing (column : Column) (values : List String) : Column :=
  { column with allowed := values }

@[simp] theorem Column.allowing_name (column : Column) (values : List String) :
    (column.allowing values).name = column.name := rfl

@[simp] theorem Column.allowing_nullable (column : Column) (values : List String) :
    (column.allowing values).nullable = column.nullable := rfl

@[simp] theorem Column.allowing_allowed (column : Column) (values : List String) :
    (column.allowing values).allowed = values := rfl

namespace Grammar

open Text Outcome

variable {grammar : Grammar} {blueprint : Blueprint} {column : Column}

def checkClause (grammar : Grammar) (table column : String) (values : List String) : String :=
  "constraint " ++ grammar.enumConstraint table column ++ " " ++ grammar.enumCheck column values

def checkTail (grammar : Grammar) (table column : String) (values : List String) : String :=
  if values.isEmpty then "" else " " ++ grammar.checkClause table column values

theorem check_tail_of_restricted {table name : String} {values : List String}
    (restricted : values ≠ []) :
    grammar.checkTail table name values = " " ++ grammar.checkClause table name values := by
  rw [checkTail, if_neg (by simpa using restricted)]

theorem render_column_allowing (table : String) (values : List String) (type : String)
    (value : Option DefaultValue) :
    grammar.renderColumn table (column.allowing values) type value =
      grammar.renderColumn table (column.allowing []) type value ++
        grammar.checkTail table column.name values := by
  have counts : incrementClause (column.allowing values) = incrementClause (column.allowing []) :=
    rfl
  have opening := append_glued (show " " ++ "constraint " = " constraint " from rfl)
  rw [renderColumn, renderColumn, counts]
  cases values with
  | nil => simp [checkTail]
  | cons first rest =>
      simp only [nullClause, checkTail, checkClause, Column.allowing_allowed, Column.allowing_name,
        List.isEmpty_cons, List.isEmpty_nil, Bool.false_eq_true, if_true, if_false,
        String.append_assoc, String.append_empty, opening]
      rfl

theorem rendered_allowing (value : String → Option DefaultValue) (values : List String) :
    (do let type ← grammar.storageType (column.allowing values)
        return grammar.renderColumn blueprint.table (column.allowing values) type (value type)) =
      (do let type ← grammar.storageType (column.allowing [])
          return grammar.renderColumn blueprint.table (column.allowing []) type (value type)).map
        (· ++ grammar.checkTail blueprint.table column.name values) := by
  have stored : grammar.storageType (column.allowing values) =
      grammar.storageType (column.allowing []) := rfl
  rw [stored]
  cases grammar.storageType (column.allowing []) with
  | error fault => rfl
  | ok type => exact congrArg Except.ok (render_column_allowing blueprint.table values type _)

theorem column_definition_allowing (values : List String) :
    grammar.columnDefinition blueprint (column.allowing values) =
      (grammar.columnDefinition blueprint (column.allowing [])).map
        (· ++ grammar.checkTail blueprint.table column.name values) :=
  rendered_allowing (grammar.effectiveDefault blueprint column) values

theorem change_definition_allowing (values : List String) :
    grammar.changeDefinition blueprint (column.allowing values) =
      (grammar.changeDefinition blueprint (column.allowing [])).map
        (· ++ grammar.checkTail blueprint.table column.name values) :=
  rendered_allowing (fun _ => column.defaultValue) values

def Declares (definition : Except SchemaError String) (clause statement : String) : Prop :=
  ∃ front plain back, definition = .ok plain ∧
    statement = front ++ (plain ++ " " ++ clause) ++ back

theorem declares_of_part {definition : Except SchemaError String} {values : List String}
    {table name written statement : String} (restricted : values ≠ [])
    (defined : definition.map (· ++ grammar.checkTail table name values) = .ok written)
    (part : ∃ front back, statement = front ++ written ++ back) :
    Declares definition (grammar.checkClause table name values) statement := by
  obtain ⟨front, back, rfl⟩ := part
  rw [check_tail_of_restricted restricted] at defined
  cases definition with
  | error fault => cases defined
  | ok plain =>
      have same : plain ++ (" " ++ grammar.checkClause table name values) = written :=
        Except.ok.inj defined
      rw [← String.append_assoc] at same
      exact ⟨front, plain, back, rfl, by rw [same]⟩

theorem create_text_holds {definitions : List String} {definition : String}
    (inside : definition ∈ definitions) (table : String) (clauses : List String) :
    ∃ front back, grammar.createText table definitions clauses = front ++ definition ++ back := by
  obtain ⟨front, back, whole⟩ := part_of_intercalate ", " inside
  refine ⟨"create table " ++ grammar.wrapTable table ++ " ( " ++ front,
    back ++ String.join (clauses.map (", " ++ ·)) ++ " )", ?_⟩
  unfold createText
  simp only [whole, String.append_assoc]

theorem create_statement_holds {statement : String} (member : column ∈ blueprint.addedColumns)
    (written : grammar.createStatement blueprint = .ok statement) :
    ∃ definition, grammar.columnDefinition blueprint column = .ok definition ∧
      ∃ front back, statement = front ++ definition ++ back := by
  obtain ⟨definitions, defined, _, rfl⟩ := create_statement_eq_ok_iff.mp written
  obtain ⟨definition, inside, wrote⟩ := exists_right defined member
  exact ⟨definition, wrote, create_text_holds inside _ _⟩

theorem add_statement_holds {given statement : String}
    (found : blueprint.column? given = some column)
    (written : grammar.addStatement blueprint given = .ok statement) :
    ∃ definition, grammar.columnDefinition blueprint column = .ok definition ∧
      ∃ front back, statement = front ++ definition ++ back := by
  obtain ⟨own, type, foundOwn, stored, rfl⟩ := add_statement_eq_ok_iff.mp written
  obtain rfl := Option.some_inj.mp (found.symm.trans foundOwn)
  exact ⟨_, column_definition_eq_ok_iff.mpr ⟨type, stored, rfl⟩, _, _, rfl⟩

theorem change_statement_holds {given statement : String}
    (found : blueprint.column? given = some column)
    (written : grammar.changeStatement blueprint given = .ok statement) :
    ∃ definition, grammar.changeDefinition blueprint column = .ok definition ∧
      ∃ front back, statement = front ++ definition ++ back := by
  obtain ⟨own, type, foundOwn, stored, rfl⟩ := change_statement_eq_ok_iff.mp written
  obtain rfl := Option.some_inj.mp (found.symm.trans foundOwn)
  exact ⟨_, change_definition_eq_ok_iff.mpr ⟨type, stored, rfl⟩, _, "", by rw [String.append_empty]⟩

theorem update_enum_statements (grammar : Grammar) (blueprint : Blueprint) (values : List String)
    {name : String} (alike : SpelledAlike name column.name) :
    grammar.updateEnumStatements blueprint.table name values =
      ["alter table " ++ grammar.wrapTable blueprint.table ++ " drop constraint " ++
          grammar.enumConstraint blueprint.table column.name,
        "alter table " ++ grammar.wrapTable blueprint.table ++ " add constraint " ++
          grammar.enumConstraint blueprint.table column.name ++ " " ++
          grammar.enumCheck name values] := by
  rw [updateEnumStatements, grammar.enum_constraint_eq_of_alike blueprint.table alike]

/-- The check that is replaced is the one that was declared: both statements name the constraint
that the definition of the column names wherever it is written, whatever the spelling of the column.
In the column's own spelling the clause that is put back is the one that a definition over the same
values ends in. -/
theorem replaced_check_is_declared (grammar : Grammar) (blueprint : Blueprint) (column : Column)
    (name : String) (restricted : column.allowed ≠ [])
    (named : sameName name column.name = true) :
    let table := grammar.wrapTable blueprint.table
    let constraint := grammar.enumConstraint blueprint.table column.name
    let created := grammar.columnDefinition blueprint (column.allowing [])
    let changed := grammar.changeDefinition blueprint (column.allowing [])
    let clause := "constraint " ++ constraint ++ " " ++
      grammar.enumCheck column.name column.allowed
    (∀ values, grammar.compile blueprint (.updateEnum name values) =
      .ok ["alter table " ++ table ++ " drop constraint " ++ constraint,
        "alter table " ++ table ++ " add constraint " ++ constraint ++ " " ++
          grammar.enumCheck name values]) ∧
    (∀ statement, column ∈ blueprint.addedColumns →
      grammar.createStatement blueprint = .ok statement → Declares created clause statement) ∧
    (∀ given statement, blueprint.column? given = some column →
      grammar.addStatement blueprint given = .ok statement → Declares created clause statement) ∧
    (∀ given statement, blueprint.column? given = some column →
      grammar.changeStatement blueprint given = .ok statement →
        Declares changed clause statement) ∧
    ∀ values,
      grammar.compile blueprint (.updateEnum column.name values) =
        .ok ["alter table " ++ table ++ " drop constraint " ++ constraint,
          "alter table " ++ table ++ " add " ++
            grammar.checkClause blueprint.table column.name values] ∧
      grammar.columnDefinition blueprint (column.allowing values) =
        created.map (· ++ grammar.checkTail blueprint.table column.name values) ∧
      grammar.changeDefinition blueprint (column.allowing values) =
        changed.map (· ++ grammar.checkTail blueprint.table column.name values) := by
  intro table constraint created changed clause
  have alike : SpelledAlike name column.name := (sameName_iff name column.name).mp named
  -- The column is the one that is held to its own values.
  have createdTail : grammar.columnDefinition blueprint column = _ :=
    column_definition_allowing column.allowed
  have changedTail : grammar.changeDefinition blueprint column = _ :=
    change_definition_allowing column.allowed
  refine ⟨fun values => ?_, ?_, ?_, ?_, fun values => ⟨?_, ?_, ?_⟩⟩
  · exact congrArg Except.ok (update_enum_statements grammar blueprint values alike)
  · intro statement member written
    obtain ⟨definition, defined, part⟩ := create_statement_holds member written
    exact declares_of_part restricted (createdTail ▸ defined) part
  · intro given statement found written
    obtain ⟨definition, defined, part⟩ := add_statement_holds found written
    exact declares_of_part restricted (createdTail ▸ defined) part
  · intro given statement found written
    obtain ⟨definition, defined, part⟩ := change_statement_holds found written
    exact declares_of_part restricted (changedTail ▸ defined) part
  · have opening := append_glued (show " add " ++ "constraint " = " add constraint " from rfl)
    have statements := update_enum_statements grammar blueprint values (.refl column.name)
    refine congrArg Except.ok (statements.trans ?_)
    simp only [checkClause, String.append_assoc, opening]
    rfl
  · exact column_definition_allowing values
  · exact change_definition_allowing values

def prefixedGrammar : Grammar :=
  { settings := { schemaPrefix := "shop", tablePrefix := "T_" }, policy := .ofWords ["user"] }

def sizeColumn : Column := { name := "user.Größe", type := .enum, allowed := ["s", "it's"] }

def sizedOrders : Blueprint := { table := "Orders", columns := [sizeColumn] }

theorem replaced_check_is_declared_size :
    sizeColumn.allowed ≠ [] ∧ sameName "USER.GRößE" sizeColumn.name = true ∧
      prefixedGrammar.compile sizedOrders (.updateEnum "USER.GRößE" ["xl"]) =
        .ok ["alter table shop.T_Orders drop constraint t_orders_user.größe_enum",
          "alter table shop.T_Orders add constraint t_orders_user.größe_enum check (\"USER\".GRößE in ('xl'))"] ∧
      Declares (prefixedGrammar.columnDefinition sizedOrders (sizeColumn.allowing []))
        "constraint t_orders_user.größe_enum check (\"USER\".Größe in ('s', 'it''s'))"
        "alter table shop.T_Orders add \"USER\".Größe varchar2(255 char) null constraint t_orders_user.größe_enum check (\"USER\".Größe in ('s', 'it''s'))" := by
  have restricted : sizeColumn.allowed ≠ [] := by decide
  have named : sameName "USER.GRößE" sizeColumn.name = true := by decide
  obtain ⟨replaced, _, added, _⟩ :=
    replaced_check_is_declared prefixedGrammar sizedOrders sizeColumn "USER.GRößE" restricted named
  refine ⟨restricted, named, (replaced ["xl"]).trans ?_, ?_⟩
  · decide +kernel
  · have written := added "USER.GRößE"
      "alter table shop.T_Orders add \"USER\".Größe varchar2(255 char) null constraint t_orders_user.größe_enum check (\"USER\".Größe in ('s', 'it''s'))"
      rfl (by decide +kernel)
    have clause : "constraint " ++ prefixedGrammar.enumConstraint sizedOrders.table sizeColumn.name ++
        " " ++ prefixedGrammar.enumCheck sizeColumn.name sizeColumn.allowed =
          "constraint t_orders_user.größe_enum check (\"USER\".Größe in ('s', 'it''s'))" := by
      decide +kernel
    rwa [clause] at written

end Grammar

end SchemaBlueprint
