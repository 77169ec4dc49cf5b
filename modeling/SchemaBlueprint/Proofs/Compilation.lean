import SchemaBlueprint.Grammar.Statement
import SchemaBlueprint.Proofs.Outcome
import SchemaBlueprint.Proofs.Resolution

/-!
Compiling a blueprint: what it leaves behind, when it succeeds and what its statements are.
-/

namespace SchemaBlueprint.Grammar

set_option autoImplicit false

open Outcome

variable {grammar : Grammar} {blueprint : Blueprint}

theorem column_definition_eq_ok_iff {column : Column} {definition : String} :
    grammar.columnDefinition blueprint column = .ok definition ↔
      ∃ type, grammar.storageType column = .ok type ∧ definition =
        grammar.renderColumn blueprint.table column type
          (grammar.effectiveDefault blueprint column type) :=
  bind_pure_eq_ok_iff

theorem change_definition_eq_ok_iff {column : Column} {definition : String} :
    grammar.changeDefinition blueprint column = .ok definition ↔
      ∃ type, grammar.storageType column = .ok type ∧ definition =
        grammar.renderColumn blueprint.table column type column.defaultValue :=
  bind_pure_eq_ok_iff

theorem require_column_eq_ok_iff {name : String} {column : Column} :
    requireColumn blueprint name = .ok column ↔ blueprint.column? name = some column := by
  unfold requireColumn
  cases blueprint.column? name <;> simp

theorem add_statement_eq_ok_iff {name statement : String} :
    grammar.addStatement blueprint name = .ok statement ↔
      ∃ column type, blueprint.column? name = some column ∧
        grammar.storageType column = .ok type ∧
        statement = "alter table " ++ grammar.wrapTable blueprint.table ++ " add " ++
          grammar.renderColumn blueprint.table column type
            (grammar.effectiveDefault blueprint column type) ++ inlineClause blueprint column := by
  simp only [addStatement, bind_eq_ok_iff, require_column_eq_ok_iff, column_definition_eq_ok_iff,
    pure, Except.pure, Except.ok.injEq]
  constructor
  · rintro ⟨column, found, _, ⟨type, stored, rfl⟩, rfl⟩
    exact ⟨column, type, found, stored, rfl⟩
  · rintro ⟨column, type, found, stored, rfl⟩
    exact ⟨column, found, _, ⟨type, stored, rfl⟩, rfl⟩

theorem change_statement_eq_ok_iff {name statement : String} :
    grammar.changeStatement blueprint name = .ok statement ↔
      ∃ column type, blueprint.column? name = some column ∧
        grammar.storageType column = .ok type ∧
        statement = "alter table " ++ grammar.wrapTable blueprint.table ++ " modify " ++
          grammar.renderColumn blueprint.table column type column.defaultValue := by
  simp only [changeStatement, bind_eq_ok_iff, require_column_eq_ok_iff, change_definition_eq_ok_iff,
    pure, Except.pure, Except.ok.injEq]
  constructor
  · rintro ⟨column, found, _, ⟨type, stored, rfl⟩, rfl⟩
    exact ⟨column, type, found, stored, rfl⟩
  · rintro ⟨column, type, found, stored, rfl⟩
    exact ⟨column, found, _, ⟨type, stored, rfl⟩, rfl⟩

theorem created_primary_eq_ok_iff {clauses : List String} :
    grammar.createdPrimary blueprint = .ok clauses ↔
      (∀ key, blueprint.primary? = some key → requireColumns blueprint key.columns = .ok ()) ∧
        clauses = (blueprint.primary?.map grammar.primaryClause).toList := by
  unfold createdPrimary
  cases blueprint.primary? with
  | none => simp [eq_comm]
  | some key =>
      rw [bind_pure_eq_ok_iff]
      constructor
      · rintro ⟨⟨⟩, required, rfl⟩
        exact ⟨fun _ same => Option.some.inj same ▸ required, rfl⟩
      · rintro ⟨required, rfl⟩
        exact ⟨(), required key rfl, rfl⟩

theorem create_statement_eq_ok_iff {statement : String} :
    grammar.createStatement blueprint = .ok statement ↔
      ∃ definitions, List.Forall₂ (fun column definition =>
          grammar.columnDefinition blueprint column = .ok definition)
          blueprint.addedColumns definitions ∧
        (∀ key, blueprint.primary? = some key → requireColumns blueprint key.columns = .ok ()) ∧
        statement = grammar.createText blueprint.table definitions
          (blueprint.foreignKeys.map grammar.foreignClause ++
            (blueprint.primary?.map grammar.primaryClause).toList) := by
  simp only [createStatement, bind_eq_ok_iff, mapM_eq_ok_iff, created_primary_eq_ok_iff, pure,
    Except.pure, Except.ok.injEq]
  constructor
  · rintro ⟨definitions, written, _, ⟨required, rfl⟩, rfl⟩
    exact ⟨definitions, written, required, rfl⟩
  · rintro ⟨definitions, written, required, rfl⟩
    exact ⟨definitions, written, _, ⟨required, rfl⟩, rfl⟩

theorem index_statement_eq_ok_iff {opening statement : String} {index : IndexSpec} :
    grammar.indexStatement blueprint opening index = .ok statement ↔
      (blueprint.creating = true → requireColumns blueprint index.columns = .ok ()) ∧
        statement = opening ++ index.name ++ " on " ++ grammar.wrapTable blueprint.table ++ " ( "
          ++ grammar.columnize index.columns ++ " )" := by
  unfold indexStatement
  cases blueprint.creating with
  | true =>
      refine bind_pure_eq_ok_iff.trans ?_
      constructor
      · rintro ⟨⟨⟩, required, rfl⟩
        exact ⟨fun _ => required, rfl⟩
      · rintro ⟨required, rfl⟩
        exact ⟨(), required rfl, rfl⟩
  | false => simp [pure, Except.pure, eq_comm]

theorem primary_statements_cases {key : IndexSpec} {statements : List String}
    (written : grammar.primaryStatements blueprint key = .ok statements) :
    statements = [] ∨
      statements = ["alter table " ++ grammar.wrapTable blueprint.table ++ " add constraint "
        ++ key.name ++ " primary key (" ++ grammar.columnize key.columns ++ ")"] := by
  unfold primaryStatements at written
  split at written
  · obtain ⟨_, _, rfl⟩ := bind_pure_eq_ok_iff.mp written
    exact .inl rfl
  · split at written <;> cases written
    · exact .inl rfl
    · exact .inr rfl

theorem to_sql_blueprint (grammar : Grammar) (blueprint : Blueprint) :
    (grammar.toSql blueprint).1 = blueprint.resolve.1 := by
  unfold toSql
  split <;> rename_i resolved <;> rw [resolved]

theorem to_sql_resolved (grammar : Grammar) (blueprint : Blueprint) :
    grammar.toSql blueprint.resolve.1 = grammar.toSql blueprint := by
  rw [toSql, blueprint.resolve_resolved, ← toSql]

theorem compile_all_eq_ok_iff {grammar : Grammar} {blueprint : Blueprint}
    {statements : List String} :
    grammar.compileAll blueprint = .ok statements ↔
      ∃ blocks, blueprint.commands.mapM (grammar.compile blueprint) = .ok blocks ∧
        statements = blocks.flatten := by
  rw [compileAll, bind_eq_ok_iff]
  constructor
  · rintro ⟨blocks, compiled, joined⟩
    cases joined
    exact ⟨blocks, compiled, rfl⟩
  · rintro ⟨blocks, compiled, rfl⟩
    exact ⟨blocks, compiled, rfl⟩

theorem to_sql_eq_ok_iff {grammar : Grammar} {blueprint : Blueprint} {statements : List String} :
    (grammar.toSql blueprint).2 = .ok statements ↔
      blueprint.resolve.2 = .ok () ∧ grammar.compileAll blueprint.resolve.1 = .ok statements := by
  unfold toSql
  split <;> rename_i resolved <;> rw [resolved] <;> simp

end SchemaBlueprint.Grammar
