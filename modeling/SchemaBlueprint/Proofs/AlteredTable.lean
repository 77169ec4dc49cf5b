import Mathlib.Data.List.Forall2
import SchemaBlueprint.Proofs.InlineKey
import SchemaBlueprint.Proofs.Listing

/-!
Blueprints that never create their table. Whatever their history, each column is modified or added
by one statement of its own, and only the remaining commands speak after that.
-/

namespace SchemaBlueprint

set_option autoImplicit false

namespace Grammar

open Outcome

def Modifies (grammar : Grammar) (blueprint : Blueprint) (column : Column) (statement : String) :
    Prop :=
  ∃ definition, grammar.changeDefinition blueprint column = .ok definition ∧
    statement = "alter table " ++ grammar.wrapTable blueprint.table ++ " modify " ++ definition

def Adds (grammar : Grammar) (blueprint : Blueprint) (column : Column) (statement : String) : Prop :=
  ∃ definition, grammar.columnDefinition blueprint column = .ok definition ∧
    statement = "alter table " ++ grammar.wrapTable blueprint.table ++ " add " ++ definition ++
      keyClause (blueprint.inlineKey? column)

variable {grammar : Grammar} {blueprint : Blueprint}

theorem modifies_of_change_statement (distinct : DistinctNames blueprint.columns) {column : Column}
    (member : column ∈ blueprint.columns) {statement : String}
    (compiled : grammar.changeStatement blueprint column.name = .ok statement) :
    grammar.Modifies blueprint column statement := by
  obtain ⟨found, required, rest⟩ := bind_eq_ok_iff.mp compiled
  rw [requireColumn, Blueprint.column_of_same_name distinct member (Text.sameName_refl _)] at required
  cases required
  obtain ⟨definition, defined, written⟩ := bind_eq_ok_iff.mp rest
  cases written
  exact ⟨definition, defined, rfl⟩

theorem adds_of_add_statement (distinct : DistinctNames blueprint.columns) {column : Column}
    (member : column ∈ blueprint.columns) {statement : String}
    (compiled : grammar.addStatement blueprint column.name = .ok statement) :
    grammar.Adds blueprint column statement := by
  obtain ⟨found, required, rest⟩ := bind_eq_ok_iff.mp compiled
  rw [requireColumn, Blueprint.column_of_same_name distinct member (Text.sameName_refl _)] at required
  cases required
  obtain ⟨definition, defined, written⟩ := bind_eq_ok_iff.mp rest
  cases written
  exact ⟨definition, defined, by rw [inline_clause_eq distinct member]⟩

theorem each_name_compiled {declare : List String → Command}
    {step : String → Except SchemaError String}
    (compiles : ∀ names, grammar.compile blueprint (declare names) = names.mapM step)
    {lists : List (List String)} {blocks : List (List String)}
    (compiled : (lists.map declare).mapM (grammar.compile blueprint) = .ok blocks) :
    List.Forall₂ (fun name statement => step name = .ok statement) lists.flatten blocks.flatten := by
  rw [mapM_eq_ok_iff, List.forall₂_map_left_iff] at compiled
  refine List.rel_flatten (compiled.imp fun names block written => ?_)
  rwa [compiles, mapM_eq_ok_iff] at written

/-- Compiling a table that is altered gives, whatever its history: one statement for each changed
column that modifies it, then one for each added column that adds it, both in column order, then
the statements of the remaining commands in their order. -/
theorem altered_table_statements (grammar : Grammar) (table tablePrefix : String)
    (steps : List HistoryStep) (statements : List String) (altering : .build .create ∉ steps)
    (distinct : DistinctNames ((Blueprint.start table tablePrefix).afterHistory steps).columns)
    (compiled : (grammar.toSql ((Blueprint.start table tablePrefix).afterHistory steps)).2 =
      .ok statements) :
    let blueprint := (Blueprint.start table tablePrefix).afterHistory steps
    let resolved := (grammar.toSql blueprint).1
    ∃ modifications additions blocks,
      statements = modifications ++ additions ++ blocks.flatten ∧
      List.Forall₂ (grammar.Modifies resolved) blueprint.changedColumns modifications ∧
      List.Forall₂ (grammar.Adds resolved) blueprint.addedColumns additions ∧
      List.Forall₂ (fun command block => grammar.compile resolved command = .ok block)
        resolved.remaining blocks := by
  intro blueprint resolved
  have fresh := Blueprint.all_named_start table tablePrefix
  have named := Blueprint.all_named_history fresh steps
  have altered := Blueprint.not_creating_history fresh rfl altering
  obtain ⟨seen, later, registered⟩ := Blueprint.registered_history fresh
    (Blueprint.registered_start table tablePrefix) distinct
  have resolvedEq : resolved = blueprint.withImplied :=
    (to_sql_blueprint grammar blueprint).trans (Blueprint.resolve_of_named named)
  obtain ⟨_, changes, adds, rest, shape, changed, added⟩ :=
    Blueprint.registered_with_implied altered distinct registered
  rw [← resolvedEq] at shape
  have columns : resolved.columns = blueprint.columns :=
    resolvedEq ▸ (Blueprint.with_implied_same_table blueprint).columns
  -- The blocks fall into those of the changes, those of the additions and the rest.
  have distinctResolved : DistinctNames resolved.columns := columns ▸ distinct
  obtain ⟨_, all⟩ := to_sql_eq_ok_iff.mp compiled
  rw [← to_sql_blueprint grammar] at all
  obtain ⟨blocks, each, rfl⟩ := compile_all_eq_ok_iff.mp all
  change resolved.commands.mapM (grammar.compile resolved) = _ at each
  rw [shape.commands, mapM_append_eq_ok_iff] at each
  obtain ⟨changeBlocks, otherBlocks, changeEach, otherEach, rfl⟩ := each
  obtain ⟨addBlocks, restBlocks, addEach, restEach, rfl⟩ :=
    (mapM_append_eq_ok_iff _ _ _ _).mp otherEach
  refine ⟨changeBlocks.flatten, addBlocks.flatten, restBlocks, by simp, ?_, ?_, ?_⟩
  · have paired := each_name_compiled (fun _ => rfl) changeEach
    rw [changed, List.forall₂_map_left_iff] at paired
    apply forall_imp_of_mem paired
    intro column member statement written
    exact modifies_of_change_statement distinctResolved
      (columns ▸ (List.mem_filter.mp member).1) written
  · have paired := each_name_compiled (fun _ => rfl) addEach
    rw [added, List.forall₂_map_left_iff] at paired
    apply forall_imp_of_mem paired
    intro column member statement written
    exact adds_of_add_statement distinctResolved
      (columns ▸ (List.mem_filter.mp member).1) written
  · rw [shape.remaining_eq]
    exact (mapM_eq_ok_iff _ _ _).mp restEach

def alteredHistory : List HistoryStep :=
  [.build (.column (Column.increments "id")), .compile {}, .build (.unique ["Name"]),
   .build (.column (Column.plain "note" .text).asChange), .resolve,
   .build (.column (Column.sized "name" .string 40).asUnique)]

theorem altered_table_statements_users :
    .build .create ∉ alteredHistory ∧
    DistinctNames ((Blueprint.start "users" "").afterHistory alteredHistory).columns ∧
    let blueprint := (Blueprint.start "users" "").afterHistory alteredHistory
    let resolved := (toSql {} blueprint).1
    let statements := ["alter table users modify note text null",
      "alter table users add id int auto_increment not null constraint users_id_primary primary key",
      "alter table users add name varchar2(40 char) null",
      "create unique index users_name_unique on users ( Name )"]
    (toSql {} blueprint).2 = .ok statements ∧
    ∃ modifications additions blocks,
      statements = modifications ++ additions ++ blocks.flatten ∧
      List.Forall₂ (Modifies {} resolved) blueprint.changedColumns modifications ∧
      List.Forall₂ (Adds {} resolved) blueprint.addedColumns additions ∧
      List.Forall₂ (fun command block => compile {} resolved command = .ok block)
        resolved.remaining blocks := by
  have altering : .build .create ∉ alteredHistory := by simp [alteredHistory]
  have distinct : DistinctNames
      ((Blueprint.start "users" "").afterHistory alteredHistory).columns := by
    unfold DistinctNames
    decide +kernel
  have compiled : (toSql {} ((Blueprint.start "users" "").afterHistory alteredHistory)).2 =
      .ok ["alter table users modify note text null",
        "alter table users add id int auto_increment not null constraint users_id_primary primary key",
        "alter table users add name varchar2(40 char) null",
        "create unique index users_name_unique on users ( Name )"] := by
    decide +kernel
  exact ⟨altering, distinct, compiled,
    altered_table_statements {} "users" "" alteredHistory _ altering distinct compiled⟩

end Grammar

end SchemaBlueprint
