import SchemaBlueprint.Proofs.CreatedTable
import SchemaBlueprint.Proofs.Postcondition

/-!
Where the constraints of a created table stand. Its primary key and its foreign keys are items of the
list in the statement that creates it, behind its columns, and have no statement of their own; all
other commands speak for themselves.
-/

namespace SchemaBlueprint

set_option autoImplicit false

def Command.isTableConstraint : Command → Bool
  | .primary _ | .foreign _ => true
  | _ => false

theorem intercalate_append_join {items : List String} (some_there : items ≠ [])
    (more : List String) :
    ", ".intercalate items ++ String.join (more.map (", " ++ ·)) =
      ", ".intercalate (items ++ more) := by
  induction more generalizing items with
  | nil => rw [List.map_nil, String.join_nil, String.append_empty, List.append_nil]
  | cons text more ih =>
      have joined : ", ".intercalate items ++ (", " ++ text) = ", ".intercalate (items ++ [text]) := by
        rw [String.intercalate_append_of_ne_nil some_there (List.cons_ne_nil _ _),
          String.intercalate_singleton, String.append_assoc]
      rw [List.map_cons, String.join_cons, ← String.append_assoc, joined, ih (by simp),
        List.append_assoc, List.singleton_append]

namespace Blueprint

variable {blueprint : Blueprint}

theorem filled_is_create (command : Command) :
    (blueprint.filledCommand command).isCreate = command.isCreate := by
  cases command <;> rfl

theorem filled_is_alteration (command : Command) :
    (blueprint.filledCommand command).isAlteration = command.isAlteration := by
  cases command <;> rfl

theorem resolved_primary_none_iff (passed : blueprint.resolve.2 = .ok ()) :
    blueprint.resolve.1.primary? = none ↔ blueprint.primary? = none ∧
      ∀ column ∈ blueprint.columns, column.primary = false ∧ column.isCounter = false := by
  have registered : blueprint.resolve.1.primary? = none ↔ blueprint.withImplied.primary? = none := by
    rcases resolve_cases blueprint with ⟨_, several⟩ | ⟨_, resolved⟩
    · rw [several] at passed
      cases passed
    · rw [resolved, primary_with_names, Option.map_eq_none_iff]
  have before : blueprint.withAlterations.primary? = blueprint.primary? := by
    rw [primary_eq_remaining, with_alterations_remaining, ← primary_eq_remaining]
  have flagged := with_flagged_primary_none_iff blueprint.withAlterations
  rw [before, (with_alterations_same_table blueprint).columns] at flagged
  rw [registered]
  constructor
  · intro absent
    rw [withImplied, with_implied_primary_eq, primary?, List.findSome?_append,
      Option.or_eq_none_iff] at absent
    obtain ⟨keyless, unflagged⟩ := flagged.mp absent.1
    refine ⟨keyless, fun column member => ⟨unflagged column member, ?_⟩⟩
    have implied := primary_with_implied_of_none keyless unflagged
    rw [withImplied, with_implied_primary_eq, primary?, List.findSome?_append, absent.1, absent.2,
      Option.or_none, eq_comm, Option.map_eq_none_iff, List.find?_eq_none] at implied
    exact Bool.eq_false_iff.mpr (implied column member)
  · rintro ⟨keyless, unasked⟩
    rw [primary_with_implied_of_none keyless fun column member => (unasked column member).1,
      Option.map_eq_none_iff, List.find?_eq_none]
    intro column member
    rw [(unasked column member).2]
    decide

theorem resolved_foreign_keys (creating : blueprint.creating = true)
    (passed : blueprint.resolve.2 = .ok ()) :
    blueprint.resolve.1.foreignKeys = blueprint.foreignKeys.map blueprint.namedForeign := by
  have filled : ∀ command : Command, (blueprint.filledCommand command).foreign? =
      command.foreign?.map blueprint.namedForeign := by
    intro command
    cases command <;> rfl
  have registered : blueprint.missingIndexes.filterMap Command.foreign? = [] :=
    List.filterMap_eq_nil_iff.mpr fun command missing => (plain_of_missing missing).2.2
  rw [foreignKeys, resolved_commands_of_creating creating passed, List.filterMap_map, foreignKeys,
    List.map_filterMap]
  simp only [Function.comp_def, filled, ← List.map_filterMap, List.filterMap_append, registered,
    List.map_nil, List.append_nil]

theorem resolved_split_of_creating (single : blueprint.commands.countP Command.isCreate = 1)
    (unaltered : ∀ command ∈ blueprint.commands, command.isAlteration = false)
    (passed : blueprint.resolve.2 = .ok ()) :
    ∃ before after, blueprint.resolve.1.commands = before ++ .create :: after ∧
      ∀ command ∈ before ++ after, command.isCreate = false ∧ command.isAlteration = false := by
  have creating : blueprint.creating = true :=
    List.any_eq_true.mpr (List.countP_pos_iff.mp (by omega))
  have commands := resolved_commands_of_creating creating passed
  have silent : blueprint.missingIndexes.countP Command.isCreate = 0 :=
    List.countP_eq_zero.mpr fun command missing => by simp [(plain_of_missing missing).2.1]
  have once : blueprint.resolve.1.commands.countP Command.isCreate = 1 := by
    simp only [commands, List.countP_map, Function.comp_def, filled_is_create, List.countP_append,
      silent, single]
  have plain : ∀ command ∈ blueprint.resolve.1.commands, command.isAlteration = false := by
    intro command member
    rw [commands] at member
    obtain ⟨own, there, rfl⟩ := List.mem_map.mp member
    rw [filled_is_alteration]
    rcases List.mem_append.mp there with asked | missing
    · exact unaltered own asked
    · exact (plain_of_missing missing).1
  obtain ⟨command, member, creates⟩ := List.countP_pos_iff.mp (by omega : 0 <
    blueprint.resolve.1.commands.countP Command.isCreate)
  cases command <;> simp [Command.isCreate] at creates
  obtain ⟨before, after, split⟩ := List.append_of_mem member
  refine ⟨before, after, split, ?_⟩
  have others : (before ++ after).countP Command.isCreate = 0 := by
    rw [split, List.countP_append, List.countP_cons_of_pos rfl] at once
    rw [List.countP_append]
    omega
  intro other there
  refine ⟨Bool.eq_false_iff.mpr (List.countP_eq_zero.mp others other there), plain other ?_⟩
  rw [split]
  rcases List.mem_append.mp there with front | back
  · exact List.mem_append_left _ front
  · exact List.mem_append_right _ (List.mem_cons_of_mem _ back)

end Blueprint

namespace Grammar

open Outcome

variable {grammar : Grammar} {blueprint : Blueprint}

theorem create_text_of_defined {table : String} {definitions : List String}
    (defined : definitions ≠ []) (clauses : List String) :
    grammar.createText table definitions clauses =
      "create table " ++ grammar.wrapTable table ++ " ( " ++
        ", ".intercalate (definitions ++ clauses) ++ " )" := by
  unfold createText
  rw [← intercalate_append_join defined]
  simp only [String.append_assoc]

theorem constraint_emits_nothing (creating : blueprint.creating = true) {command : Command}
    (constraint : command.isTableConstraint = true) {statements : List String}
    (written : grammar.compile blueprint command = .ok statements) : statements = [] := by
  cases command with
  | primary key =>
      rw [compile, primaryStatements, if_pos creating] at written
      obtain ⟨_, _, nothing⟩ := bind_pure_eq_ok_iff.mp written
      exact nothing
  | foreign key =>
      rw [compile, foreignStatements, if_pos creating] at written
      cases written
      rfl
  | _ => cases constraint

theorem flatMap_without_constraints (creating : blueprint.creating = true) {commands : List Command}
    (compiled : ∀ command ∈ commands,
      grammar.compile blueprint command = .ok (grammar.emitted blueprint command)) :
    commands.flatMap (grammar.emitted blueprint) =
      (commands.filter fun command => !command.isTableConstraint).flatMap
        (grammar.emitted blueprint) := by
  induction commands with
  | nil => rfl
  | cons command commands ih =>
      obtain ⟨head, tail⟩ := List.forall_mem_cons.mp compiled
      rw [List.flatMap_cons, ih tail]
      cases constraint : command.isTableConstraint with
      | true =>
          rw [constraint_emits_nothing creating constraint head, List.nil_append,
            List.filter_cons_of_neg (by simp [constraint])]
      | false => rw [List.filter_cons_of_pos (by simp [constraint]), List.flatMap_cons]

/-- The one statement of a created table holds, as items of one list, the definitions of its columns,
its foreign keys and its primary key, and it has a primary key when one was asked for by a command
or a flag or when a column counts. These constraints have no statement of their own, and the other
statements are those of the other commands in their order. -/
theorem created_table_holds_constraints (grammar : Grammar) (blueprint : Blueprint)
    (statements : List String) (single : blueprint.commands.countP Command.isCreate = 1)
    (unaltered : ∀ command ∈ blueprint.commands, command.isAlteration = false)
    (defines : blueprint.addedColumns ≠ [])
    (compiled : (grammar.toSql blueprint).2 = .ok statements) :
    let resolved := (grammar.toSql blueprint).1
    ∃ before after definitions,
      let created := "create table " ++ grammar.wrapTable blueprint.table ++ " ( " ++
        ", ".intercalate (definitions ++
          ((blueprint.foreignKeys.map blueprint.namedForeign).map grammar.foreignClause ++
            (resolved.primary?.map grammar.primaryClause).toList)) ++ " )"
      resolved.commands = before ++ .create :: after ∧
      (∀ command ∈ before ++ after, command.isCreate = false ∧ command.isAlteration = false) ∧
      List.Forall₂ (fun column definition =>
        grammar.columnDefinition resolved column = .ok definition)
        blueprint.addedColumns definitions ∧
      grammar.compile resolved .create = .ok [created] ∧
      (resolved.primary? = none ↔ blueprint.primary? = none ∧
        ∀ column ∈ blueprint.columns, column.primary = false ∧ column.isCounter = false) ∧
      (∀ command ∈ before ++ after, command.isTableConstraint = true →
        grammar.compile resolved command = .ok []) ∧
      (∀ command ∈ before ++ after,
        grammar.compile resolved command = .ok (grammar.emitted resolved command)) ∧
      statements =
        (before.filter fun command => !command.isTableConstraint).flatMap
            (grammar.emitted resolved) ++
          created ::
          (after.filter fun command => !command.isTableConstraint).flatMap
            (grammar.emitted resolved) := by
  have creating : blueprint.creating = true :=
    List.any_eq_true.mpr (List.countP_pos_iff.mp (by omega))
  obtain ⟨passed, each, joined⟩ := to_sql_emits compiled
  obtain ⟨before, after, split, others⟩ :=
    Blueprint.resolved_split_of_creating single unaltered passed
  have foreign := Blueprint.resolved_foreign_keys creating passed
  have primary := Blueprint.resolved_primary_none_iff passed
  have same := blueprint.resolve_same_table
  have creates := blueprint.resolve_creating.trans creating
  rw [to_sql_blueprint] at each joined ⊢
  generalize blueprint.resolve.1 = resolved at *
  dsimp only
  have added : resolved.addedColumns = blueprint.addedColumns := by
    rw [Blueprint.addedColumns, same.columns, Blueprint.addedColumns]
  rw [split] at each
  have created := each .create (by simp)
  have front := fun command member => each command (List.mem_append_left _ member)
  have back := fun command member =>
    each command (List.mem_append_right before (List.mem_cons_of_mem _ member))
  have beside : ∀ command ∈ before ++ after,
      grammar.compile resolved command = .ok (grammar.emitted resolved command) := by
    intro command member
    rcases List.mem_append.mp member with there | there
    · exact front command there
    · exact back command there
  obtain ⟨statement, written, sole⟩ := bind_pure_eq_ok_iff.mp created
  obtain ⟨definitions, defined, _, rfl⟩ := create_statement_eq_ok_iff.mp written
  rw [added] at defined
  have some_defined : definitions ≠ [] := by
    intro nothing
    rw [nothing, List.forall₂_nil_right_iff] at defined
    exact defines defined
  rw [create_text_of_defined some_defined, same.table, foreign] at sole
  rw [sole] at created
  refine ⟨before, after, definitions, split, others, defined, created, primary, ?_, beside, ?_⟩
  · intro command member constraint
    rw [beside command member,
      constraint_emits_nothing creates constraint (beside command member)]
  · rw [joined, statements_of_emissions, split, List.flatMap_append, List.flatMap_cons, sole,
      flatMap_without_constraints creates front, flatMap_without_constraints creates back,
      List.singleton_append]

def linesOfOrders : Blueprint :=
  { table := "lines"
    columns := [{ name := "code", type := .integer, nullable := false, primary := true },
      { name := "order", type := .integer }, { name := "item", type := .integer, unique := true }]
    commands := [.foreign { columns := ["order"], table := "orders", references := ["id"] },
      .tableComment "what was ordered", .create,
      .foreign ⟨"", ["item"], "items", ["id"], some "cascade"⟩] }

theorem created_table_holds_constraints_lines :
    linesOfOrders.commands.countP Command.isCreate = 1 ∧
    (∀ command ∈ linesOfOrders.commands, command.isAlteration = false) ∧
    linesOfOrders.addedColumns ≠ [] ∧
    let resolved := (toSql {} linesOfOrders).1
    (toSql {} linesOfOrders).2 =
      .ok ["comment on table lines is 'what was ordered'",
        "create table lines ( code int not null, \"ORDER\" int null, item int null, constraint lines_order_foreign foreign key ( \"ORDER\" ) references orders ( id ), constraint lines_item_foreign foreign key ( item ) references items ( id ) on delete cascade, constraint lines_code_primary primary key ( code ) )",
        "create unique index lines_item_unique on lines ( item )"] ∧
    ∃ before after definitions,
      resolved.commands = before ++ .create :: after ∧
      List.Forall₂ (fun column definition =>
        columnDefinition {} resolved column = .ok definition)
        linesOfOrders.addedColumns definitions ∧
      compile {} resolved .create =
        .ok ["create table " ++ wrapTable {} "lines" ++ " ( " ++
          ", ".intercalate (definitions ++
            ((linesOfOrders.foreignKeys.map linesOfOrders.namedForeign).map (foreignClause {}) ++
              (resolved.primary?.map (primaryClause {})).toList)) ++ " )"] ∧
      resolved.primary? ≠ none ∧
      ∀ command ∈ before ++ after, command.isTableConstraint = true →
        compile {} resolved command = .ok [] := by
  have single : linesOfOrders.commands.countP Command.isCreate = 1 := by decide
  have unaltered : ∀ command ∈ linesOfOrders.commands, command.isAlteration = false := by decide
  have defines : linesOfOrders.addedColumns ≠ [] := by simp [Blueprint.addedColumns, linesOfOrders]
  have compiled : (toSql {} linesOfOrders).2 =
      .ok ["comment on table lines is 'what was ordered'",
        "create table lines ( code int not null, \"ORDER\" int null, item int null, constraint lines_order_foreign foreign key ( \"ORDER\" ) references orders ( id ), constraint lines_item_foreign foreign key ( item ) references items ( id ) on delete cascade, constraint lines_code_primary primary key ( code ) )",
        "create unique index lines_item_unique on lines ( item )"] := by
    decide +kernel
  obtain ⟨before, after, definitions, split, _, defined, created, primary, silent, _⟩ :=
    created_table_holds_constraints {} linesOfOrders _ single unaltered defines compiled
  refine ⟨single, unaltered, defines, compiled, before, after, definitions, split, defined, created,
    ?_, silent⟩
  intro absent
  exact absurd (primary.mp absent).2 (by decide)

end Grammar

end SchemaBlueprint
