import SchemaBlueprint.Proofs.InlineKey

/-!
What a command is compiled from beside itself: the table, its columns, and a few answers that the
other commands give. Where these agree, the command says the same, wherever it stands and whatever
else is there.
-/

namespace SchemaBlueprint

set_option autoImplicit false

namespace Blueprint

/-- Two blueprints give the same answers to what compiling a command asks. Which names are listed
for addition matters only to a table that is there, and the order of the list does not. -/
structure SameAnswers (left right : Blueprint) : Prop where
  table : left.table = right.table
  columns : left.columns = right.columns
  creating : left.creating = right.creating
  primary : left.primary? = right.primary?
  listed : left.creating = false → ∀ name,
    Text.listsName left.listedAdditions name = Text.listsName right.listedAdditions name

end Blueprint

namespace Grammar

variable {left right : Blueprint}

theorem column_definition_of_in_primary (table : left.table = right.table)
    (primary : inPrimary left = inPrimary right) (grammar : Grammar) :
    grammar.columnDefinition left = grammar.columnDefinition right := by
  have wanted : grammar.wantsImplicitDefault left = grammar.wantsImplicitDefault right := by
    funext column
    rw [wantsImplicitDefault, wantsImplicitDefault, primary]
  have value : grammar.effectiveDefault left = grammar.effectiveDefault right := by
    funext column type
    rw [effectiveDefault, effectiveDefault, wanted]
  funext column
  rw [columnDefinition, columnDefinition, value, table]

theorem column_definition_congr (same : left.SameAnswers right) (grammar : Grammar) :
    grammar.columnDefinition left = grammar.columnDefinition right := by
  apply column_definition_of_in_primary same.table
  funext name
  rw [inPrimary, inPrimary, same.primary]

theorem inline_primary_congr (same : left.SameAnswers right) :
    inlinePrimary? left = inlinePrimary? right := by
  simp only [inlinePrimary?, Blueprint.column?, same.primary, same.columns]

theorem require_columns_congr (same : left.SameAnswers right) :
    requireColumns left = requireColumns right := by
  funext names
  simp only [requireColumns, Blueprint.column?, same.table, same.columns]

theorem create_statement_congr (same : left.SameAnswers right)
    (foreign : left.foreignKeys = right.foreignKeys) (grammar : Grammar) :
    grammar.createStatement left = grammar.createStatement right := by
  simp only [createStatement, createdPrimary, Blueprint.addedColumns, same.table, same.columns,
    same.primary, foreign, column_definition_congr same, require_columns_congr same]

theorem add_statement_congr (same : left.SameAnswers right) (grammar : Grammar) :
    grammar.addStatement left = grammar.addStatement right := by
  funext name
  simp only [addStatement, requireColumn, Blueprint.column?, inlineClause, same.table, same.columns,
    column_definition_congr same, inline_primary_congr same]

theorem change_statement_congr (same : left.SameAnswers right) (grammar : Grammar) :
    grammar.changeStatement left = grammar.changeStatement right := by
  funext name
  simp only [changeStatement, changeDefinition, requireColumn, Blueprint.column?, same.table,
    same.columns]

theorem primary_statements_congr (same : left.SameAnswers right) (grammar : Grammar) :
    grammar.primaryStatements left = grammar.primaryStatements right := by
  funext key
  cases creating : left.creating with
  | true =>
      simp only [primaryStatements, ← same.creating, creating, if_true, require_columns_congr same]
  | false =>
      simp only [primaryStatements, ← same.creating, creating, Bool.false_eq_true, if_false,
        is_inlined_eq, inline_primary_congr same, same.listed creating, same.table]

theorem compile_of_same_answers (same : left.SameAnswers right) (grammar : Grammar)
    {command : Command}
    (foreign : command.isCreate = true → left.foreignKeys = right.foreignKeys) :
    grammar.compile left command = grammar.compile right command := by
  cases command with
  | create => simp only [compile, create_statement_congr same (foreign rfl)]
  | add names => simp only [compile, add_statement_congr same]
  | change names => simp only [compile, change_statement_congr same]
  | primary key => simp only [compile, primary_statements_congr same]
  | foreign key => simp only [compile, foreignStatements, same.creating, same.table]
  | unique index =>
      simp only [compile, indexStatement, same.creating, same.table, require_columns_congr same]
  | index index =>
      simp only [compile, indexStatement, same.creating, same.table, require_columns_congr same]
  | _ => simp only [compile, same.table]

end Grammar

end SchemaBlueprint
