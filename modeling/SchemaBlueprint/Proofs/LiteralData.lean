import SchemaBlueprint.Proofs.Emission
import SchemaBlueprint.Proofs.InlineKey
import SchemaBlueprint.Proofs.Literals

/-!
What the literals of statements hold. Names, prefixes, actions and expressions go into statements as
they stand, so they are asked to be free of quotes. Defaults, allowed values, comments and the owner
of a table may be any text: they come out of the literals as they went in, and nothing else does.
-/

namespace SchemaBlueprint

set_option autoImplicit false

open Outcome

def Command.bareTexts : Command → List String
  | .primary key | .unique key | .index key => key.name :: key.columns
  | .foreign key =>
      key.name :: key.table :: (key.columns ++ key.references ++ key.onDelete.toList)
  | .dropColumn columns => columns
  | .dropPrimary name | .dropUnique name | .dropIndex name | .dropForeign name => [name]
  | .rename target => [target]
  | .renameColumn source target => [source, target]
  | .updateEnum column _ => [column]
  | _ => []

/-- Whatever goes into statements as it stands is free of quotes. -/
structure PlainTexts (grammar : Grammar) (blueprint : Blueprint) : Prop where
  schemaPrefix : QuoteFree grammar.settings.schemaPrefix
  tablePrefix : QuoteFree grammar.settings.tablePrefix
  table : QuoteFree blueprint.table
  indexPrefix : QuoteFree blueprint.tablePrefix
  columns : ∀ column ∈ blueprint.columns, QuoteFree column.name
  expressions : ∀ column ∈ blueprint.columns, ∀ sql,
    column.defaultValue = some (.expression sql) → QuoteFree sql
  commands : ∀ command ∈ blueprint.commands, ∀ text ∈ command.bareTexts, QuoteFree text

/-- What the literal of a default holds. An expression is no literal. -/
def DefaultValue.content? : DefaultValue → Option String
  | .bool value => some (if value then "1" else "0")
  | .int value => some (Decimal.intText value.toInt)
  | .float value => some (Decimal.floatText value)
  | .text value => some value
  | .expression _ => none

def columnData (column : Column) (value : Option DefaultValue) : List String :=
  (value.bind DefaultValue.content?).toList ++ column.allowed

namespace Grammar

def renderedDefault (grammar : Grammar) (blueprint : Blueprint) (column : Column) :
    Option DefaultValue :=
  match grammar.storageType column with
  | .ok type => grammar.effectiveDefault blueprint column type
  | .error _ => none

def namedData (blueprint : Blueprint) (value : Column → Option DefaultValue) (name : String) :
    List String :=
  match blueprint.column? name with
  | some column => columnData column (value column)
  | none => []

def literalData? (grammar : Grammar) (blueprint : Blueprint) : Command → Option (List (List String))
  | .create =>
      some [blueprint.addedColumns.flatMap fun column =>
        columnData column (grammar.renderedDefault blueprint column)]
  | .add names => some (names.map (namedData blueprint (grammar.renderedDefault blueprint)))
  | .change names => some (names.map (namedData blueprint Column.defaultValue))
  | .tableComment comment => some [[comment]]
  | .updateEnum _ allowed => some [[], allowed]
  | .columnExists database => some [[database, grammar.prefixedTable blueprint.table]]
  | .dropIfExists =>
      some [[grammar.prefixedTable blueprint.table, grammar.dropStatement blueprint.table]]
  | .dropAllTables => some [["DROP TABLE \"", "\" CASCADE CONSTRAINTS", "DROP SEQUENCE "]]
  | _ => none

/-- The literals of some statements hold the data of their command in order, and there are none in
the statements of a command without data. -/
def HoldsData (grammar : Grammar) (blueprint : Blueprint) (command : Command)
    (statements : List String) : Prop :=
  match grammar.literalData? blueprint command with
  | some data => statements.map literals? = data.map some
  | none => ∀ statement ∈ statements, literals? statement = some []

end Grammar

theorem sql_literal_of_quote_free {content : String} (free : QuoteFree content) :
    sqlLiteral content = "'" ++ content ++ "'" := by
  have single : ∀ chars : List Char, '\'' ∉ chars → Text.doubled '\'' chars = chars := by
    intro chars absent
    induction chars with
    | nil => rfl
    | cons c rest ih =>
        rw [List.mem_cons, not_or] at absent
        have tail := ih absent.2
        rw [Text.doubled] at tail ⊢
        rw [List.flatMap_cons, if_neg (Ne.symm absent.1), tail]
        rfl
  rw [sqlLiteral, escapeLiteral, Text.double, single _ free, String.ofList_toList]

theorem literal_of_content {value : DefaultValue} {content : String}
    (holds : value.content? = some content) : value.literal = sqlLiteral content := by
  cases value with
  | bool value =>
      cases holds
      cases value <;> decide
  | int value =>
      cases holds
      exact (sql_literal_of_quote_free (QuoteFree.int_text _)).symm
  | float value =>
      cases holds
      exact (sql_literal_of_quote_free (QuoteFree.float_text _)).symm
  | text value =>
      cases holds
      rfl
  | expression sql => cases holds

theorem reads_default {value : DefaultValue}
    (plain : ∀ sql, value = .expression sql → QuoteFree sql) :
    Reads value.literal value.content?.toList := by
  cases holds : value.content? with
  | some content =>
      rw [literal_of_content holds]
      exact reads_literal content
  | none =>
      cases value with
      | expression sql => exact (Passes.of_quote_free (plain sql rfl)).reads
      | _ => cases holds

namespace Grammar

variable {grammar : Grammar} {blueprint : Blueprint}

theorem enum_check_passes {column : String} (free : QuoteFree column) (allowed : List String) :
    Passes (grammar.enumCheck column allowed) allowed := by
  have opening : QuoteFree ("check (" ++ grammar.wrap column ++ " in (") :=
    (QuoteFree.append (by decide) (QuoteFree.wrap grammar free)).append (by decide)
  have values := (Passes.of_quote_free opening).append_reads (reads_enum_values allowed)
  exact values.append_plain (by decide) (by decide)

theorem null_clause_passes {table : String} {column : Column} {value : Option DefaultValue}
    (free : QuoteFree column.name) (plain : ∀ sql, value = some (.expression sql) → QuoteFree sql) :
    Passes (grammar.nullClause table column value) (columnData column value) := by
  have null_free : QuoteFree (if column.nullable then " null" else " not null") := by
    cases column.nullable <;> decide
  have null_there : (if column.nullable then " null" else " not null") ≠ "" := by
    cases column.nullable <;> decide
  unfold nullClause columnData
  apply Passes.append
  · cases value with
    | none => exact .of_quote_free (QuoteFree.append (by decide) null_free)
    | some value =>
        have written := reads_default fun sql same => plain sql (congrArg some same)
        have opening : Passes " default " [] := .of_quote_free (by decide)
        exact (opening.append_reads written).append_plain null_free null_there
  · cases unrestricted : column.allowed.isEmpty with
    | true =>
        rw [List.isEmpty_iff.mp unrestricted]
        exact .of_quote_free (show QuoteFree "" by decide)
    | false =>
        have opening :
            QuoteFree (" constraint " ++ grammar.enumConstraint table column.name ++ " ") :=
          (QuoteFree.append (by decide) (QuoteFree.enum_constraint _ _ _)).append (by decide)
        exact (Passes.of_quote_free opening).append (enum_check_passes free column.allowed)

theorem render_column_passes {table type : String} {column : Column} {value : Option DefaultValue}
    (stored : grammar.storageType column = .ok type) (free : QuoteFree column.name)
    (plain : ∀ sql, value = some (.expression sql) → QuoteFree sql) :
    Passes (grammar.renderColumn table column type value) (columnData column value) := by
  have counter : QuoteFree (incrementClause column) := by
    unfold incrementClause
    split <;> decide
  have opening : QuoteFree (grammar.wrap column.name ++ " " ++ type ++ incrementClause column) :=
    (((QuoteFree.wrap grammar free).append (by decide)).append
      (QuoteFree.storage_type stored)).append counter
  exact (Passes.of_quote_free opening).append (null_clause_passes free plain)

theorem implicit_default_not_expression (type sql : String) :
    StorageType.implicitDefault type ≠ some (.expression sql) := by
  unfold StorageType.implicitDefault StorageType.implicitDefaultOfBase
  intro made_up
  repeat' split at made_up
  all_goals cases made_up

theorem rendered_default_eq {column : Column} {type : String}
    (stored : grammar.storageType column = .ok type) :
    grammar.renderedDefault blueprint column = grammar.effectiveDefault blueprint column type := by
  rw [renderedDefault, stored]

end Grammar

namespace PlainTexts

open Grammar

variable {grammar : Grammar} {blueprint : Blueprint} (plain : PlainTexts grammar blueprint)
include plain

theorem effective_default {column : Column} (member : column ∈ blueprint.columns)
    {type sql : String}
    (written : grammar.effectiveDefault blueprint column type = some (.expression sql)) :
    QuoteFree sql := by
  unfold effectiveDefault at written
  split at written
  · rename_i own
    exact plain.expressions column member sql (own.trans written)
  · split at written
    · exact absurd written (implicit_default_not_expression type sql)
    · cases written

theorem wrap_table {table : String} (free : QuoteFree table) :
    QuoteFree (grammar.wrapTable table) := by
  have wrapped : QuoteFree (grammar.wrap (grammar.prefixedTable table)) :=
    QuoteFree.wrap grammar (plain.tablePrefix.append free)
  unfold wrapTable
  dsimp only
  split
  · exact wrapped
  · exact (plain.schemaPrefix.append (by decide)).append wrapped

theorem own_table : QuoteFree (grammar.wrapTable blueprint.table) := plain.wrap_table plain.table

theorem alteration {clause : String} (free : QuoteFree clause) :
    QuoteFree ("alter table " ++ grammar.wrapTable blueprint.table ++ clause) :=
  (QuoteFree.append (by decide) plain.own_table).append free

theorem primary {key : IndexSpec} (declared : blueprint.primary? = some key) :
    QuoteFree key.name ∧ ∀ name ∈ key.columns, QuoteFree name := by
  obtain ⟨command, member, own⟩ := List.exists_of_findSome?_eq_some declared
  rw [Command.primary_eq_spec, Command.spec_primary_iff] at own
  subst own
  exact List.forall_mem_cons.mp (plain.commands _ member)

theorem inline_clause (column : Column) : QuoteFree (inlineClause blueprint column) := by
  unfold inlineClause
  split
  · rename_i key name inline
    have named := (plain.primary (inline_primary_iff.mp inline).1).1
    split
    · exact (QuoteFree.append (by decide) named).append (by decide)
    · decide
  · decide

theorem primary_clause {key : IndexSpec} (declared : blueprint.primary? = some key) :
    QuoteFree (grammar.primaryClause key) := by
  obtain ⟨named, columns⟩ := plain.primary declared
  have listed := QuoteFree.columnize grammar columns
  exact (((QuoteFree.append (by decide) named).append (by decide)).append listed).append (by decide)

theorem foreign_clause {key : ForeignKey} (free : ∀ text ∈ (Command.foreign key).bareTexts,
    QuoteFree text) : QuoteFree (grammar.foreignClause key) := by
  simp only [Command.bareTexts, List.forall_mem_cons, List.forall_mem_append] at free
  obtain ⟨named, table, ⟨columns, references⟩, action⟩ := free
  have own := QuoteFree.columnize grammar columns
  have target := plain.wrap_table table
  have referred := QuoteFree.columnize grammar references
  apply QuoteFree.append
  · exact (((((((QuoteFree.append (by decide) named).append (by decide)).append own).append
      (by decide)).append target).append (by decide)).append referred).append (by decide)
  · cases taken : key.onDelete with
    | none => decide
    | some words => exact QuoteFree.append (by decide) (action words (by simp [taken]))

theorem created_clauses : ∀ clause ∈ blueprint.foreignKeys.map grammar.foreignClause ++
    (blueprint.primary?.map grammar.primaryClause).toList, QuoteFree clause := by
  intro clause member
  rcases List.mem_append.mp member with foreign | primary
  · obtain ⟨key, listed, rfl⟩ := List.mem_map.mp foreign
    obtain ⟨command, there, own⟩ := List.mem_filterMap.mp listed
    cases command <;> simp [Command.foreign?] at own
    subst own
    exact plain.foreign_clause (plain.commands _ there)
  · simp only [Option.mem_toList, Option.map_eq_some_iff] at primary
    obtain ⟨key, declared, rfl⟩ := primary
    exact plain.primary_clause declared

theorem primary_statements {key : IndexSpec}
    (free : ∀ text ∈ (Command.primary key).bareTexts, QuoteFree text) {statements : List String}
    (written : grammar.primaryStatements blueprint key = .ok statements) :
    ∀ statement ∈ statements, QuoteFree statement := by
  obtain ⟨named, columns⟩ := List.forall_mem_cons.mp free
  have adding := (plain.alteration (show QuoteFree " add constraint " by decide)).append named
  have listed := QuoteFree.columnize grammar columns
  rcases primary_statements_cases written with rfl | rfl
  · exact List.forall_mem_nil _
  · rw [List.forall_mem_singleton]
    exact ((adding.append (by decide)).append listed).append (by decide)

theorem index_statement {opening statement : String} {index : IndexSpec} (opens : QuoteFree opening)
    (free : ∀ text ∈ index.name :: index.columns, QuoteFree text)
    (written : grammar.indexStatement blueprint opening index = .ok statement) :
    QuoteFree statement := by
  obtain ⟨named, columns⟩ := List.forall_mem_cons.mp free
  have opened := (opens.append named).append (show QuoteFree " on " by decide)
  have target := opened.append plain.own_table
  have listed := QuoteFree.columnize grammar columns
  rw [(index_statement_eq_ok_iff.mp written).2]
  exact ((target.append (by decide)).append listed).append (by decide)

theorem drop_statement : QuoteFree (grammar.dropStatement blueprint.table) :=
  QuoteFree.append (by decide) plain.own_table

theorem drop_constraint {name : String} (free : QuoteFree name) (kind : ConstraintKind) :
    QuoteFree (grammar.dropConstraint blueprint.table name kind) := by
  cases kind with
  | index => exact QuoteFree.append (by decide) free
  | primary | foreign =>
      exact ((QuoteFree.append (by decide) plain.own_table).append (by decide)).append free

theorem same_table {after : Blueprint} (same : Blueprint.SameTable blueprint after)
    (commands : ∀ command ∈ after.commands, ∀ text ∈ command.bareTexts, QuoteFree text) :
    PlainTexts grammar after := by
  refine ⟨plain.schemaPrefix, plain.tablePrefix, ?_, ?_, ?_, ?_, commands⟩
  · rw [same.table]
    exact plain.table
  · rw [same.tablePrefix]
    exact plain.indexPrefix
  · rw [same.columns]
    exact plain.columns
  · rw [same.columns]
    exact plain.expressions

theorem index_name (kind : IndexKind) {columns : List String}
    (named : ∀ name ∈ columns, QuoteFree name) :
    QuoteFree (blueprint.indexName kind.word columns) := by
  apply QuoteFree.index_name blueprint plain.indexPrefix plain.table named
  cases kind <;> decide

theorem filled_index {kind : IndexKind} {spec : IndexSpec}
    (free : ∀ text ∈ spec.name :: spec.columns, QuoteFree text) :
    ∀ text ∈ (blueprint.filledIndex kind spec).name :: (blueprint.filledIndex kind spec).columns,
      QuoteFree text := by
  obtain ⟨named, columns⟩ := List.forall_mem_cons.mp free
  rw [Blueprint.filled_index_columns]
  refine List.forall_mem_cons.mpr ⟨?_, columns⟩
  unfold Blueprint.filledIndex
  split
  · exact plain.index_name kind columns
  · exact named

theorem filled_command {command : Command} (free : ∀ text ∈ command.bareTexts, QuoteFree text) :
    ∀ text ∈ (blueprint.filledCommand command).bareTexts, QuoteFree text := by
  cases command with
  | primary key | unique key | index key => exact plain.filled_index free
  | foreign key =>
      have columns : ∀ name ∈ key.columns, QuoteFree name := by
        intro name listed
        exact free name (by simp [Command.bareTexts, listed])
      simp only [Blueprint.filledCommand, Blueprint.namedForeign]
      split
      · exact List.forall_mem_cons.mpr
          ⟨plain.index_name .foreign columns, (List.forall_mem_cons.mp free).2⟩
      · exact free
  | _ => exact free

theorem with_implied : PlainTexts grammar blueprint.withImplied := by
  apply plain.same_table (Blueprint.with_implied_same_table blueprint)
  rw [Blueprint.with_implied_eq]
  intro command member
  have altered := Blueprint.with_alterations_same_table blueprint
  rcases List.mem_append.mp member with kept | missing
  · rcases Blueprint.mem_with_alterations kept with given | altering
    · exact plain.commands command given
    · obtain ⟨names, rfl⟩ | ⟨names, rfl⟩ := Command.alteration_cases altering
      · exact List.forall_mem_nil _
      · exact List.forall_mem_nil _
  · obtain ⟨kind, column, there, spec, declared, columns, named⟩ :=
      Blueprint.spec_of_missing missing
    rw [altered.columns] at there
    rw [altered.index_name] at named
    have free : ∀ text ∈ spec.name :: spec.columns, QuoteFree text := by
      have own : ∀ name ∈ [column.name], QuoteFree name :=
        List.forall_mem_singleton.mpr (plain.columns column there)
      rw [columns, named]
      exact List.forall_mem_cons.mpr ⟨plain.index_name kind own, own⟩
    rcases Command.spec_cases declared with ⟨_, rfl⟩ | ⟨_, rfl⟩ | ⟨_, rfl⟩ <;> exact free

theorem resolved : PlainTexts grammar blueprint.resolve.1 := by
  rcases Blueprint.resolve_cases blueprint with ⟨_, several⟩ | ⟨_, single⟩
  · rw [several]
    exact plain.with_implied
  · have same : Blueprint.SameTable blueprint.withImplied blueprint.withImplied.withNames :=
      ⟨rfl, rfl, rfl⟩
    rw [single]
    apply plain.with_implied.same_table same
    intro command member
    obtain ⟨given, there, rfl⟩ := List.mem_map.mp member
    exact plain.with_implied.filled_command (plain.with_implied.commands given there)

end PlainTexts

theorem literals_of_passes {text : String} {contents : List String}
    (passes : Passes text contents) : literals? text = some contents :=
  literals_of_reads passes.reads

theorem map_literals_of_paired {Item : Type} {data : Item → List String} {items : List Item}
    {texts : List String}
    (paired : List.Forall₂ (fun item text => literals? text = some (data item)) items texts) :
    texts.map literals? = (items.map data).map some := by
  induction paired with
  | nil => rfl
  | cons head _ ih => rw [List.map_cons, List.map_cons, List.map_cons, head, ih]

namespace Grammar

variable {grammar : Grammar} {blueprint : Blueprint}

theorem definitions_pass (plain : PlainTexts grammar blueprint) {definitions : List String}
    (defined : List.Forall₂ (fun column definition =>
      grammar.columnDefinition blueprint column = .ok definition)
      blueprint.addedColumns definitions) :
    List.Forall₂ Passes definitions (blueprint.addedColumns.map fun column =>
      columnData column (grammar.renderedDefault blueprint column)) := by
  rw [List.forall₂_map_right_iff]
  apply List.Forall₂.flip
  apply forall_imp_of_mem defined
  intro column added definition written
  have member := (List.mem_filter.mp added).1
  obtain ⟨type, stored, rfl⟩ := column_definition_eq_ok_iff.mp written
  change Passes _ (columnData column (grammar.renderedDefault blueprint column))
  rw [rendered_default_eq stored]
  exact render_column_passes stored (plain.columns column member)
    fun sql same => plain.effective_default member same

theorem create_literals (plain : PlainTexts grammar blueprint) {statement : String}
    (written : grammar.createStatement blueprint = .ok statement) :
    literals? statement = some (blueprint.addedColumns.flatMap fun column =>
      columnData column (grammar.renderedDefault blueprint column)) := by
  obtain ⟨definitions, defined, _, rfl⟩ := create_statement_eq_ok_iff.mp written
  have closing : QuoteFree (String.join ((blueprint.foreignKeys.map grammar.foreignClause ++
      (blueprint.primary?.map grammar.primaryClause).toList).map (", " ++ ·))) := by
    apply QuoteFree.join
    intro text member
    obtain ⟨clause, listed, rfl⟩ := List.mem_map.mp member
    exact QuoteFree.append (by decide) (plain.created_clauses clause listed)
  have opening : QuoteFree ("create table " ++ grammar.wrapTable blueprint.table ++ " ( ") :=
    (QuoteFree.append (by decide) plain.own_table).append (by decide)
  have body := Passes.intercalate (show QuoteFree ", " by decide) (definitions_pass plain defined)
  have opened := (Passes.of_quote_free opening).append body
  rw [List.flatMap_def]
  exact literals_of_passes ((opened.append_plain closing).append_plain (by decide))

theorem add_literals (plain : PlainTexts grammar blueprint) {name statement : String}
    (written : grammar.addStatement blueprint name = .ok statement) :
    literals? statement =
      some (namedData blueprint (grammar.renderedDefault blueprint) name) := by
  obtain ⟨column, type, found, stored, rfl⟩ := add_statement_eq_ok_iff.mp written
  have member := List.mem_of_find?_eq_some found
  have definition : Passes (grammar.renderColumn blueprint.table column type
      (grammar.effectiveDefault blueprint column type))
      (columnData column (grammar.effectiveDefault blueprint column type)) :=
    render_column_passes stored (plain.columns column member)
      fun sql same => plain.effective_default member same
  have opening := Passes.of_quote_free (plain.alteration (show QuoteFree " add " by decide))
  rw [namedData, found]
  dsimp only
  rw [rendered_default_eq stored]
  exact literals_of_passes ((opening.append definition).append_plain (plain.inline_clause column))

theorem change_literals (plain : PlainTexts grammar blueprint) {name statement : String}
    (written : grammar.changeStatement blueprint name = .ok statement) :
    literals? statement = some (namedData blueprint Column.defaultValue name) := by
  obtain ⟨column, type, found, stored, rfl⟩ := change_statement_eq_ok_iff.mp written
  have member := List.mem_of_find?_eq_some found
  have definition : Passes (grammar.renderColumn blueprint.table column type column.defaultValue)
      (columnData column column.defaultValue) :=
    render_column_passes stored (plain.columns column member) (plain.expressions column member)
  have opening := Passes.of_quote_free (plain.alteration (show QuoteFree " modify " by decide))
  rw [namedData, found]
  exact literals_of_passes (opening.append definition)

theorem comment_literals (plain : PlainTexts grammar blueprint) (comment : String) :
    literals? ("comment on table " ++ grammar.wrapTable blueprint.table ++ " is " ++
      sqlLiteral comment) = some [comment] := by
  have opening : QuoteFree ("comment on table " ++ grammar.wrapTable blueprint.table ++ " is ") :=
    (QuoteFree.append (by decide) plain.own_table).append (by decide)
  exact literals_of_reads ((Passes.of_quote_free opening).append_reads (reads_literal comment))

theorem column_exists_literals (owner table : String) :
    literals? (columnExistsQuery owner table) = some [owner, table] :=
  literals_of_passes (Passes.around_two owner table (.of_chars (by decide))
    (.of_chars (by decide)) (by decide) (.of_chars (by decide)) (by decide))

theorem drop_if_exists_literals (table : String) :
    literals? (grammar.dropIfExistsBlock table) =
      some [grammar.prefixedTable table, grammar.dropStatement table] :=
  literals_of_passes (Passes.around_two _ _ (.of_chars (by decide))
    (.of_chars (by decide)) (by decide) (.of_chars (by decide)) (by decide))

theorem update_enum_literals (plain : PlainTexts grammar blueprint) {column : String}
    (free : QuoteFree column) (allowed : List String) :
    (grammar.updateEnumStatements blueprint.table column allowed).map literals? =
      [some [], some allowed] := by
  have constraint := QuoteFree.enum_constraint grammar blueprint.table column
  have dropping :=
    (plain.alteration (show QuoteFree " drop constraint " by decide)).append constraint
  have adding := ((plain.alteration (show QuoteFree " add constraint " by decide)).append
    constraint).append (show QuoteFree " " by decide)
  have check : Passes (grammar.enumCheck column allowed) allowed := enum_check_passes free allowed
  have checked := (Passes.of_quote_free adding).append check
  unfold updateEnumStatements
  dsimp only
  rw [List.map_cons, List.map_cons, literals_of_passes (.of_quote_free dropping),
    literals_of_passes checked]
  rfl

theorem drop_all_tables_literals : literals? dropAllTablesBlock =
    some ["DROP TABLE \"", "\" CASCADE CONSTRAINTS", "DROP SEQUENCE "] := by
  have tables : Passes
      "EXECUTE IMMEDIATE ('DROP TABLE \"' || c.table_name || '\" CASCADE CONSTRAINTS');"
      ["DROP TABLE \"", "\" CASCADE CONSTRAINTS"] := by
    have line : "EXECUTE IMMEDIATE ('DROP TABLE \"' || c.table_name || '\" CASCADE CONSTRAINTS');" =
        "EXECUTE IMMEDIATE (" ++ sqlLiteral "DROP TABLE \"" ++ " || c.table_name || " ++
          sqlLiteral "\" CASCADE CONSTRAINTS" ++ ");" := by decide
    rw [line]
    exact Passes.around_two _ _ (by decide) (by decide) (by decide) (by decide) (by decide)
  have sequences : Passes "EXECUTE IMMEDIATE ('DROP SEQUENCE ' || s.sequence_name);"
      ["DROP SEQUENCE "] := by
    have line : "EXECUTE IMMEDIATE ('DROP SEQUENCE ' || s.sequence_name);" =
        "EXECUTE IMMEDIATE (" ++ sqlLiteral "DROP SEQUENCE " ++ " || s.sequence_name);" := by decide
    have opening : Passes "EXECUTE IMMEDIATE (" [] := .of_quote_free (by decide)
    rw [line]
    exact (opening.append_reads (reads_literal _)).append_plain (by decide) (by decide)
  have plain : ∀ {line : String}, QuoteFree line → Passes line [] := .of_quote_free
  refine literals_of_passes (Passes.intercalate (by decide) (.cons (plain ?_) (.cons (plain ?_)
    (.cons tables (.cons (plain ?_) (.cons (plain ?_) (.cons sequences (.cons (plain ?_)
      (.cons (plain ?_) .nil)))))))))
  all_goals exact QuoteFree.of_chars (by decide)

theorem quote_free_statements (plain : PlainTexts grammar blueprint) {command : Command}
    (member : command ∈ blueprint.commands)
    (dataless : grammar.literalData? blueprint command = none) {statements : List String}
    (written : grammar.compile blueprint command = .ok statements) :
    ∀ statement ∈ statements, QuoteFree statement := by
  have bare := plain.commands command member
  cases command with
  | create | add | change | tableComment | updateEnum | columnExists | dropIfExists
  | dropAllTables => cases dataless
  | primary key => exact plain.primary_statements bare written
  | foreign key =>
      cases written
      unfold foreignStatements
      split
      · exact List.forall_mem_nil _
      · rw [List.forall_mem_singleton]
        exact (plain.alteration (show QuoteFree " add " by decide)).append
          (plain.foreign_clause bare)
  | unique index | index index =>
      obtain ⟨statement, indexed, rfl⟩ := bind_pure_eq_ok_iff.mp written
      rw [List.forall_mem_singleton]
      exact plain.index_statement (by decide) bare indexed
  | drop =>
      cases written
      rw [List.forall_mem_singleton]
      exact plain.drop_statement
  | dropColumn columns =>
      cases written
      intro statement listed
      obtain ⟨column, there, rfl⟩ := List.mem_map.mp listed
      exact (plain.alteration (show QuoteFree " drop column " by decide)).append
        (QuoteFree.wrap grammar (bare column there))
  | dropPrimary name | dropUnique name | dropIndex name | dropForeign name =>
      cases written
      rw [List.forall_mem_singleton]
      exact plain.drop_constraint (bare name (List.mem_singleton_self name)) _
  | rename target =>
      cases written
      rw [List.forall_mem_singleton]
      exact (plain.alteration (show QuoteFree " rename to " by decide)).append
        (plain.wrap_table (bare target (List.mem_singleton_self target)))
  | renameColumn source target =>
      cases written
      rw [List.forall_mem_singleton]
      have from_free := QuoteFree.wrap grammar (bare source List.mem_cons_self)
      have to_free := QuoteFree.wrap grammar
        (bare target (List.mem_cons_of_mem _ List.mem_cons_self))
      exact (((plain.alteration (show QuoteFree " rename column " by decide)).append
        from_free).append (by decide)).append to_free
  | tableExists =>
      cases written
      rw [List.forall_mem_singleton]
      exact QuoteFree.of_chars (by decide)

theorem holds_data (plain : PlainTexts grammar blueprint) {command : Command}
    (member : command ∈ blueprint.commands) {statements : List String}
    (written : grammar.compile blueprint command = .ok statements) :
    grammar.HoldsData blueprint command statements := by
  cases command with
  | create =>
      obtain ⟨statement, created, rfl⟩ := bind_pure_eq_ok_iff.mp written
      exact congrArg (fun contents => [contents]) (create_literals plain created)
  | add names =>
      apply map_literals_of_paired
      exact ((mapM_eq_ok_iff _ _ _).mp written).imp fun _ _ => add_literals plain
  | change names =>
      apply map_literals_of_paired
      exact ((mapM_eq_ok_iff _ _ _).mp written).imp fun _ _ => change_literals plain
  | tableComment comment =>
      cases written
      exact congrArg (fun contents => [contents]) (comment_literals plain comment)
  | updateEnum column allowed =>
      cases written
      exact update_enum_literals plain
        (plain.commands _ member column (List.mem_singleton_self column)) allowed
  | columnExists database =>
      cases written
      exact congrArg (fun contents => [contents]) (column_exists_literals database _)
  | dropIfExists =>
      cases written
      exact congrArg (fun contents => [contents]) (drop_if_exists_literals blueprint.table)
  | dropAllTables =>
      cases written
      exact congrArg (fun contents => [contents]) drop_all_tables_literals
  | _ =>
      intro statement listed
      exact literals_of_passes
        (.of_quote_free (quote_free_statements plain member rfl written statement listed))

theorem closed_of_holds_data {command : Command} {statements : List String}
    (holds : grammar.HoldsData blueprint command statements) :
    ∀ statement ∈ statements, (literals? statement).isSome = true := by
  intro statement listed
  unfold HoldsData at holds
  cases expected : grammar.literalData? blueprint command with
  | none =>
      rw [expected] at holds
      rw [holds statement listed]
      rfl
  | some data =>
      rw [expected] at holds
      have image := List.mem_map_of_mem (f := literals?) listed
      rw [holds] at image
      obtain ⟨contents, _, same⟩ := List.mem_map.mp image
      rw [← same]
      rfl

/-- No data gets out of its literal: every statement closes all its literals, and what these hold,
command by command, is the data of the command in order. -/
theorem literals_hold_data (grammar : Grammar) (blueprint : Blueprint) (statements : List String)
    (plain : PlainTexts grammar blueprint)
    (compiled : (grammar.toSql blueprint).2 = .ok statements) :
    let resolved := (grammar.toSql blueprint).1
    statements = resolved.commands.flatMap (grammar.emitted resolved) ∧
    (∀ statement ∈ statements, (literals? statement).isSome = true) ∧
    ∀ command ∈ resolved.commands,
      grammar.HoldsData resolved command (grammar.emitted resolved command) := by
  obtain ⟨_, each, joined⟩ := to_sql_emits compiled
  have plain_resolved : PlainTexts grammar (grammar.toSql blueprint).1 := by
    rw [to_sql_blueprint]
    exact plain.resolved
  rw [statements_of_emissions] at joined
  have holds : ∀ command ∈ (grammar.toSql blueprint).1.commands,
      grammar.HoldsData (grammar.toSql blueprint).1 command
        (grammar.emitted (grammar.toSql blueprint).1 command) :=
    fun command member => holds_data plain_resolved member (each command member)
  refine ⟨joined, ?_, holds⟩
  intro statement listed
  rw [joined] at listed
  obtain ⟨command, member, written⟩ := List.mem_flatMap.mp listed
  exact closed_of_holds_data (holds command member) statement written

def peopleOfMoods : Blueprint :=
  { table := "people"
    columns := [
      { name := "name", type := .text, defaultValue := some (.text "O'Neil") },
      { name := "mood", type := .enum, nullable := false, allowed := ["it's fine", "", "'"] },
      { name := "since", type := .date, defaultValue := some (.expression "SYSDATE") }]
    commands := [.create, .tableComment "who's who", .updateEnum "mood" ["so-so", "don't ask"],
      .columnExists "o'owner", .dropIfExists] }

theorem literals_hold_data_people :
    PlainTexts {} peopleOfMoods ∧
    let resolved := (toSql {} peopleOfMoods).1
    ∃ statements, (toSql {} peopleOfMoods).2 = .ok statements ∧
      statements = resolved.commands.flatMap (emitted {} resolved) ∧
      (∀ statement ∈ statements, (literals? statement).isSome = true) ∧
      (∀ command ∈ resolved.commands, HoldsData {} resolved command (emitted {} resolved command)) ∧
      resolved.commands.filterMap (literalData? {} resolved) =
        [[["O'Neil", "", "it's fine", "", "'"]], [["who's who"]], [[], ["so-so", "don't ask"]],
          [["o'owner", "people"]], [["people", "drop table people"]]] := by
  have plain : PlainTexts {} peopleOfMoods := by
    refine ⟨by decide, by decide, by decide, by decide, by decide, ?_, by decide⟩
    intro column member sql own
    simp only [peopleOfMoods, List.mem_cons, List.not_mem_nil, or_false] at member
    rcases member with rfl | rfl | rfl
    · cases own
    · cases own
    · cases own
      decide
  obtain ⟨statements, compiled⟩ : ∃ statements, (toSql {} peopleOfMoods).2 = .ok statements :=
    ⟨_, rfl⟩
  obtain ⟨joined, closed, holds⟩ := literals_hold_data {} peopleOfMoods statements plain compiled
  exact ⟨plain, statements, compiled, joined, closed, holds, by decide +kernel⟩

end Grammar

end SchemaBlueprint
