import SchemaBlueprint.Proofs.ReservedSegment
import SchemaBlueprint.Proofs.StatementParts

/-!
The lists of a statement. A reader goes through the parts of a statement and keeps, for the
statement and every list that is open, whether something has been written there since the last
comma. It stops at a comma or a closing mark with nothing before it, so what it reads to the end has
no empty list and no list with an empty item.
-/

namespace SchemaBlueprint.Grammar

set_option autoImplicit false

/-- Reads one part. The levels are the open lists, innermost first, and the statement itself; each
tells whether its current item has something in it. -/
def readPart (grammar : Grammar) (levels : List Bool) : Part → Option (List Bool)
  | .opening _ => some (false :: levels)
  | .comma =>
      match levels with
      | true :: outer :: rest => some (false :: outer :: rest)
      | _ => none
  | .closing _ =>
      match levels with
      | true :: _ :: rest => some (true :: rest)
      | _ => none
  | .held part => grammar.readPart levels part
  | .words text =>
      match levels with
      | filled :: rest => some ((filled || !text.isEmpty) :: rest)
      | [] => none
  | .name role name =>
      match levels with
      | filled :: rest => some ((filled || !(grammar.writtenName role name).isEmpty) :: rest)
      | [] => none

def readParts (grammar : Grammar) (levels : List Bool) (parts : List Part) : Option (List Bool) :=
  parts.foldlM grammar.readPart levels

/-- Whether all lists in the parts of a statement are well formed: each is closed, has an item, and
has no item that is empty. -/
def ListsWellFormed (grammar : Grammar) (parts : List Part) : Prop :=
  ∃ filled, grammar.readParts [false] parts = some [filled]

def FitsList (grammar : Grammar) (item : List Part) : Prop :=
  grammar.readParts [false, false] item = some [true, false]

/-- Reading `parts` succeeds anywhere exactly if they are `sound`. It leaves the open lists as they
are, with something in the innermost if there was before or the parts have `written` something. -/
def Reads (grammar : Grammar) (parts : List Part) (sound : Prop) (written : Bool) : Prop :=
  ∀ filled outer levels, grammar.readParts (filled :: outer) parts = some levels ↔
    sound ∧ levels = (filled || written) :: outer

def isPlain : Part → Bool
  | .words _ | .name _ _ => true
  | .held part => isPlain part
  | .opening _ | .comma | .closing _ => false

instance (grammar : Grammar) : DecidablePred grammar.ListsWellFormed := fun parts =>
  inferInstanceAs (Decidable (∃ filled, grammar.readParts [false] parts = some [filled]))

variable {grammar : Grammar} {blueprint : Blueprint}

theorem read_parts_append (levels : List Bool) (front back : List Part) :
    grammar.readParts levels (front ++ back) =
      (grammar.readParts levels front).bind fun between => grammar.readParts between back :=
  List.foldlM_append

theorem read_parts_cons (levels : List Bool) (part : Part) (parts : List Part) :
    grammar.readParts levels (part :: parts) =
      (grammar.readPart levels part).bind fun between => grammar.readParts between parts := by
  rw [readParts, List.foldlM_cons]
  rfl

namespace Reads

variable {parts front back : List Part} {sound first second : Prop} {written wrote : Bool}

theorem well_formed_iff (reads : grammar.Reads parts sound written) :
    grammar.ListsWellFormed parts ↔ sound := by
  constructor
  · rintro ⟨filled, done⟩
    exact ((reads _ _ _).mp done).1
  · exact fun good => ⟨_, (reads _ _ _).mpr ⟨good, rfl⟩⟩

theorem fits_iff (reads : grammar.Reads parts sound written) :
    grammar.FitsList parts ↔ sound ∧ written = true := by
  rw [FitsList, reads]
  simp [eq_comm]

theorem nil : grammar.Reads [] True false := by
  intro filled outer levels
  simp [readParts, eq_comm]

theorem words (grammar : Grammar) (text : String) :
    grammar.Reads [.words text] True (!text.isEmpty) := by
  intro filled outer levels
  simp [readParts, readPart, eq_comm]

theorem name (grammar : Grammar) (role : NameRole) (name : String) :
    grammar.Reads [.name role name] True (!(grammar.writtenName role name).isEmpty) := by
  intro filled outer levels
  simp [readParts, readPart, eq_comm]

theorem append (reads : grammar.Reads front first written)
    (follows : grammar.Reads back second wrote) :
    grammar.Reads (front ++ back) (first ∧ second) (written || wrote) := by
  intro filled outer levels
  rw [read_parts_append, Option.bind_eq_some_iff]
  constructor
  · rintro ⟨between, before, after⟩
    obtain ⟨good, rfl⟩ := (reads _ _ _).mp before
    obtain ⟨goodToo, rfl⟩ := (follows _ _ _).mp after
    exact ⟨⟨good, goodToo⟩, by rw [Bool.or_assoc]⟩
  · rintro ⟨⟨good, goodToo⟩, rfl⟩
    exact ⟨_, (reads _ _ _).mpr ⟨good, rfl⟩, (follows _ _ _).mpr ⟨goodToo, by rw [Bool.or_assoc]⟩⟩

theorem congr (reads : grammar.Reads parts first written) (same : first ↔ second)
    (equal : written = wrote) : grammar.Reads parts second wrote := by
  intro filled outer levels
  rw [reads, same, equal]

theorem held (reads : grammar.Reads parts sound written) :
    grammar.Reads (parts.map .held) sound written := by
  intro filled outer levels
  rw [readParts, List.foldlM_map]
  exact reads filled outer levels

theorem plain_part (grammar : Grammar) {part : Part} (own : isPlain part = true) :
    ∃ written, grammar.Reads [part] True written := by
  induction part with
  | words text => exact ⟨_, words grammar text⟩
  | name role given => exact ⟨_, name grammar role given⟩
  | held part ih =>
      obtain ⟨_, reads⟩ := ih own
      exact ⟨_, reads.held⟩
  | opening | comma | closing => cases own

theorem plain (grammar : Grammar) (parts : List Part) (each : parts.all isPlain = true) :
    ∃ written, grammar.Reads parts True written := by
  induction parts with
  | nil => exact ⟨_, nil⟩
  | cons part rest ih =>
      obtain ⟨own, others⟩ := Bool.and_eq_true_iff.mp each
      obtain ⟨_, first⟩ := plain_part grammar own
      obtain ⟨_, later⟩ := ih others
      exact ⟨_, (first.append later).congr and_self_iff rfl⟩

theorem read_items {items : List (List Part)} (some_item : items ≠ [])
    (each : ∀ item ∈ items, ∃ sound written, grammar.Reads item sound written) (closing : String)
    (filled : Bool) (outer levels : List Bool) :
    grammar.readParts (false :: filled :: outer) (divided items ++ [.closing closing]) =
        some levels ↔
      (∀ item ∈ items, grammar.FitsList item) ∧ levels = true :: outer := by
  induction items with
  | nil => exact absurd rfl some_item
  | cons item items ih =>
      obtain ⟨⟨sound, written, reads⟩, others⟩ := List.forall_mem_cons.mp each
      cases items with
      | nil =>
          rw [divided, read_parts_append, Option.bind_eq_some_iff, List.forall_mem_singleton,
            reads.fits_iff]
          constructor
          · rintro ⟨between, before, closed⟩
            obtain ⟨good, rfl⟩ := (reads _ _ _).mp before
            cases written
            · cases closed
            · cases closed
              exact ⟨⟨good, rfl⟩, rfl⟩
          · rintro ⟨⟨good, rfl⟩, rfl⟩
            exact ⟨_, (reads _ _ _).mpr ⟨good, rfl⟩, rfl⟩
      | cons next rest =>
          have tail := ih (List.cons_ne_nil _ _) others
          rw [divided, List.append_assoc, read_parts_append, Option.bind_eq_some_iff,
            List.forall_mem_cons, reads.fits_iff, and_assoc, ← tail]
          constructor
          · rintro ⟨between, before, after⟩
            obtain ⟨good, rfl⟩ := (reads _ _ _).mp before
            cases written
            · cases after
            · exact ⟨⟨good, rfl⟩, after⟩
          · rintro ⟨⟨good, rfl⟩, after⟩
            exact ⟨_, (reads _ _ _).mpr ⟨good, rfl⟩, after⟩

theorem list {items : List (List Part)}
    (each : ∀ item ∈ items, ∃ sound written, grammar.Reads item sound written)
    (opening closing : String) :
    grammar.Reads (listParts opening closing items)
      (items ≠ [] ∧ ∀ item ∈ items, grammar.FitsList item) true := by
  intro filled outer levels
  cases items with
  | nil =>
      constructor
      · rintro ⟨⟩
      · rintro ⟨⟨some_item, _⟩, _⟩
        exact absurd rfl some_item
  | cons item items =>
      have read := read_items (List.cons_ne_nil item items) each closing filled outer levels
      rw [listParts, read_parts_cons, Bool.or_true]
      simpa [readPart] using read

example : ¬ ListsWellFormed {} (listParts "(" ")" []) := by decide

example : ¬ ListsWellFormed {} (listParts "(" ")" [[.words "a"], []]) := by decide

theorem continued {items clauses : List (List Part)}
    (each : ∀ item ∈ items ++ clauses, ∃ sound written, grammar.Reads item sound written)
    (opening closing : String) :
    grammar.Reads (.opening opening ::
        (divided items ++ clauses.flatMap (Part.comma :: ·) ++ [.closing closing]))
      (items ≠ [] ∧ ∀ item ∈ items ++ clauses, grammar.FitsList item) true := by
  cases items with
  | nil =>
      -- The opening mark stands right before a comma or the closing mark.
      intro filled outer levels
      rw [read_parts_cons]
      cases clauses <;> simp [divided, readPart, read_parts_cons]
  | cons item items =>
      have body : divided (item :: items) ++ clauses.flatMap (Part.comma :: ·) =
          divided (item :: items ++ clauses) := by
        rw [List.cons_append, divided_cons, divided_cons, List.flatMap_append, List.append_assoc]
      rw [body]
      exact (list each opening closing).congr (by simp) rfl

end Reads

/-- Whether names make a list: there is one, and none of them is empty. An empty name can stand in a
list only where it is reserved, since it is quoted then. -/
def Filled (grammar : Grammar) (names : List String) : Prop :=
  names ≠ [] ∧ ∀ name ∈ names, name = "" → grammar.policy.isReserved "" = true

/-- Whether a command gives every list that it writes something to list. -/
def FillsLists (grammar : Grammar) (blueprint : Blueprint) : Command → Prop
  | .create => blueprint.addedColumns ≠ [] ∧
      (∀ key ∈ blueprint.foreignKeys,
        grammar.Filled key.columns ∧ grammar.Filled key.references) ∧
      ∀ key ∈ blueprint.primary?, grammar.Filled key.columns
  | .primary key => standsAlone blueprint key = true → grammar.Filled key.columns
  | .foreign key => blueprint.creating = false →
      grammar.Filled key.columns ∧ grammar.Filled key.references
  | .unique index | .index index => grammar.Filled index.columns
  | .updateEnum _ allowed => allowed ≠ []
  | _ => True

theorem reads_columns (grammar : Grammar) (opening closing : String) (names : List String) :
    grammar.Reads (listParts opening closing (columnItems names)) (grammar.Filled names) true := by
  have fits : ∀ name, grammar.FitsList [.name .column name] ↔
      (name = "" → grammar.policy.isReserved "" = true) := by
    intro name
    rw [(Reads.name grammar .column name).fits_iff, true_and, Bool.not_eq_true',
      String.isEmpty_eq_false_iff, writtenName, wrap, Ne, Identifier.Policy.wrap_eq_empty_iff,
      not_and, Bool.not_eq_false]
  refine (Reads.list ?_ opening closing).congr ?_ rfl
  · intro item member
    obtain ⟨name, _, rfl⟩ := List.mem_map.mp member
    exact ⟨_, _, Reads.name grammar .column name⟩
  · simp only [Filled, columnItems, ne_eq, List.map_eq_nil_iff, List.forall_mem_map, fits]

theorem reads_check (grammar : Grammar) (column : String) (allowed : List String) :
    grammar.Reads (checkParts column allowed) (allowed ≠ []) true := by
  have fits : ∀ value, grammar.FitsList [.words (sqlLiteral value)] := by
    intro value
    rw [(Reads.words grammar _).fits_iff]
    simp [sqlLiteral]
  obtain ⟨_, front⟩ := Reads.plain grammar
    [.words "check (", .name .column column, .words " in "] (by simp [isPlain])
  have values : grammar.Reads
      (listParts "(" ")" (allowed.map fun value => [.words (sqlLiteral value)]))
      (allowed ≠ []) true := by
    refine (Reads.list ?_ "(" ")").congr ?_ rfl
    · intro item member
      obtain ⟨value, _, rfl⟩ := List.mem_map.mp member
      exact ⟨_, _, Reads.words grammar _⟩
    · simp [fits]
  exact ((front.append values).append (Reads.words grammar ")")).congr (by simp) (by simp)

theorem reads_definition (table : String) (column : Column) (type : String)
    (value : Option DefaultValue) :
    grammar.Reads (grammar.definitionParts table column type value) True true := by
  have typed : (typeWords column type value).isEmpty = false := by
    simp [typeWords]
  have front := (Reads.name grammar .column column.name).append
    (Reads.words grammar (typeWords column type value))
  unfold definitionParts
  cases none_allowed : column.allowed.isEmpty with
  | true => exact (front.append Reads.nil).congr (by simp) (by simp [typed])
  | false =>
      obtain ⟨_, named⟩ := Reads.plain grammar
        [.words " constraint ", .name .key (grammar.enumConstraint table column.name), .words " "]
        (by simp [isPlain])
      have check := reads_check grammar column.name column.allowed
      have some_allowed : column.allowed ≠ [] := by simpa using none_allowed
      exact (front.append (named.append check)).congr (by simp [some_allowed]) (by simp)

theorem reads_column (grammar : Grammar) (blueprint : Blueprint)
    (value : Column → String → Option DefaultValue) (column : Column) :
    ∃ written, grammar.Reads (grammar.columnParts blueprint value column) True written := by
  unfold columnParts
  cases grammar.storageType column with
  | ok type => exact ⟨_, reads_definition _ _ _ _⟩
  | error fault => exact ⟨_, Reads.nil⟩

theorem table_plain (table : String) : (grammar.tableParts table).all isPlain = true := by
  unfold tableParts
  split <;> simp [isPlain]

theorem reads_table (grammar : Grammar) (table : String) :
    ∃ written, grammar.Reads (grammar.tableParts table) True written :=
  Reads.plain grammar _ (table_plain table)

theorem reads_foreign (grammar : Grammar) (key : ForeignKey) :
    grammar.Reads (grammar.foreignParts key)
      (grammar.Filled key.columns ∧ grammar.Filled key.references) true := by
  obtain ⟨_, front⟩ := Reads.plain grammar
    [.words "constraint ", .name .key key.name, .words " foreign key"] (by simp [isPlain])
  obtain ⟨_, table⟩ := reads_table grammar key.table
  have deletion : (deletionParts key).all isPlain = true := by
    unfold deletionParts
    split <;> simp [isPlain]
  obtain ⟨_, last⟩ := Reads.plain grammar _ deletion
  have columns := reads_columns grammar " ( " " )" key.columns
  have references := reads_columns grammar " ( " " )" key.references
  exact ((front.append columns).append ((Reads.words grammar " references ").append
    ((table.append references).append last))).congr (by simp) (by simp)

theorem reads_primary (grammar : Grammar) (key : IndexSpec) :
    grammar.Reads (primaryParts key) (grammar.Filled key.columns) true := by
  obtain ⟨_, front⟩ := Reads.plain grammar
    [.words "constraint ", .name .key key.name, .words " primary key"] (by simp [isPlain])
  exact (front.append (reads_columns grammar " ( " " )" key.columns)).congr (by simp) (by simp)

theorem alter_well_formed_iff {rest : List Part} {sound : Prop} {written : Bool}
    (reads : grammar.Reads rest sound written) :
    grammar.ListsWellFormed (grammar.alterParts blueprint rest) ↔ sound := by
  obtain ⟨_, table⟩ := reads_table grammar blueprint.table
  have whole := (Reads.words grammar "alter table ").append (table.append reads)
  exact whole.well_formed_iff.trans (by simp)

theorem create_well_formed_iff {statement : String}
    (written : grammar.createStatement blueprint = .ok statement) :
    grammar.ListsWellFormed (grammar.createParts blueprint) ↔
      grammar.FillsLists blueprint .create := by
  obtain ⟨definitions, defined, _, _⟩ := create_statement_eq_ok_iff.mp written
  have column_fits : ∀ column ∈ blueprint.addedColumns,
      grammar.FitsList (grammar.newColumnParts blueprint column) := by
    intro column member
    obtain ⟨definition, _, wrote⟩ := Outcome.exists_right defined member
    obtain ⟨type, stored, _⟩ := column_definition_eq_ok_iff.mp wrote
    rw [newColumnParts, columnParts, stored]
    exact (reads_definition _ _ _ _).fits_iff.mpr ⟨trivial, rfl⟩
  have each : ∀ item ∈ blueprint.addedColumns.map (grammar.newColumnParts blueprint) ++
      grammar.constraintParts blueprint, ∃ sound written, grammar.Reads item sound written := by
    intro item member
    simp only [constraintParts, List.mem_append, List.mem_map, Option.mem_toList,
      Option.map_eq_some_iff] at member
    obtain ⟨column, _, rfl⟩ | ⟨key, _, rfl⟩ | ⟨key, _, rfl⟩ := member
    · exact ⟨_, reads_column grammar blueprint _ column⟩
    · exact ⟨_, _, reads_foreign grammar key⟩
    · exact ⟨_, _, reads_primary grammar key⟩
  have clauses : (∀ item ∈ grammar.constraintParts blueprint, grammar.FitsList item) ↔
      (∀ key ∈ blueprint.foreignKeys,
        grammar.Filled key.columns ∧ grammar.Filled key.references) ∧
      ∀ key ∈ blueprint.primary?, grammar.Filled key.columns := by
    simp only [constraintParts, List.forall_mem_append, List.forall_mem_map, Option.mem_toList,
      Option.mem_def, Option.map_eq_some_iff, forall_exists_index, and_imp,
      forall_apply_eq_imp_iff₂, (reads_foreign grammar _).fits_iff,
      (reads_primary grammar _).fits_iff, and_true]
  obtain ⟨_, table⟩ := reads_table grammar blueprint.table
  have whole := (Reads.words grammar "create table ").append
    (table.append (Reads.continued each " ( " " )"))
  refine whole.well_formed_iff.trans ?_
  rw [true_and, true_and, FillsLists, List.forall_mem_append, List.forall_mem_map, clauses, ne_eq,
    List.map_eq_nil_iff]
  exact and_congr_right fun _ => and_iff_right column_fits

theorem add_well_formed (column : Column) :
    grammar.ListsWellFormed (grammar.addParts blueprint column) := by
  obtain ⟨_, definition⟩ :=
    reads_column grammar blueprint (grammar.effectiveDefault blueprint) column
  have key : (inlineParts blueprint column).all isPlain = true := by
    unfold inlineParts
    split
    · split <;> simp [isPlain]
    · simp
  obtain ⟨_, last⟩ := Reads.plain grammar _ key
  have rest := (Reads.words grammar " add ").append (definition.append last)
  exact (alter_well_formed_iff rest).mpr (by simp)

theorem change_well_formed (column : Column) :
    grammar.ListsWellFormed (grammar.changeParts blueprint column) := by
  obtain ⟨_, definition⟩ :=
    reads_column grammar blueprint (fun column _ => column.defaultValue) column
  have rest := (Reads.words grammar " modify ").append definition
  exact (alter_well_formed_iff rest).mpr (by simp)

theorem index_well_formed_iff (opening : String) (index : IndexSpec) :
    grammar.ListsWellFormed (grammar.indexParts blueprint opening index) ↔
      grammar.Filled index.columns := by
  obtain ⟨_, front⟩ := Reads.plain grammar
    [.words opening, .name .key index.name, .words " on "] (by simp [isPlain])
  obtain ⟨_, table⟩ := reads_table grammar blueprint.table
  have whole := (front.append table).append (reads_columns grammar " ( " " )" index.columns)
  exact whole.well_formed_iff.trans (by simp)

theorem stand_alone_well_formed_iff (key : IndexSpec) :
    (∀ parts ∈ grammar.commandParts blueprint (.primary key), grammar.ListsWellFormed parts) ↔
      (standsAlone blueprint key = true → grammar.Filled key.columns) := by
  rw [commandParts]
  cases standsAlone blueprint key with
  | false => simp
  | true =>
      obtain ⟨_, front⟩ := Reads.plain grammar
        [.words " add constraint ", .name .key key.name, .words " primary key "] (by simp [isPlain])
      have rest := front.append (reads_columns grammar "(" ")" key.columns)
      rw [if_pos rfl, List.forall_mem_singleton]
      exact (alter_well_formed_iff rest).trans (by simp)

theorem foreign_well_formed_iff (key : ForeignKey) :
    (∀ parts ∈ grammar.commandParts blueprint (.foreign key), grammar.ListsWellFormed parts) ↔
      (blueprint.creating = false →
        grammar.Filled key.columns ∧ grammar.Filled key.references) := by
  rw [commandParts]
  cases blueprint.creating with
  | true => simp
  | false =>
      have rest := (Reads.words grammar " add ").append (reads_foreign grammar key)
      rw [if_neg (by decide), List.forall_mem_singleton]
      exact (alter_well_formed_iff rest).trans (by simp)

theorem update_enum_well_formed_iff (column : String) (allowed : List String) :
    (∀ parts ∈ grammar.commandParts blueprint (.updateEnum column allowed),
      grammar.ListsWellFormed parts) ↔ allowed ≠ [] := by
  obtain ⟨_, dropped⟩ := Reads.plain grammar [.words " drop constraint ",
    .name .key (grammar.enumConstraint blueprint.table column)] (by simp [isPlain])
  obtain ⟨_, front⟩ := Reads.plain grammar [.words " add constraint ",
    .name .key (grammar.enumConstraint blueprint.table column), .words " "] (by simp [isPlain])
  have renewed := front.append (reads_check grammar column allowed)
  rw [commandParts, List.forall_mem_cons, List.forall_mem_singleton,
    alter_well_formed_iff dropped, alter_well_formed_iff renewed]
  simp

theorem lists_of_command {command : Command} {statements : List String}
    (written : grammar.compile blueprint command = .ok statements) :
    (∀ parts ∈ grammar.commandParts blueprint command, grammar.ListsWellFormed parts) ↔
      grammar.FillsLists blueprint command := by
  -- Without a list of its own a statement is always well formed.
  have plain : ∀ {parts : List Part}, parts.all isPlain = true → grammar.ListsWellFormed parts := by
    intro parts each
    obtain ⟨_, reads⟩ := Reads.plain grammar _ each
    exact reads.well_formed_iff.mpr trivial
  cases command with
  | create =>
      obtain ⟨statement, created, _⟩ := Outcome.bind_pure_eq_ok_iff.mp written
      rw [commandParts, List.forall_mem_singleton]
      exact create_well_formed_iff created
  | add names =>
      rw [commandParts, List.forall_mem_map]
      exact iff_of_true (fun column _ => add_well_formed column) trivial
  | change names =>
      rw [commandParts, List.forall_mem_map]
      exact iff_of_true (fun column _ => change_well_formed column) trivial
  | primary key => exact stand_alone_well_formed_iff key
  | foreign key => exact foreign_well_formed_iff key
  | unique spec | index spec =>
      rw [commandParts, List.forall_mem_singleton]
      exact index_well_formed_iff _ spec
  | updateEnum column allowed => exact update_enum_well_formed_iff column allowed
  | dropColumn columns =>
      rw [commandParts, List.forall_mem_map]
      refine iff_of_true (fun column _ => plain ?_) trivial
      simp [alterParts, isPlain, table_plain]
  | _ =>
      rw [commandParts, List.forall_mem_singleton]
      refine iff_of_true (plain ?_) trivial
      simp [alterParts, dropParts, isPlain, table_plain, Function.comp_def]

/-- The lists of a blueprint that compiles are well formed exactly if each of its commands gives
every list that it writes something to list. -/
theorem lists_well_formed_iff (grammar : Grammar) (blueprint : Blueprint)
    (statements : List String) (compiled : (grammar.toSql blueprint).2 = .ok statements) :
    let resolved := (grammar.toSql blueprint).1
    statements = (grammar.statementParts resolved).map grammar.spell ∧
      ((∀ parts ∈ grammar.statementParts resolved, grammar.ListsWellFormed parts) ↔
        ∀ command ∈ resolved.commands, grammar.FillsLists resolved command) := by
  intro resolved
  obtain ⟨_, each, _⟩ := to_sql_emits compiled
  refine ⟨spell_statements compiled, ?_⟩
  rw [statementParts, List.forall_mem_flatMap]
  exact forall₂_congr fun command member => lists_of_command (each command member)

def ordersOfPeople : Blueprint :=
  { table := "orders"
    columns := [{ name := "id", type := .integer, nullable := false, autoIncrement := true },
      { name := "status", type := .enum, allowed := ["new", "paid"] }]
    commands := [.create,
      .foreign { columns := ["id"], table := "people", references := ["id"] }] }

theorem lists_well_formed_iff_orders :
    let resolved := (toSql {} ordersOfPeople).1
    ∃ statements, (toSql {} ordersOfPeople).2 = .ok statements ∧
      statements = (statementParts {} resolved).map (spell {}) ∧
      (∀ parts ∈ statementParts {} resolved, ListsWellFormed {} parts) ∧
      ∀ command ∈ resolved.commands, FillsLists {} resolved command := by
  have compiled : (toSql {} ordersOfPeople).2 =
      .ok ["create table orders ( id int auto_increment not null, status varchar2(255 char) null constraint orders_status_enum check (status in ('new', 'paid')), constraint orders_id_foreign foreign key ( id ) references people ( id ), constraint orders_id_primary primary key ( id ) )"] := by
    decide +kernel
  have shaped : ∀ parts ∈ statementParts {} (toSql {} ordersOfPeople).1,
      ListsWellFormed {} parts := by
    decide +kernel
  obtain ⟨spelled, filled⟩ := lists_well_formed_iff {} ordersOfPeople _ compiled
  exact ⟨_, compiled, spelled, shaped, filled.mp shaped⟩

def ordersWithoutStatus : Blueprint :=
  { table := "orders", commands := [.updateEnum "status" []] }

def postsWithoutColumns : Blueprint :=
  { table := "posts"
    commands := [.create,
      .foreign { columns := ["author_id"], table := "authors", references := ["id"] }] }

/-- A check without values compiles, and so does a body that begins with a comma. -/
theorem empty_lists_are_written :
    ((toSql {} ordersWithoutStatus).2 =
        .ok ["alter table orders drop constraint orders_status_enum",
          "alter table orders add constraint orders_status_enum check (status in ())"] ∧
      ∃ parts ∈ statementParts {} (toSql {} ordersWithoutStatus).1, ¬ ListsWellFormed {} parts) ∧
    ((toSql {} postsWithoutColumns).2 =
        .ok ["create table posts ( , constraint posts_author_id_foreign foreign key ( author_id ) references authors ( id ) )"] ∧
      ∃ parts ∈ statementParts {} (toSql {} postsWithoutColumns).1,
        ¬ ListsWellFormed {} parts) := by
  decide +kernel

end SchemaBlueprint.Grammar
