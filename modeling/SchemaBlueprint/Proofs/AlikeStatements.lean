import SchemaBlueprint.Column.Build
import SchemaBlueprint.Proofs.Compilation
import SchemaBlueprint.Proofs.Context
import SchemaBlueprint.Proofs.Respelling

/-!
The statements of blueprints whose commands name columns in different spellings. A command finds the
same columns in either, so its statements have the same spellings, too; where a column is written
from its definition or a name is generated, nothing of the spelling is left.
-/

namespace SchemaBlueprint

set_option autoImplicit false

open Outcome Text

/-- Errors that differ in the spelling of the missing column at most. -/
inductive SameFault : SchemaError → SchemaError → Prop
  | unknownColumn (table : String) {name other : String} (alike : SpelledAlike name other) :
      SameFault (.unknownColumn table name) (.unknownColumn table other)
  | same (fault : SchemaError) : SameFault fault fault

/-- What is shown of such errors differs in that spelling at most, too. -/
theorem SameFault.message {fault another : SchemaError} (same : SameFault fault another) :
    SpelledAlike fault.message another.message := by
  cases same with
  | unknownColumn table alike =>
      exact ((alike.behind "Unknown column '").before "' on table ").before table
  | same fault => exact .refl _

theorem alike_outcome {α : Type} (outcome : Except SchemaError α) :
    Alike SameFault Eq outcome outcome := by
  cases outcome with
  | error fault => exact .failed (.same fault)
  | ok value => exact .succeeded rfl

namespace Grammar

variable {left right : Blueprint} {name other : String} {names others : List String}

theorem column_respelled (respelled : left.Respelled right) (alike : SpelledAlike name other) :
    left.column? name = right.column? other := by
  have spelled : ∀ text, sameName text name = sameName text other :=
    fun text => (alike.same_name text).2
  simp only [Blueprint.column?, respelled.same.columns, spelled]

theorem require_column_respelled (respelled : left.Respelled right)
    (alike : SpelledAlike name other) :
    Alike SameFault Eq (requireColumn left name) (requireColumn right other) := by
  rw [requireColumn, requireColumn, column_respelled respelled alike, respelled.same.table]
  cases right.column? other with
  | none => exact .failed (.unknownColumn _ alike)
  | some column => exact .succeeded rfl

theorem require_columns_respelled (respelled : left.Respelled right)
    (alike : List.Forall₂ SpelledAlike names others) :
    Alike SameFault Eq (requireColumns left names) (requireColumns right others) := by
  induction alike with
  | nil => exact .succeeded rfl
  | @cons name other _ _ head _ ih =>
      simp only [requireColumns, List.find?_cons, column_respelled respelled head] at ih ⊢
      cases right.column? other with
      | none =>
          rw [respelled.same.table]
          exact .failed (.unknownColumn _ head)
      | some column => exact ih

theorem column_definition_respelled (respelled : left.Respelled right) (grammar : Grammar) :
    grammar.columnDefinition left = grammar.columnDefinition right := by
  apply column_definition_of_in_primary respelled.same.table.symm
  funext name
  rw [inPrimary, inPrimary]
  obtain ⟨absent, absentToo⟩ | ⟨key, another, declared, declaredToo, alike⟩ :=
    respelled.primary_cases
  · rw [absent, absentToo]
  · rw [declared, declaredToo]
    exact lists_name_alike alike.columns (.refl name)

theorem inline_primary_cases (respelled : left.Respelled right) :
    (inlinePrimary? left = none ∧ inlinePrimary? right = none) ∨
      ∃ key another name other, inlinePrimary? left = some (key, name) ∧
        inlinePrimary? right = some (another, other) ∧ key.Respelled another ∧
        SpelledAlike name other := by
  rw [inlinePrimary?, inlinePrimary?]
  obtain ⟨absent, absentToo⟩ | ⟨key, another, declared, declaredToo, alike⟩ :=
    respelled.primary_cases
  · rw [absent, absentToo]
    exact .inl ⟨rfl, rfl⟩
  · rw [declared, declaredToo]
    obtain ⟨keyName, keyColumns, keyImplied⟩ := key
    obtain ⟨anotherName, anotherColumns, anotherImplied⟩ := another
    have columns : List.Forall₂ SpelledAlike keyColumns anotherColumns := alike.columns
    -- Only a key over one column can be declared along with it.
    rcases columns with _ | ⟨head, _ | ⟨_, _⟩⟩
    · exact .inl ⟨rfl, rfl⟩
    · simp only [column_respelled respelled head]
      split
      · split
        · exact .inr ⟨_, _, _, _, rfl, rfl, alike, head⟩
        · exact .inl ⟨rfl, rfl⟩
      · exact .inl ⟨rfl, rfl⟩
    · exact .inl ⟨rfl, rfl⟩

theorem inline_clause_respelled (respelled : left.Respelled right) :
    inlineClause left = inlineClause right := by
  funext column
  rw [inlineClause, inlineClause]
  obtain ⟨absent, absentToo⟩ | ⟨key, another, name, other, inline, inlineToo, alike, names⟩ :=
    inline_primary_cases respelled
  · rw [absent, absentToo]
  · rw [inline, inlineToo]
    simp only [alike.name, (names.same_name column.name).1]

theorem is_inlined_respelled (respelled : left.Respelled right) {key another : IndexSpec}
    (declared : left.primary? = some key) (declaredToo : right.primary? = some another) :
    isInlined left key = isInlined right another := by
  rw [is_inlined_eq, is_inlined_eq]
  obtain ⟨absent, absentToo⟩ | ⟨own, ownToo, name, other, inline, inlineToo, _, names⟩ :=
    inline_primary_cases respelled
  · rw [absent, absentToo]
  · -- Keys are compared as they are written, so either side has to be asked for its own one.
    obtain rfl := Option.some.inj ((inline_primary_iff.mp inline).1.symm.trans declared)
    obtain rfl := Option.some.inj ((inline_primary_iff.mp inlineToo).1.symm.trans declaredToo)
    rw [inline, inlineToo]
    simp only [decide_true, Bool.true_and]
    exact lists_name_alike respelled.listed_additions names

variable {grammar : Grammar}

theorem foreign_clause_alike {key another : ForeignKey} (alike : key.Respelled another) :
    SpelledAlike (grammar.foreignClause key) (grammar.foreignClause another) := by
  have columns := grammar.policy.columnize_alike alike.columns
  have references := grammar.policy.columnize_alike alike.references
  unfold foreignClause
  rw [alike.name, alike.table, alike.onDelete]
  have front := columns.behind ("constraint " ++ another.name ++ " foreign key ( ")
  have middle := (front.before " ) references ").before (grammar.wrapTable another.table)
  exact (((middle.before " ( ").append references).before " )").before _

theorem primary_clause_alike {key another : IndexSpec} (alike : key.Respelled another) :
    SpelledAlike (grammar.primaryClause key) (grammar.primaryClause another) := by
  have columns := grammar.policy.columnize_alike alike.columns
  unfold primaryClause
  rw [alike.name]
  exact (columns.behind _).before " )"

theorem create_text_alike (table : String) (definitions : List String)
    {clauses clausesToo : List String} (alike : List.Forall₂ SpelledAlike clauses clausesToo) :
    SpelledAlike (grammar.createText table definitions clauses)
      (grammar.createText table definitions clausesToo) := by
  have parts : List.Forall₂ SpelledAlike (clauses.map (", " ++ ·)) (clausesToo.map (", " ++ ·)) :=
    List.rel_map (fun _ _ clause => clause.behind ", ") alike
  exact ((SpelledAlike.join parts).behind _).before " )"

theorem created_primary_respelled (respelled : left.Respelled right) :
    Alike SameFault (List.Forall₂ SpelledAlike) (grammar.createdPrimary left)
      (grammar.createdPrimary right) := by
  rw [createdPrimary, createdPrimary]
  obtain ⟨absent, absentToo⟩ | ⟨key, another, declared, declaredToo, alike⟩ :=
    respelled.primary_cases
  · rw [absent, absentToo]
    exact .succeeded .nil
  · rw [declared, declaredToo]
    refine (require_columns_respelled respelled alike.columns).bind fun _ _ _ => ?_
    exact .succeeded (.cons (primary_clause_alike alike) .nil)

theorem create_statement_respelled (respelled : left.Respelled right) :
    Alike SameFault SpelledAlike (grammar.createStatement left)
      (grammar.createStatement right) := by
  have added : left.addedColumns = right.addedColumns := by
    rw [Blueprint.addedColumns, Blueprint.addedColumns, respelled.same.columns]
  have foreign : List.Forall₂ SpelledAlike (left.foreignKeys.map grammar.foreignClause)
      (right.foreignKeys.map grammar.foreignClause) :=
    List.rel_map (fun _ _ alike => foreign_clause_alike alike) respelled.foreign_keys
  rw [createStatement, createStatement, added, column_definition_respelled respelled,
    respelled.same.table]
  refine (alike_outcome _).bind fun definitions _ same => ?_
  refine (created_primary_respelled respelled).bind fun primary primaryToo alike => ?_
  rw [← same]
  exact .succeeded (create_text_alike _ _ (List.rel_append foreign alike))

theorem add_statement_respelled (respelled : left.Respelled right) (alike : SpelledAlike name other) :
    Alike SameFault Eq (grammar.addStatement left name) (grammar.addStatement right other) := by
  rw [addStatement, addStatement, column_definition_respelled respelled,
    inline_clause_respelled respelled, respelled.same.table]
  refine (require_column_respelled respelled alike).bind fun column _ same => ?_
  rw [← same]
  exact alike_outcome _

theorem change_statement_respelled (respelled : left.Respelled right)
    (alike : SpelledAlike name other) :
    Alike SameFault Eq (grammar.changeStatement left name)
      (grammar.changeStatement right other) := by
  rw [changeStatement, changeStatement]
  refine (require_column_respelled respelled alike).bind fun column _ same => ?_
  rw [← same, changeDefinition, changeDefinition, respelled.same.table]
  exact alike_outcome _

theorem primary_statements_respelled (respelled : left.Respelled right) {key another : IndexSpec}
    (alike : key.Respelled another) (declared : left.primary? = some key)
    (declaredToo : right.primary? = some another) :
    Alike SameFault (List.Forall₂ SpelledAlike) (grammar.primaryStatements left key)
      (grammar.primaryStatements right another) := by
  have columns := grammar.policy.columnize_alike alike.columns
  rw [primaryStatements, primaryStatements, respelled.creating, alike.implied, alike.name,
    is_inlined_respelled respelled declared declaredToo, respelled.same.table]
  split
  · refine (require_columns_respelled respelled alike.columns).bind fun _ _ _ => ?_
    exact .succeeded .nil
  · split
    · exact .succeeded .nil
    · exact .succeeded (.cons ((columns.behind _).before ")") .nil)

theorem index_statement_respelled (respelled : left.Respelled right) (opening : String)
    {index another : IndexSpec} (alike : index.Respelled another) :
    Alike SameFault SpelledAlike (grammar.indexStatement left opening index)
      (grammar.indexStatement right opening another) := by
  have columns := grammar.policy.columnize_alike alike.columns
  rw [indexStatement, indexStatement, respelled.creating, alike.name, respelled.same.table]
  split
  · refine (require_columns_respelled respelled alike.columns).bind fun _ _ _ => ?_
    exact .succeeded ((columns.behind _).before " )")
  · exact .succeeded ((columns.behind _).before " )")

theorem update_enum_alike (table : String) (allowed : List String)
    (alike : SpelledAlike name other) :
    List.Forall₂ SpelledAlike (grammar.updateEnumStatements table name allowed)
      (grammar.updateEnumStatements table other allowed) := by
  have wrapped := grammar.policy.wrap_alike alike
  have check : SpelledAlike (grammar.enumCheck name allowed) (grammar.enumCheck other allowed) :=
    ((wrapped.behind "check (").before " in (").before (enumValues allowed) |>.before "))"
  rw [updateEnumStatements, updateEnumStatements, grammar.enum_constraint_eq_of_alike table alike]
  exact .cons (.refl _) (.cons (check.behind _) .nil)

theorem alteration_respelled (respelled : left.Respelled right) {command another : Command}
    (pair : command.Respelled another) (alters : command.isAlteration = true) :
    Alike SameFault Eq (grammar.compile left command) (grammar.compile right another) := by
  have same : ∀ statements statementsToo : List String,
      List.Forall₂ Eq statements statementsToo → statements = statementsToo := by
    intro statements statementsToo paired
    rwa [List.forall₂_eq_eq_eq] at paired
  cases pair with
  | add alike =>
      exact (Alike.mapM (alike.imp fun _ _ own => add_statement_respelled respelled own)).imp same
  | change alike =>
      exact (Alike.mapM (alike.imp fun _ _ own => change_statement_respelled respelled own)).imp same
  | same nameless =>
      rw [Command.not_alteration_of_nameless nameless] at alters
      cases alters
  | _ => cases alters

theorem declared_of_single {blueprint : Blueprint} (single : blueprint.primaryCount ≤ 1)
    {key : IndexSpec} (member : .primary key ∈ blueprint.commands) :
    blueprint.primary? = some key := by
  have listed : key ∈ blueprint.commands.filterMap Command.primary? :=
    List.mem_filterMap.mpr ⟨_, member, rfl⟩
  rw [Blueprint.primaryCount] at single
  rw [Blueprint.primary?, ← List.head?_filterMap]
  generalize blueprint.commands.filterMap Command.primary? = keys at single listed ⊢
  cases keys with
  | nil => cases listed
  | cons own rest =>
      have alone : rest = [] := List.eq_nil_of_length_eq_zero (by simpa using single)
      rw [alone, List.mem_singleton] at listed
      rw [listed, List.head?_cons]

theorem compile_respelled (respelled : left.Respelled right) (single : left.primaryCount ≤ 1)
    {command another : Command} (pair : command.Respelled another)
    (member : command ∈ left.commands) (memberToo : another ∈ right.commands) :
    Alike SameFault (List.Forall₂ SpelledAlike) (grammar.compile left command)
      (grammar.compile right another) := by
  have table := respelled.same.table
  have words : ∀ statements statementsToo : List String, statements = statementsToo →
      List.Forall₂ SpelledAlike statements statementsToo := by
    intro statements statementsToo same
    rw [same]
    exact alike_refl _
  cases pair with
  | add alike => exact (alteration_respelled respelled (.add alike) rfl).imp words
  | change alike => exact (alteration_respelled respelled (.change alike) rfl).imp words
  | primary alike =>
      have singleToo := respelled.primary_count ▸ single
      exact primary_statements_respelled respelled alike (declared_of_single single member)
        (declared_of_single singleToo memberToo)
  | foreign alike =>
      rw [compile, compile, foreignStatements, foreignStatements, respelled.creating, table]
      split
      · exact .succeeded .nil
      · exact .succeeded (.cons ((foreign_clause_alike alike).behind _) .nil)
  | unique alike | index alike =>
      refine (index_statement_respelled respelled _ alike).bind fun _ _ statement => ?_
      exact .succeeded (.cons statement .nil)
  | dropColumn alike =>
      rw [compile, compile, table]
      apply Alike.succeeded
      rw [List.forall₂_map_left_iff, List.forall₂_map_right_iff]
      exact alike.imp fun _ _ own => (grammar.policy.wrap_alike own).behind _
  | renameColumn alike targets =>
      have source := grammar.policy.wrap_alike alike
      have target := grammar.policy.wrap_alike targets
      rw [compile, compile, table]
      exact .succeeded (.cons (((source.behind _).before " to ").append target) .nil)
  | updateEnum allowed alike =>
      rw [compile, compile, table]
      exact .succeeded (update_enum_alike _ allowed alike)
  | same nameless =>
      cases command with
      | create =>
          refine (create_statement_respelled respelled).bind fun _ _ statement => ?_
          exact .succeeded (.cons statement .nil)
      | add _ | change _ | primary _ | foreign _ | unique _ | index _ | dropColumn _
      | renameColumn _ _ | updateEnum _ _ => cases nameless
      | _ =>
          simp only [compile, table]
          exact .succeeded (alike_refl _)

def checkName? (grammar : Grammar) (table : String) : Command → Option String
  | .updateEnum column _ => some (grammar.enumConstraint table column)
  | _ => none

/-- A command of one blueprint and the command in its place of another differ in the spelling of
columns alone, and so do their statements; the statements that add or modify columns and the names
of keys, indexes and checks are the same. -/
structure SaysAlike (grammar : Grammar) (left right : Blueprint) (command another : Command) :
    Prop where
  respelled : command.Respelled another
  statements : Alike SameFault (List.Forall₂ SpelledAlike) (grammar.compile left command)
    (grammar.compile right another)
  alteration : command.isAlteration = true →
    Alike SameFault Eq (grammar.compile left command) (grammar.compile right another)
  key : command.keyName? = another.keyName?
  check : grammar.checkName? left.table command = grammar.checkName? right.table another

theorem says_alike (respelled : left.Respelled right) (single : left.primaryCount ≤ 1)
    {command another : Command} (pair : command.Respelled another)
    (member : command ∈ left.commands) (memberToo : another ∈ right.commands) :
    SaysAlike grammar left right command another where
  respelled := pair
  statements := compile_respelled respelled single pair member memberToo
  alteration := alteration_respelled respelled pair
  key := by
    cases pair with
    | primary alike | unique alike | index alike => exact congrArg some alike.name
    | foreign alike => exact congrArg some alike.name
    | _ => rfl
  check := by
    cases pair with
    | updateEnum allowed alike =>
        rw [respelled.same.table]
        exact congrArg some (grammar.enum_constraint_eq_of_alike _ alike)
    | same _ => rw [respelled.same.table]
    | _ => rfl

theorem commands_say_alike (respelled : left.Respelled right) (single : left.primaryCount ≤ 1) :
    List.Forall₂ (SaysAlike grammar left right) left.commands right.commands := by
  have members := forall_imp_of_mem respelled.commands.flip
    fun _ memberToo _ pair => And.intro memberToo pair
  exact forall_imp_of_mem members.flip
    fun _ member _ pair => says_alike respelled single pair.2 member pair.1

/-- Columns may be given in any spelling. Two blueprints for one table with the same columns, whose
commands differ in the spelling of columns alone, both fail, with errors that differ so at most, or
both succeed, with as many statements that differ so at most; the statements that add or modify
columns, the names of keys and indexes and the names of replaced checks are the same. -/
theorem columns_in_any_spelling (grammar : Grammar) (left right : Blueprint)
    (respelled : left.Respelled right) :
    Alike SameFault (List.Forall₂ SpelledAlike) (grammar.toSql left).2 (grammar.toSql right).2 ∧
    (left.resolve.2 = .ok () →
      List.Forall₂ (SaysAlike grammar left.resolve.1 right.resolve.1)
        left.resolve.1.commands right.resolve.1.commands) := by
  obtain ⟨resolved, outcome⟩ := respelled.resolve
  have each : left.resolve.2 = .ok () →
      List.Forall₂ (SaysAlike grammar left.resolve.1 right.resolve.1)
        left.resolve.1.commands right.resolve.1.commands := by
    intro passed
    exact commands_say_alike resolved (Blueprint.single_key_of_resolved passed)
  refine ⟨?_, each⟩
  unfold toSql
  cases passed : left.resolve with
  | mk first done =>
      cases passedToo : right.resolve with
      | mk second doneToo =>
          rw [passed, passedToo] at outcome each
          obtain rfl : done = doneToo := outcome
          cases done with
          | error fault => exact .failed (.same fault)
          | ok _ =>
              have blocks := Alike.mapM ((each rfl).imp fun _ _ pair => pair.statements)
              exact blocks.bind fun _ _ joined => .succeeded (List.rel_flatten joined)

def clubMembers (commands : List Command) : Blueprint :=
  { table := "members"
    tablePrefix := "club_"
    columns := [Column.increments "id", (Column.plain "user" .string).withNullable false,
      (Column.plain "Größe" .integer).asUnique, Column.enumeration "state" ["new", "old"]]
    commands }

def clubGrammar : Grammar := { policy := .ofWords ["user", "level", "login"] }

def plainlySpelled : Blueprint :=
  clubMembers [.add ["ID"], .unique { columns := ["user", "Größe"] },
    .foreign { columns := ["user"], table := "users", references := ["Login"] },
    .dropColumn ["old.Level"], .updateEnum "state" ["new"]]

def oddlySpelled : Blueprint :=
  clubMembers [.add ["iD"], .unique { columns := ["User", "GRößE"] },
    .foreign { columns := ["USER"], table := "users", references := ["LOGIN"] },
    .dropColumn ["OLD.LEVEL"], .updateEnum "State" ["new"]]

theorem columns_in_any_spelling_members :
    plainlySpelled.Respelled oddlySpelled ∧
    Alike SameFault (List.Forall₂ SpelledAlike) (toSql clubGrammar plainlySpelled).2
      (toSql clubGrammar oddlySpelled).2 ∧
    List.Forall₂ (SaysAlike clubGrammar plainlySpelled.resolve.1 oddlySpelled.resolve.1)
      plainlySpelled.resolve.1.commands oddlySpelled.resolve.1.commands ∧
    (toSql clubGrammar oddlySpelled).2 =
      .ok ["alter table members add id int auto_increment not null constraint club_members_id_primary primary key",
        "alter table members add \"USER\" varchar2(255 char) default '' not null",
        "alter table members add Größe int null",
        "alter table members add state varchar2(255 char) null constraint members_state_enum check (state in ('new', 'old'))",
        "create unique index club_members_user_größe_unique on members ( \"USER\", GRößE )",
        "alter table members add constraint club_members_user_foreign foreign key ( \"USER\" ) references users ( \"LOGIN\" )",
        "alter table members drop column OLD.\"LEVEL\"",
        "alter table members drop constraint members_state_enum",
        "alter table members add constraint members_state_enum check (State in ('new'))",
        "create unique index club_members_größe_unique on members ( Größe )"] := by
  have unique : IndexSpec.Respelled { columns := ["user", "Größe"] }
      { columns := ["User", "GRößE"] } :=
    ⟨rfl, .cons (by decide) (.cons (by decide) .nil), rfl⟩
  have foreign : ForeignKey.Respelled
      { columns := ["user"], table := "users", references := ["Login"] }
      { columns := ["USER"], table := "users", references := ["LOGIN"] } :=
    ⟨rfl, .cons (by decide) .nil, rfl, .cons (by decide) .nil, rfl⟩
  have respelled : plainlySpelled.Respelled oddlySpelled :=
    ⟨⟨rfl, rfl, rfl⟩, .cons (.add (.cons (by decide) .nil)) (.cons (.unique unique)
      (.cons (.foreign foreign) (.cons (.dropColumn (.cons (by decide) .nil))
        (.cons (.updateEnum ["new"] (by decide)) .nil))))⟩
  have passed : plainlySpelled.resolve.2 = .ok () := by decide +kernel
  obtain ⟨outcomes, each⟩ := columns_in_any_spelling clubGrammar plainlySpelled oddlySpelled respelled
  refine ⟨respelled, outcomes, each passed, ?_⟩
  decide +kernel

end Grammar

end SchemaBlueprint
