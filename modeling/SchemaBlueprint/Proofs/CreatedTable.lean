import SchemaBlueprint.Proofs.Emission
import SchemaBlueprint.Proofs.Failure
import SchemaBlueprint.Proofs.InlineKey

/-!
What a created table refers to. Its definitions are those of the columns that are not there yet.
Keys and indexes are held to the columns of the blueprint, which may also be marked as there
already, and foreign keys are held to nothing.
-/

namespace SchemaBlueprint

set_option autoImplicit false

def Command.localNames : Command → List String
  | .primary key | .unique key | .index key => key.columns
  | .foreign key => key.columns
  | _ => []

namespace Blueprint

def Defines (blueprint : Blueprint) (name : String) : Prop :=
  ∃ column ∈ blueprint.addedColumns, Text.sameName column.name name = true

instance (blueprint : Blueprint) : DecidablePred blueprint.Defines := fun _ =>
  inferInstanceAs (Decidable (∃ _ ∈ blueprint.addedColumns, _))

def OnlyModifies (blueprint : Blueprint) (name : String) : Prop :=
  (∃ column ∈ blueprint.changedColumns, Text.sameName column.name name = true) ∧
    ¬ blueprint.Defines name

/-- What keeps the references of a created table inside it. For keys and indexes, asked for by
commands, by flags or by a counting column, it is enough that no column is only modified. The
columns of foreign keys have to be defined. -/
structure RefersInside (blueprint : Blueprint) : Prop where
  foreign : ∀ key ∈ blueprint.foreignKeys, ∀ name ∈ key.columns, blueprint.Defines name
  declared : ∀ command ∈ blueprint.commands, ∀ kind spec, command.spec? kind = some spec →
    ∀ name ∈ spec.columns, ¬ blueprint.OnlyModifies name
  flagged : ∀ column ∈ blueprint.columns, ∀ kind, column.flag kind = true →
    ¬ blueprint.OnlyModifies column.name
  counted : blueprint.primary? = none → (∀ column ∈ blueprint.columns, column.primary = false) →
    ∀ column, blueprint.columns.find? Column.isCounter = some column →
      ¬ blueprint.OnlyModifies column.name

variable {blueprint : Blueprint}

theorem defines_congr {name other : String} (same : Text.sameName name other = true) :
    blueprint.Defines name ↔ blueprint.Defines other := by
  constructor
  · rintro ⟨column, member, named⟩
    exact ⟨column, member, Text.sameName_trans named same⟩
  · rintro ⟨column, member, named⟩
    rw [Text.sameName_comm] at same
    exact ⟨column, member, Text.sameName_trans named same⟩

theorem defines_iff_of_not_lacks {name : String} (there : ¬ blueprint.Lacks name) :
    blueprint.Defines name ↔ ¬ blueprint.OnlyModifies name := by
  constructor
  · intro defined modified
    exact modified.2 defined
  · intro unmodified
    by_contra undefined
    simp only [Lacks, not_forall, Bool.not_eq_false] at there
    obtain ⟨column, member, named⟩ := there
    refine unmodified ⟨⟨column, ?_, named⟩, undefined⟩
    cases change : column.change with
    | true => exact List.mem_filter.mpr ⟨member, change⟩
    | false =>
        have added : column ∈ blueprint.addedColumns :=
          List.mem_filter.mpr ⟨member, by simp [change]⟩
        exact absurd ⟨column, added, named⟩ undefined

theorem not_lacks_column {column : Column} (member : column ∈ blueprint.columns) :
    ¬ blueprint.Lacks column.name := by
  intro lacking
  simpa [Text.sameName_refl] using lacking column member

theorem local_names_cases {command : Command} {name : String} (named : name ∈ command.localNames) :
    (∃ kind spec, command.spec? kind = some spec ∧ name ∈ spec.columns) ∨
      ∃ key, command.foreign? = some key ∧ name ∈ key.columns := by
  cases command with
  | primary key => exact .inl ⟨.primary, key, rfl, named⟩
  | unique key => exact .inl ⟨.unique, key, rfl, named⟩
  | index key => exact .inl ⟨.index, key, rfl, named⟩
  | foreign key => exact .inr ⟨key, rfl, named⟩
  | _ => cases named

theorem local_names_of_spec {kind : IndexKind} {command : Command} {spec : IndexSpec}
    (declared : command.spec? kind = some spec) : command.localNames = spec.columns := by
  rcases Command.spec_cases declared with ⟨_, rfl⟩ | ⟨_, rfl⟩ | ⟨_, rfl⟩ <;> rfl

theorem local_names_filled (command : Command) :
    (blueprint.filledCommand command).localNames = command.localNames := by
  cases command with
  | primary key | unique key | index key => exact filled_index_columns _ _ _
  | foreign key =>
      simp only [filledCommand, Command.localNames, namedForeign]
      split <;> rfl
  | _ => rfl

theorem spec_filled {kind : IndexKind} {command : Command} {spec : IndexSpec}
    (declared : command.spec? kind = some spec) :
    (blueprint.filledCommand command).spec? kind = some (blueprint.filledIndex kind spec) := by
  rcases Command.spec_cases declared with ⟨rfl, rfl⟩ | ⟨rfl, rfl⟩ | ⟨rfl, rfl⟩ <;> rfl

theorem resolved_commands_of_creating (creating : blueprint.creating = true)
    (passed : blueprint.resolve.2 = .ok ()) :
    blueprint.resolve.1.commands =
      (blueprint.commands ++ blueprint.missingIndexes).map blueprint.filledCommand := by
  rcases resolve_cases blueprint with ⟨_, several⟩ | ⟨_, resolved⟩
  · rw [several] at passed
    cases passed
  · rw [resolved, ← (with_implied_same_table blueprint).filled_command]
    change blueprint.withImplied.commands.map _ = _
    rw [with_implied_eq, with_alterations_of_creating creating]

theorem command_of_flag (blueprint : Blueprint) {column : Column} {kind : IndexKind}
    (flagged : column.flag kind = true) :
    ∃ command ∈ blueprint.flaggedIndexes column,
      command.spec? kind = some (blueprint.namedIndex kind [column.name]) := by
  cases kind with
  | primary => exact ⟨.primary _, mem_flagged_indexes.mpr ⟨.primary, flagged, rfl⟩, rfl⟩
  | unique => exact ⟨.unique _, mem_flagged_indexes.mpr ⟨.unique, flagged, rfl⟩, rfl⟩
  | index => exact ⟨.index _, mem_flagged_indexes.mpr ⟨.index, flagged, rfl⟩, rfl⟩
  | foreign => cases flagged

theorem refers_inside_of_defined
    (given : ∀ command ∈ blueprint.commands, ∀ name ∈ command.localNames, blueprint.Defines name)
    (registered : ∀ command ∈ blueprint.missingIndexes, ∀ name ∈ command.localNames,
      blueprint.Defines name) : blueprint.RefersInside := by
  constructor
  · intro key member name named
    obtain ⟨command, there, foreign⟩ := List.mem_filterMap.mp member
    cases command <;> simp [Command.foreign?] at foreign
    subst foreign
    exact given _ there name named
  · intro command there kind spec declared name named modified
    rw [← local_names_of_spec declared] at named
    exact modified.2 (given command there name named)
  · intro column member kind flagged modified
    apply modified.2
    obtain ⟨command, asked, declared⟩ := command_of_flag blueprint flagged
    -- The flag's key is registered, unless there is one over the same column in some spelling.
    cases present : blueprint.hasIndex command with
    | true =>
        obtain ⟨other, there, same⟩ := (has_index_iff _ _).mp present
        obtain ⟨own, ownDeclared, names⟩ := spec_of_same_index declared same
        obtain ⟨name, columns, named⟩ := Grammar.same_names_singleton.mp names
        rw [← defines_congr named]
        apply given other there
        rw [local_names_of_spec ownDeclared, columns]
        exact List.mem_singleton_self name
    | false =>
        apply registered command (mem_missing_indexes.mpr (.inl ⟨⟨column, member, asked⟩, present⟩))
        rw [local_names_of_spec declared]
        exact List.mem_singleton_self column.name
  · intro keyless unflagged column counter modified
    apply modified.2
    apply registered _ (mem_missing_indexes.mpr (.inr ⟨⟨keyless, unflagged⟩, column, counter, rfl⟩))
    exact List.mem_singleton_self column.name

theorem defined_of_refers_inside (inside : blueprint.RefersInside)
    (there : ∀ command ∈ blueprint.commands, ∀ kind spec, command.spec? kind = some spec →
      ∀ name ∈ spec.columns, ¬ blueprint.Lacks name) :
    (∀ command ∈ blueprint.commands, ∀ name ∈ command.localNames, blueprint.Defines name) ∧
      ∀ command ∈ blueprint.missingIndexes, ∀ name ∈ command.localNames,
        blueprint.Defines name := by
  constructor
  · intro command member name named
    rcases local_names_cases named with ⟨kind, spec, declared, listed⟩ | ⟨key, foreign, listed⟩
    · rw [defines_iff_of_not_lacks (there command member kind spec declared name listed)]
      exact inside.declared command member kind spec declared name listed
    · exact inside.foreign key (List.mem_filterMap.mpr ⟨command, member, foreign⟩) name listed
  · intro command missing name named
    rcases mem_missing_indexes.mp missing with
      ⟨⟨column, member, asked⟩, _⟩ | ⟨⟨keyless, unflagged⟩, column, counter, rfl⟩
    · obtain ⟨kind, flagged, declared⟩ := mem_flagged_indexes.mp asked
      rw [local_names_of_spec declared] at named
      rw [List.mem_singleton.mp named, defines_iff_of_not_lacks (not_lacks_column member)]
      exact inside.flagged column member kind flagged
    · have member := List.mem_of_find?_eq_some counter
      rw [List.mem_singleton.mp named, defines_iff_of_not_lacks (not_lacks_column member)]
      exact inside.counted keyless unflagged column counter

end Blueprint

namespace Grammar

open Outcome

variable {grammar : Grammar} {blueprint : Blueprint} {statements : List String}

theorem not_lacks_of_compiled (creating : blueprint.creating = true)
    (compiled : (grammar.toSql blueprint).2 = .ok statements) :
    ∀ command ∈ (grammar.toSql blueprint).1.commands, ∀ kind spec,
      command.spec? kind = some spec → ∀ name ∈ spec.columns,
        ¬ (grammar.toSql blueprint).1.Lacks name := by
  have creates : (grammar.toSql blueprint).1.creating = true := by
    rw [to_sql_blueprint, blueprint.resolve_creating, creating]
  intro command member kind spec declared name named lacking
  apply not_offending_of_compiled compiled command member
  rcases Command.spec_cases declared with ⟨_, rfl⟩ | ⟨_, rfl⟩ | ⟨_, rfl⟩ <;>
    exact ⟨creates, name, named, lacking⟩

theorem created_text_mem (creating : blueprint.creating = true)
    (compiled : (grammar.toSql blueprint).2 = .ok statements) :
    let resolved := (grammar.toSql blueprint).1
    ∃ definitions, List.Forall₂ (fun column definition =>
        grammar.columnDefinition resolved column = .ok definition)
        resolved.addedColumns definitions ∧
      grammar.createText resolved.table definitions
        (resolved.foreignKeys.map grammar.foreignClause ++
          (resolved.primary?.map grammar.primaryClause).toList) ∈ statements := by
  obtain ⟨_, each, joined⟩ := to_sql_emits compiled
  have creates : (grammar.toSql blueprint).1.creating = true := by
    rw [to_sql_blueprint, blueprint.resolve_creating, creating]
  generalize (grammar.toSql blueprint).1 = resolved at *
  obtain ⟨command, member, create⟩ := List.any_eq_true.mp creates
  cases command <;> simp [Command.isCreate] at create
  obtain ⟨statement, written, emitted⟩ := bind_pure_eq_ok_iff.mp (each .create member)
  obtain ⟨definitions, defined, _, rfl⟩ := create_statement_eq_ok_iff.mp written
  refine ⟨definitions, defined, ?_⟩
  rw [joined, List.mem_map]
  refine ⟨⟨.create, _⟩, mem_emissions.mpr ⟨member, ?_⟩, rfl⟩
  rw [emitted]
  exact List.mem_singleton_self _

/-- A created table defines its new columns. The columns of its keys and indexes are columns of the
blueprint, and those of its foreign keys may be anything. So the references stay inside the table
exactly where no key or index is on a column that is only modified and foreign keys are inside. -/
theorem created_table_references_iff (grammar : Grammar) (blueprint : Blueprint)
    (statements : List String) (creating : blueprint.creating = true)
    (compiled : (grammar.toSql blueprint).2 = .ok statements) :
    let resolved := (grammar.toSql blueprint).1
    (∃ definitions, List.Forall₂ (fun column definition =>
        grammar.columnDefinition resolved column = .ok definition)
        resolved.addedColumns definitions ∧
      grammar.createText resolved.table definitions
        (resolved.foreignKeys.map grammar.foreignClause ++
          (resolved.primary?.map grammar.primaryClause).toList) ∈ statements) ∧
    (∀ command ∈ resolved.commands, ∀ kind spec, command.spec? kind = some spec →
      ∀ name ∈ spec.columns, ¬ resolved.Lacks name) ∧
    ((∀ command ∈ resolved.commands, ∀ name ∈ command.localNames, resolved.Defines name) ↔
      blueprint.RefersInside) := by
  refine ⟨created_text_mem creating compiled, not_lacks_of_compiled creating compiled, ?_⟩
  have there := not_lacks_of_compiled creating compiled
  have same := blueprint.resolve_same_table
  have commands := Blueprint.resolved_commands_of_creating creating (to_sql_eq_ok_iff.mp compiled).1
  -- The pass leaves the columns alone, so names mean before it what they mean behind it.
  have defines : ∀ name, blueprint.resolve.1.Defines name ↔ blueprint.Defines name := by
    intro name
    simp only [Blueprint.Defines, Blueprint.addedColumns, same.columns]
  have lacks : ∀ name, blueprint.resolve.1.Lacks name ↔ blueprint.Lacks name := by
    intro name
    simp only [Blueprint.Lacks, same.columns]
  rw [to_sql_blueprint, commands] at there ⊢
  simp only [lacks, defines, List.forall_mem_map, Blueprint.local_names_filled,
    List.forall_mem_append] at there ⊢
  constructor
  · rintro ⟨given, registered⟩
    exact Blueprint.refers_inside_of_defined given registered
  · intro inside
    apply Blueprint.defined_of_refers_inside inside
    intro command member kind spec declared name named
    apply there.1 command member kind _ (Blueprint.spec_filled declared)
    rwa [Blueprint.filled_index_columns]

def postsOfAuthors : Blueprint :=
  { table := "posts"
    columns := [Column.increments "id", { name := "author_id", type := .integer, index := true }]
    commands := [.create,
      .foreign { columns := ["AUTHOR_ID"], table := "authors", references := ["id"] }] }

theorem created_table_references_iff_posts :
    postsOfAuthors.creating = true ∧
    let resolved := (toSql {} postsOfAuthors).1
    ∃ statements, (toSql {} postsOfAuthors).2 = .ok statements ∧
      (∃ definitions, List.Forall₂ (fun column definition =>
          columnDefinition {} resolved column = .ok definition)
          resolved.addedColumns definitions ∧
        createText {} resolved.table definitions
          (resolved.foreignKeys.map (foreignClause {}) ++
            (resolved.primary?.map (primaryClause {})).toList) ∈ statements) ∧
      (∀ command ∈ resolved.commands, ∀ kind spec, command.spec? kind = some spec →
        ∀ name ∈ spec.columns, ¬ resolved.Lacks name) ∧
      (∀ command ∈ resolved.commands, ∀ name ∈ command.localNames, resolved.Defines name) ∧
      postsOfAuthors.RefersInside := by
  have compiled : (toSql {} postsOfAuthors).2 =
      .ok ["create table posts ( id int auto_increment not null, author_id int null, constraint posts_author_id_foreign foreign key ( AUTHOR_ID ) references authors ( id ), constraint posts_id_primary primary key ( id ) )",
        "create index posts_author_id_index on posts ( author_id )"] := by
    decide +kernel
  have defined : ∀ command ∈ (toSql {} postsOfAuthors).1.commands,
      ∀ name ∈ command.localNames, (toSql {} postsOfAuthors).1.Defines name := by
    decide +kernel
  obtain ⟨created, there, inside⟩ :=
    created_table_references_iff {} postsOfAuthors _ rfl compiled
  exact ⟨rfl, _, compiled, created, there, defined, inside.mp defined⟩

def postsWithoutAuthors : Blueprint :=
  { table := "posts"
    columns := [{ name := "id", type := .integer }]
    commands := [.create,
      .foreign { columns := ["author_id"], table := "authors", references := ["id"] }] }

def tagsWithModifiedKey : Blueprint :=
  { table := "tags"
    columns := [{ name := "id", type := .integer, change := true },
      { name := "label", type := .text }]
    commands := [.create, .primary { columns := ["id"] }] }

/-- Both ways out of a created table compile. -/
theorem created_table_refers_outside :
    (postsWithoutAuthors.creating = true ∧ (toSql {} postsWithoutAuthors).2 =
        .ok ["create table posts ( id int null, constraint posts_author_id_foreign foreign key ( author_id ) references authors ( id ) )"] ∧
      ∃ command ∈ (toSql {} postsWithoutAuthors).1.commands, ∃ name ∈ command.localNames,
        ¬ (toSql {} postsWithoutAuthors).1.Defines name) ∧
    (tagsWithModifiedKey.creating = true ∧ (toSql {} tagsWithModifiedKey).2 =
        .ok ["create table tags ( label text null, constraint tags_id_primary primary key ( id ) )"] ∧
      ∃ command ∈ (toSql {} tagsWithModifiedKey).1.commands, ∃ name ∈ command.localNames,
        ¬ (toSql {} tagsWithModifiedKey).1.Defines name) := by
  decide +kernel

end Grammar

end SchemaBlueprint
