import SchemaBlueprint.Column.Build
import SchemaBlueprint.Proofs.Compilation

/-!
Histories of a blueprint: the calls that put it together, with passes and compilations in between.
A building step only appends, and it appends nothing that alters columns; whatever it appends has a
name. So between two passes only columns and remaining commands grow, and no pass ever renames.
-/

namespace SchemaBlueprint

set_option autoImplicit false

/-- One call by which a blueprint is put together. A column comes with its modifiers. -/
inductive BuildStep where
  | column (column : Column)
  | timestamps
  | create
  | drop
  | dropIfExists
  | dropAllTables
  | dropColumns (columns : List String)
  | primary (columns : List String)
  | unique (columns : List String)
  | index (columns : List String)
  | foreign (key : ForeignKey)
  | dropPrimary (name : String)
  | dropUnique (name : String)
  | dropIndex (name : String)
  | dropForeign (name : String)
  | rename (target : String)
  | renameColumn (source target : String)
  | comment (text : String)
  | updateEnum (column : String) (allowed : List String)

namespace BuildStep

def apply (blueprint : Blueprint) : BuildStep → Blueprint
  | .column added => blueprint.addColumn added
  | .timestamps => blueprint.addColumns Column.timestamps
  | .create => blueprint.push .create
  | .drop => blueprint.push .drop
  | .dropIfExists => blueprint.push .dropIfExists
  | .dropAllTables => blueprint.push .dropAllTables
  | .dropColumns columns => blueprint.push (.dropColumn columns)
  | .primary columns => blueprint.addPrimary columns
  | .unique columns => blueprint.addUnique columns
  | .index columns => blueprint.addIndex columns
  | .foreign key => blueprint.addForeign key
  | .dropPrimary name => blueprint.push (.dropPrimary name)
  | .dropUnique name => blueprint.push (.dropUnique name)
  | .dropIndex name => blueprint.push (.dropIndex name)
  | .dropForeign name => blueprint.push (.dropForeign name)
  | .rename target => blueprint.push (.rename target)
  | .renameColumn source target => blueprint.push (.renameColumn source target)
  | .comment text => blueprint.push (.tableComment text)
  | .updateEnum name allowed => blueprint.push (.updateEnum name allowed)

def columns : BuildStep → List Column
  | .column added => [added]
  | .timestamps => Column.timestamps
  | _ => []

def commands (blueprint : Blueprint) (step : BuildStep) : List Command :=
  (step.apply { blueprint with commands := [] }).commands

theorem apply_eq (blueprint : Blueprint) (step : BuildStep) :
    step.apply blueprint = { blueprint with
      columns := blueprint.columns ++ step.columns
      commands := blueprint.commands ++ step.commands blueprint } := by
  cases step <;>
    simp [apply, columns, commands, Blueprint.addColumn, Blueprint.addColumns, Blueprint.push,
      Blueprint.addPrimary, Blueprint.addUnique, Blueprint.addIndex, Blueprint.addForeign,
      Blueprint.namedIndex, Blueprint.namedForeign, Blueprint.indexName]

theorem commands_congr {before after : Blueprint} (same : before.SameTable after)
    (step : BuildStep) : step.commands after = step.commands before := by
  cases step <;>
    simp [commands, apply, Blueprint.addColumn, Blueprint.addColumns, Blueprint.push,
      Blueprint.addPrimary, Blueprint.addUnique, Blueprint.addIndex, Blueprint.addForeign,
      Blueprint.namedIndex, Blueprint.namedForeign, Blueprint.indexName, same.table,
      same.tablePrefix]

theorem plain_commands (blueprint : Blueprint) (step : BuildStep) :
    ∀ command ∈ step.commands blueprint, command.isAlteration = false ∧ command.Named := by
  have generated := Blueprint.index_name_ne_empty { blueprint with commands := [] }
  have given := Blueprint.named_foreign_named { blueprint with commands := [] }
  intro command member
  cases step <;>
    simp [commands, apply, Blueprint.addColumn, Blueprint.addColumns, Blueprint.push,
      Blueprint.addPrimary, Blueprint.addUnique, Blueprint.addIndex, Blueprint.addForeign,
      Blueprint.namedIndex] at member <;>
    subst member <;>
    simp [Command.isAlteration, Command.isChange, Command.isAdd, Command.Named, Command.keyName?,
      generated, given]

theorem creates_iff (blueprint : Blueprint) (step : BuildStep) :
    (∃ command ∈ step.commands blueprint, command.isCreate = true) ↔ step = .create := by
  cases step <;>
    simp [commands, apply, Blueprint.addColumn, Blueprint.addColumns, Blueprint.push,
      Blueprint.addPrimary, Blueprint.addUnique, Blueprint.addIndex, Blueprint.addForeign,
      Command.isCreate]

end BuildStep

/-- One thing that happens to a blueprint: a call, a pass or a compilation. -/
inductive HistoryStep where
  | build (step : BuildStep)
  | resolve
  | compile (grammar : Grammar)

/-- What a step leaves behind, whether it succeeds or fails. -/
def HistoryStep.apply (blueprint : Blueprint) : HistoryStep → Blueprint
  | .build step => step.apply blueprint
  | .resolve => blueprint.resolve.1
  | .compile grammar => (grammar.toSql blueprint).1

namespace Blueprint

def afterHistory (start : Blueprint) (steps : List HistoryStep) : Blueprint :=
  steps.foldl HistoryStep.apply start

def start (table tablePrefix : String) : Blueprint := { Blueprint.empty table with tablePrefix }

def AllNamed (blueprint : Blueprint) : Prop := ∀ command ∈ blueprint.commands, command.Named

theorem named_of_missing {blueprint : Blueprint} {command : Command}
    (missing : command ∈ blueprint.missingIndexes) : command.Named := by
  obtain ⟨kind, column, _, spec, declared, _, generated⟩ := spec_of_missing missing
  have given : spec.name ≠ "" := generated ▸ blueprint.index_name_ne_empty _ _
  cases kind with
  | primary =>
      rw [Command.spec_primary_iff.mp declared]
      simpa [Command.Named, Command.keyName?] using given
  | unique =>
      rw [Command.spec_unique_iff.mp declared]
      simpa [Command.Named, Command.keyName?] using given
  | index =>
      rw [Command.spec_index_iff.mp declared]
      simpa [Command.Named, Command.keyName?] using given
  | foreign => simp [Command.spec_foreign] at declared

theorem all_named_with_implied {blueprint : Blueprint} (named : AllNamed blueprint) :
    AllNamed blueprint.withImplied := by
  intro command member
  rw [with_implied_eq] at member
  rcases List.mem_append.mp member with old | missing
  · rcases mem_with_alterations old with there | altering
    · exact named command there
    · obtain ⟨names, rfl⟩ | ⟨names, rfl⟩ := Command.alteration_cases altering <;>
        simp [Command.Named, Command.keyName?]
  · exact named_of_missing missing

theorem resolve_of_named {blueprint : Blueprint} (named : AllNamed blueprint) :
    blueprint.resolve.1 = blueprint.withImplied := by
  rcases resolve_cases blueprint with ⟨_, resolved⟩ | ⟨_, resolved⟩
  · rw [resolved]
  · rw [resolved]
    have filled : ∀ command ∈ blueprint.withImplied.commands,
        blueprint.withImplied.filledCommand command = command := fun command member =>
      filled_command_of_named (all_named_with_implied named command member)
    simp only [withNames]
    rw [List.map_congr_left filled, List.map_id']

end Blueprint

/-- A step is a call or a pass: what a compilation leaves behind is what its pass does. -/
theorem HistoryStep.apply_cases (blueprint : Blueprint) (step : HistoryStep) :
    (∃ call, step = .build call ∧ step.apply blueprint = call.apply blueprint) ∨
      ((∀ call, step ≠ .build call) ∧ step.apply blueprint = blueprint.resolve.1) := by
  cases step with
  | build call => exact .inl ⟨call, rfl, rfl⟩
  | resolve => exact .inr ⟨fun _ same => (by cases same), rfl⟩
  | compile grammar =>
      exact .inr ⟨fun _ same => (by cases same), Grammar.to_sql_blueprint grammar blueprint⟩

namespace Blueprint

theorem all_named_step {blueprint : Blueprint} (named : AllNamed blueprint) (step : HistoryStep) :
    AllNamed (step.apply blueprint) := by
  rcases step.apply_cases blueprint with ⟨call, _, applied⟩ | ⟨_, applied⟩
  · rw [applied, call.apply_eq]
    intro command member
    rcases List.mem_append.mp member with old | new
    · exact named command old
    · exact (call.plain_commands blueprint command new).2
  · rw [applied, resolve_of_named named]
    exact all_named_with_implied named

theorem all_named_start (table tablePrefix : String) : AllNamed (start table tablePrefix) := by
  intro command member
  cases member

theorem all_named_history {blueprint : Blueprint} (named : AllNamed blueprint)
    (steps : List HistoryStep) : AllNamed (blueprint.afterHistory steps) := by
  induction steps generalizing blueprint with
  | nil => exact named
  | cons step steps ih => exact ih (all_named_step named step)

theorem creating_step {blueprint : Blueprint} (named : AllNamed blueprint) (step : HistoryStep) :
    (step.apply blueprint).creating = true ↔
      blueprint.creating = true ∨ step = .build .create := by
  rcases step.apply_cases blueprint with ⟨call, rfl, applied⟩ | ⟨noCall, applied⟩
  · have creates := call.creates_iff blueprint
    rw [applied, call.apply_eq, creating, List.any_append, Bool.or_eq_true, ← creating,
      List.any_eq_true, creates, HistoryStep.build.injEq]
  · rw [applied, resolve_of_named named, with_implied_creating]
    exact ⟨.inl, fun either => either.resolve_right (noCall _)⟩

theorem not_creating_history {blueprint : Blueprint} (named : AllNamed blueprint)
    (altered : blueprint.creating = false) {steps : List HistoryStep}
    (altering : .build .create ∉ steps) : (blueprint.afterHistory steps).creating = false := by
  induction steps generalizing blueprint with
  | nil => exact altered
  | cons step steps ih =>
      rw [List.mem_cons, not_or] at altering
      obtain ⟨other, laterOther⟩ := altering
      refine ih (all_named_step named step) ?_ laterOther
      rw [Bool.eq_false_iff, ne_eq, creating_step named, altered]
      rintro (creates | same)
      · cases creates
      · exact other same.symm

theorem columns_step (blueprint : Blueprint) (step : HistoryStep) :
    ∃ more, (step.apply blueprint).columns = blueprint.columns ++ more := by
  rcases step.apply_cases blueprint with ⟨call, _, applied⟩ | ⟨_, applied⟩
  · rw [applied, call.apply_eq]
    exact ⟨_, rfl⟩
  · refine ⟨[], ?_⟩
    rcases resolve_cases blueprint with ⟨_, resolved⟩ | ⟨_, resolved⟩ <;>
      rw [applied, resolved, List.append_nil] <;>
      exact (with_implied_same_table blueprint).columns

theorem columns_history (blueprint : Blueprint) (steps : List HistoryStep) :
    ∃ more, (blueprint.afterHistory steps).columns = blueprint.columns ++ more := by
  induction steps generalizing blueprint with
  | nil => exact ⟨[], by simp [afterHistory]⟩
  | cons step steps ih =>
      obtain ⟨first, applied⟩ := columns_step blueprint step
      obtain ⟨others, later⟩ := ih (step.apply blueprint)
      refine ⟨first ++ others, ?_⟩
      change ((step.apply blueprint).afterHistory steps).columns = _
      rw [later, applied, List.append_assoc]

theorem distinct_before_history {blueprint : Blueprint} {steps : List HistoryStep}
    (distinct : DistinctNames (blueprint.afterHistory steps).columns) :
    DistinctNames blueprint.columns := by
  obtain ⟨more, later⟩ := columns_history blueprint steps
  rw [later] at distinct
  exact (List.pairwise_append.mp distinct).1

end Blueprint

end SchemaBlueprint
