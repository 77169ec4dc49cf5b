import SchemaBlueprint.Proofs.Emission
import SchemaBlueprint.Proofs.Execution
import SchemaBlueprint.Proofs.History

/-!
How far a build gets. A connection that accepts every statement is given all of them; otherwise the
first one that it rejects is the last one that it is given, and its error is the result. Whatever is
put into a blueprint that begins with creating its table, the table is created first.
-/

namespace SchemaBlueprint

set_option autoImplicit false

variable {σ : Type}

namespace Connection

/-- A connection accepts statements one after the other, each from the state that the one before it
leaves. -/
inductive Accepts (connection : Connection σ) : σ → List String → σ → Prop
  | nil (state : σ) : Accepts connection state [] state
  | cons {before between after : σ} {statement : String} {rest : List String}
      (taken : play (connection.execute statement) before = (.ok (), between))
      (later : Accepts connection between rest after) :
      Accepts connection before (statement :: rest) after

/-- What comes of giving statements to a connection: a result, the state that is left and the
statements that it was given. -/
inductive Performs (connection : Connection σ) (before : σ) (statements : List String) :
    Except SchemaError (List String) × σ × List String → Prop
  | all {after : σ} (accepted : connection.Accepts before statements after) :
      Performs connection before statements (.ok statements, after, statements)
  | upTo {between after : σ} {accepted rest : List String} {rejected : String} {fault : SchemaError}
      (cut : statements = accepted ++ rejected :: rest)
      (taken : connection.Accepts before accepted between)
      (refused : play (connection.execute rejected) between = (.error fault, after)) :
      Performs connection before statements (.error fault, after, accepted ++ [rejected])

variable {connection : Connection σ}

theorem performs_execute_all (connection : Connection σ) (statements : List String) (before : σ) :
    ∃ outcome after issued,
      connection.Performs before statements (outcome.map fun _ => statements, after, issued) ∧
      ∀ given, play (connection.recorded.executeAll statements) (before, given) =
        (outcome, (after, given ++ issued)) := by
  induction statements generalizing before with
  | nil => exact ⟨.ok (), before, [], .all (.nil before), fun given => by rw [List.append_nil]; rfl⟩
  | cons statement rest ih =>
      have step : ∀ given, play (connection.recorded.execute statement) (before, given) =
          ((play (connection.execute statement) before).1,
            ((play (connection.execute statement) before).2, given ++ [statement])) := fun _ => rfl
      cases taken : play (connection.execute statement) before with
      | mk first between =>
          cases first with
          | error fault =>
              refine ⟨.error fault, between, [statement], .upTo rfl (.nil before) taken, ?_⟩
              intro given
              rw [executeAll, play_bind, step, taken]
          | ok done =>
              obtain ⟨outcome, after, issued, performs, played⟩ := ih between
              refine ⟨outcome, after, statement :: issued, ?_, ?_⟩
              · cases outcome with
                | ok _ =>
                    cases performs with
                    | all accepted => exact .all (.cons taken accepted)
                | error fault =>
                    cases performs with
                    | upTo cut others refused =>
                        exact .upTo (congrArg (statement :: ·) cut) (.cons taken others) refused
              · intro given
                rw [executeAll, play_bind, step, taken]
                dsimp only
                rw [played, List.append_assoc, List.singleton_append]

theorem not_accepts_of_refused {before between after final : σ} {accepted rest : List String}
    {rejected : String} {fault : SchemaError} (taken : connection.Accepts before accepted between)
    (refused : play (connection.execute rejected) between = (.error fault, after)) :
    ¬ connection.Accepts before (accepted ++ rejected :: rest) final := by
  intro all
  induction taken with
  | nil =>
      cases all with
      | cons granted _ =>
          rw [refused] at granted
          cases granted
  | cons first _ ih =>
      cases all with
      | cons again later =>
          rw [first] at again
          cases again
          exact ih refused later

theorem Performs.ok_iff {before : σ} {statements : List String}
    {ran : Except SchemaError (List String) × σ × List String}
    (performs : connection.Performs before statements ran) :
    ran.1 = .ok statements ↔ ∃ after, connection.Accepts before statements after := by
  cases performs with
  | all accepted => exact ⟨fun _ => ⟨_, accepted⟩, fun _ => rfl⟩
  | upTo cut taken refused =>
      refine ⟨nofun, ?_⟩
      rintro ⟨final, all⟩
      exact absurd (cut ▸ all) (not_accepts_of_refused taken refused)

theorem Performs.first_issued {before : σ} {first : String} {rest : List String}
    {ran : Except SchemaError (List String) × σ × List String}
    (performs : connection.Performs before (first :: rest) ran) :
    ∃ others, ran.2.2 = first :: others := by
  cases performs with
  | all _ => exact ⟨rest, rfl⟩
  | @upTo _ _ accepted _ rejected _ cut _ _ =>
      cases accepted with
      | nil =>
          cases cut
          exact ⟨[], rfl⟩
      | cons head others =>
          cases cut
          exact ⟨others ++ [rejected], rfl⟩

end Connection

namespace Builder

/-- What comes of building a blueprint: without a valid table or without statements just that error,
and otherwise what the connection makes of the statements. -/
def Builds (builder : Builder σ) (blueprint : Blueprint) (before : σ)
    (ran : Except SchemaError (List String) × σ × List String) : Prop :=
  match Identifier.validate blueprint.table, (builder.grammar.toSql blueprint).2 with
  | .error fault, _ | .ok (), .error fault => ran = (.error fault, before, [])
  | .ok (), .ok statements =>
      builder.connection.Performs before statements ran ∧
      (ran.1 = .ok statements ↔ ∃ after, builder.connection.Accepts before statements after)

theorem builds_build (builder : Builder σ) (blueprint : Blueprint) (before : σ) :
    builder.Builds blueprint before (play (builder.recorded.build blueprint) (before, [])) := by
  have grammar : builder.recorded.grammar = builder.grammar := rfl
  have connection : builder.recorded.connection = builder.connection.recorded := rfl
  simp only [Builds, build, play_bind, play_lift, grammar, connection]
  cases Identifier.validate blueprint.table with
  | error fault => rfl
  | ok valid =>
      cases (builder.grammar.toSql blueprint).2 with
      | error fault => rfl
      | ok statements =>
          obtain ⟨outcome, after, issued, performs, played⟩ :=
            builder.connection.performs_execute_all statements before
          dsimp only
          rw [played]
          cases outcome with
          | error fault => exact ⟨performs, performs.ok_iff⟩
          | ok done => exact ⟨performs, performs.ok_iff⟩

end Builder

namespace Blueprint

def CreatesFirst (blueprint : Blueprint) : Prop := ∃ rest, blueprint.commands = .create :: rest

theorem creates_first_step {blueprint : Blueprint} (first : blueprint.CreatesFirst)
    (step : HistoryStep) : (step.apply blueprint).CreatesFirst := by
  obtain ⟨rest, commands⟩ := first
  rcases step.apply_cases blueprint with ⟨call, _, applied⟩ | ⟨_, applied⟩
  · rw [applied, call.apply_eq]
    exact ⟨rest ++ call.commands blueprint, by simp only [commands, List.cons_append]⟩
  · have creating : blueprint.creating = true := by
      rw [Blueprint.creating, commands]
      rfl
    -- A table that is being created gets no columns by commands of their own, so that a pass only
    -- registers behind the commands that are there.
    have unaltered : blueprint.withAlterations = blueprint := by
      rw [withAlterations, if_pos creating]
    have registered : blueprint.withImplied.commands =
        .create :: (rest ++ blueprint.missingIndexes) := by
      rw [with_implied_eq, unaltered, commands, List.cons_append]
    rw [applied]
    rcases resolve_cases blueprint with ⟨_, resolved⟩ | ⟨_, resolved⟩ <;> rw [resolved]
    · exact ⟨_, registered⟩
    · exact ⟨_, by rw [withNames, registered, List.map_cons]; rfl⟩

theorem creates_first_history {blueprint : Blueprint} (first : blueprint.CreatesFirst)
    (steps : List HistoryStep) : (blueprint.afterHistory steps).CreatesFirst := by
  induction steps generalizing blueprint with
  | nil => exact first
  | cons step steps ih => exact ih (creates_first_step first step)

theorem table_history (blueprint : Blueprint) (steps : List HistoryStep) :
    (blueprint.afterHistory steps).table = blueprint.table := by
  induction steps generalizing blueprint with
  | nil => rfl
  | cons step steps ih =>
      have kept : (step.apply blueprint).table = blueprint.table := by
        rcases step.apply_cases blueprint with ⟨call, _, applied⟩ | ⟨_, applied⟩
        · rw [applied, call.apply_eq]
        · rw [applied, (resolve_same_table blueprint).table]
      exact (ih (step.apply blueprint)).trans kept

end Blueprint

namespace Grammar

variable {grammar : Grammar} {blueprint : Blueprint}

theorem create_statement_opens {statement : String}
    (created : grammar.createStatement blueprint = .ok statement) :
    ("create table " ++ grammar.wrapTable blueprint.table ++ " ( ").toList <+: statement.toList := by
  obtain ⟨definitions, _, _, rfl⟩ := create_statement_eq_ok_iff.mp created
  have opens : ∀ text rest : String, text.toList <+: (text ++ rest).toList := by
    intro text rest
    rw [String.toList_append]
    exact List.prefix_append _ _
  exact ((opens _ _).trans (opens _ _)).trans (opens _ _)

theorem first_statement_creates {statements : List String}
    (compiled : (grammar.toSql blueprint).2 = .ok statements) (first : blueprint.CreatesFirst) :
    ∃ created rest, statements = created :: rest ∧
      grammar.createStatement (grammar.toSql blueprint).1 = .ok created := by
  -- Compiling begins with a pass, and the command that creates the table is still first after it.
  obtain ⟨rest, commands⟩ := Blueprint.creates_first_step first .resolve
  obtain ⟨_, all⟩ := to_sql_eq_ok_iff.mp compiled
  obtain ⟨blocks, each, rfl⟩ := compile_all_eq_ok_iff.mp all
  have head : blueprint.resolve.1.commands = .create :: rest := commands
  rw [head, Outcome.mapM_eq_ok_iff] at each
  cases each with
  | cons create later =>
      obtain ⟨created, written, rfl⟩ := Outcome.bind_pure_eq_ok_iff.mp create
      rw [to_sql_blueprint]
      exact ⟨created, _, rfl, written⟩

end Grammar

namespace Builder

def createBy (builder : Builder σ) (table : String) (steps : List HistoryStep) :
    Session σ (List String) :=
  builder.create table (·.afterHistory steps)

def blueprintToCreate (builder : Builder σ) (table : String) (steps : List HistoryStep) :
    Blueprint :=
  ((Blueprint.start table builder.grammar.settings.tablePrefix).push .create).afterHistory steps

theorem builds_create (builder : Builder σ) (table : String) (steps : List HistoryStep)
    (before : σ) :
    builder.Builds (builder.blueprintToCreate table steps) before
      (play (builder.recorded.createBy table steps) (before, [])) := by
  have own : (builder.blueprintToCreate table steps).table = table := Blueprint.table_history _ _
  cases valid : Identifier.validate table with
  | error fault =>
      have failed : play (builder.recorded.createBy table steps) (before, []) =
          (.error fault, before, []) := by
        simp only [createBy, create, blueprintFor, play_bind, play_lift, valid]
        rfl
      simp only [Builds, own, valid, failed]
  | ok done =>
      have same : play (builder.recorded.createBy table steps) (before, []) =
          play (builder.recorded.build (builder.blueprintToCreate table steps)) (before, []) := by
        simp only [createBy, create, blueprintFor, play_bind, play_lift, valid]
        rfl
      rw [same]
      exact builder.builds_build _ before

/-- A build is refused with its error before anything is executed, or it gives its statements to the
connection in order, up to the first one that is rejected, whose error is the result; all of them are
the result just when all of them were accepted. When a table is created, whatever its blueprint is
made of, the first statement that is executed creates it. -/
theorem builds_up_to_first_rejection (builder : Builder σ) (before : σ) :
    (∀ blueprint : Blueprint, builder.Builds blueprint before
      (play (builder.recorded.build blueprint) (before, []))) ∧
    ∀ (table : String) (steps : List HistoryStep),
      let blueprint := builder.blueprintToCreate table steps
      let ran := play (builder.recorded.createBy table steps) (before, [])
      builder.Builds blueprint before ran ∧
      match Identifier.validate table, (builder.grammar.toSql blueprint).2 with
      | .ok (), .ok _ => ∃ created others, ran.2.2 = created :: others ∧
          builder.grammar.createStatement (builder.grammar.toSql blueprint).1 = .ok created ∧
          ("create table " ++ builder.grammar.wrapTable table ++ " ( ").toList <+: created.toList
      | _, _ => ran.2.2 = [] := by
  refine ⟨fun blueprint => builder.builds_build blueprint before, fun table steps => ?_⟩
  have builds := builder.builds_create table steps before
  refine ⟨builds, ?_⟩
  have own : (builder.blueprintToCreate table steps).table = table := Blueprint.table_history _ _
  have first : (builder.blueprintToCreate table steps).CreatesFirst :=
    Blueprint.creates_first_history ⟨[], rfl⟩ steps
  rw [Builds, own] at builds
  cases valid : Identifier.validate table with
  | error fault =>
      rw [valid] at builds
      exact congrArg (fun ran => ran.2.2) builds
  | ok done =>
      cases compiled : (builder.grammar.toSql (builder.blueprintToCreate table steps)).2 with
      | error fault =>
          rw [valid, compiled] at builds
          exact congrArg (fun ran => ran.2.2) builds
      | ok statements =>
          rw [valid, compiled] at builds
          obtain ⟨created, rest, rfl, written⟩ := Grammar.first_statement_creates compiled first
          obtain ⟨others, issued⟩ := builds.1.first_issued
          have opens := Grammar.create_statement_opens written
          rw [Grammar.to_sql_blueprint, (Blueprint.resolve_same_table _).table, own] at opens
          exact ⟨created, others, issued, written, opens⟩

def takingOne : Connection Nat where
  execute sql := fun taken =>
    if taken = 0 then (.ok (), 1) else (.error (.database "no more" sql), taken)
  select _ _ := pure []

example :
    play ((Builder.mk takingOne {} "APP").recorded.build
      { table := "orders", commands := [.rename "old", .drop, .dropIfExists] }) (0, []) =
        (.error (.database "no more" "drop table orders"),
          (1, ["alter table orders rename to old", "drop table orders"])) := by
  decide +kernel

end Builder

end SchemaBlueprint
