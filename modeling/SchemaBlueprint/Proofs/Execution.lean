import SchemaBlueprint.Builder
import SchemaBlueprint.Proofs.Outcome

/-!
What is executed on a connection. A recorded connection keeps every statement that it is given, also
those that it rejects, and is otherwise the connection that it records. A build gives it statements
of its blueprint from the first one on, and all of them if it succeeds.
-/

namespace SchemaBlueprint

set_option autoImplicit false

variable {σ α β : Type}

def play (session : Session σ α) (state : σ) : Except SchemaError α × σ := session state

theorem play_lift (outcome : Except SchemaError α) (state : σ) :
    play (liftM outcome : Session σ α) state = (outcome, state) := rfl

theorem play_bind (session : Session σ α) (next : α → Session σ β) (state : σ) :
    play (session >>= next) state =
      match play session state with
      | (.ok value, after) => play (next value) after
      | (.error fault, after) => (.error fault, after) := by
  simp only [play, bind, ExceptT.bind, ExceptT.mk, ExceptT.bindCont, StateT.bind]
  rcases session state with ⟨fault | value, after⟩ <;> rfl

/-- The connection together with a record of the statements that it was given, the last one last. -/
def Connection.recorded (connection : Connection σ) : Connection (σ × List String) where
  execute statement := fun (state, given) =>
    let (outcome, after) := play (connection.execute statement) state
    (outcome, (after, given ++ [statement]))
  select query parameters := fun (state, given) =>
    let (outcome, after) := play (connection.select query parameters) state
    (outcome, (after, given))

/-- Statements are given to a connection in order from the first one on, all of them if none is
rejected. Recording them changes nothing else. -/
theorem Connection.play_recorded (connection : Connection σ) (statements : List String) (state : σ)
    (given : List String) :
    ∃ executed, executed <+: statements ∧
      play (connection.recorded.executeAll statements) (state, given) =
        ((play (connection.executeAll statements) state).1,
          ((play (connection.executeAll statements) state).2, given ++ executed)) ∧
      ((play (connection.executeAll statements) state).1 = .ok () → executed = statements) := by
  induction statements generalizing state given with
  | nil =>
      refine ⟨[], List.nil_prefix, ?_, fun _ => rfl⟩
      rw [List.append_nil]
      rfl
  | cons statement rest ih =>
      rw [executeAll, executeAll, play_bind, play_bind]
      have step : play (connection.recorded.execute statement) (state, given) =
          ((play (connection.execute statement) state).1,
            ((play (connection.execute statement) state).2, given ++ [statement])) := rfl
      rw [step]
      rcases play (connection.execute statement) state with ⟨fault | done, after⟩
      · -- A rejected statement is the last one that is given.
        exact ⟨[statement], List.prefix_cons_inj _ |>.mpr List.nil_prefix, rfl, nofun⟩
      · obtain ⟨executed, front, played, whole⟩ := ih after (given ++ [statement])
        refine ⟨statement :: executed, (List.prefix_cons_inj _).mpr front, ?_, ?_⟩
        · dsimp only
          rw [played, List.append_assoc, List.singleton_append]
        · exact fun done => congrArg (statement :: ·) (whole done)

inductive Request where
  | build (blueprint : Blueprint)
  | create (table : String) (define : Blueprint → Blueprint)
  | alter (table : String) (define : Blueprint → Blueprint)
  | drop (table : String)
  | dropIfExists (table : String)
  | rename (table target : String)

/-- The names that a request gives on its own and not in a blueprint. -/
def Request.names : Request → List String
  | .build _ => []
  | .create table _ | .alter table _ | .drop table | .dropIfExists table => [table]
  | .rename table target => [table, target]

namespace Builder

def recorded (builder : Builder σ) : Builder (σ × List String) :=
  ⟨builder.connection.recorded, builder.grammar, builder.owner⟩

def serve (builder : Builder σ) : Request → Session σ (List String)
  | .build blueprint => builder.build blueprint
  | .create table define => builder.create table define
  | .alter table define => builder.alter table define
  | .drop table => builder.drop table
  | .dropIfExists table => builder.dropIfExists table
  | .rename table target => builder.rename table target

def requested (builder : Builder σ) : Request → Except SchemaError Blueprint
  | .build blueprint => .ok blueprint
  | .create table define => do
      let blueprint ← builder.blueprintFor table
      return define (blueprint.push .create)
  | .alter table define => do
      let blueprint ← builder.blueprintFor table
      return define blueprint
  | .drop table => do
      let blueprint ← builder.blueprintFor table
      return blueprint.push .drop
  | .dropIfExists table => do
      let blueprint ← builder.blueprintFor table
      return blueprint.push .dropIfExists
  | .rename table target => do
      Identifier.validate target
      let blueprint ← builder.blueprintFor table
      return blueprint.push (.rename target)

theorem play_serve (builder : Builder σ) (request : Request) (state : σ) :
    play (builder.serve request) state =
      match builder.requested request with
      | .ok blueprint => play (builder.build blueprint) state
      | .error fault => (.error fault, state) := by
  have altered : ∀ table define, play (builder.alter table define) state =
      match builder.blueprintFor table with
      | .ok blueprint => play (builder.build (define blueprint)) state
      | .error fault => (.error fault, state) := by
    intro table define
    rw [alter, play_bind, play_lift]
    cases builder.blueprintFor table <;> rfl
  cases request with
  | build blueprint => rfl
  | create table define =>
      rw [serve, create, play_bind, play_lift, requested]
      cases builder.blueprintFor table <;> rfl
  | alter table define =>
      rw [serve, altered, requested]
      cases builder.blueprintFor table <;> rfl
  | drop table =>
      rw [serve, drop, altered, requested]
      cases builder.blueprintFor table <;> rfl
  | dropIfExists table =>
      rw [serve, dropIfExists, altered, requested]
      cases builder.blueprintFor table <;> rfl
  | rename table target =>
      rw [serve, rename, play_bind, play_lift, requested]
      cases Identifier.validate target with
      | error fault => rfl
      | ok valid =>
          dsimp only
          rw [altered]
          cases builder.blueprintFor table <;> rfl

theorem valid_of_blueprint_for {builder : Builder σ} {table : String} {blueprint : Blueprint}
    (started : builder.blueprintFor table = .ok blueprint) :
    Identifier.validate table = .ok () := by
  unfold blueprintFor at started
  cases checked : Identifier.validate table with
  | error fault =>
      rw [checked] at started
      cases started
  | ok valid => rfl

theorem valid_of_requested {builder : Builder σ} {request : Request} {blueprint : Blueprint}
    (accepted : builder.requested request = .ok blueprint) :
    ∀ name ∈ request.names, Identifier.validate name = .ok () := by
  cases request with
  | build blueprint => exact fun name listed => absurd listed List.not_mem_nil
  | create table _ | alter table _ | drop table | dropIfExists table =>
      obtain ⟨_, started, _⟩ := Outcome.bind_pure_eq_ok_iff.mp accepted
      exact List.forall_mem_singleton.mpr (valid_of_blueprint_for started)
  | rename table target =>
      obtain ⟨_, checked, rest⟩ := Outcome.bind_eq_ok_iff.mp accepted
      obtain ⟨_, started, _⟩ := Outcome.bind_pure_eq_ok_iff.mp rest
      exact List.forall_mem_cons.mpr
        ⟨valid_of_blueprint_for started, List.forall_mem_singleton.mpr checked⟩

/-- A build fails before anything is executed, or it gives statements of its blueprint, whose table
has been checked, to the connection. -/
theorem play_build (builder : Builder σ) (blueprint : Blueprint) (state : σ) :
    (∃ fault, play (builder.recorded.build blueprint) (state, []) = (.error fault, (state, []))) ∨
    ∃ statements executed outcome after,
      play (builder.recorded.build blueprint) (state, []) = (outcome, (after, executed)) ∧
      Identifier.validate blueprint.table = .ok () ∧
      (builder.grammar.toSql blueprint).2 = .ok statements ∧
      executed <+: statements ∧
      ∀ result, outcome = .ok result → executed = statements := by
  simp only [build, play_bind, play_lift]
  cases checked : Identifier.validate blueprint.table with
  | error fault => exact .inl ⟨fault, rfl⟩
  | ok valid =>
      have grammar : builder.recorded.grammar = builder.grammar := rfl
      rw [grammar]
      cases compiled : (builder.grammar.toSql blueprint).2 with
      | error fault => exact .inl ⟨fault, rfl⟩
      | ok statements =>
          obtain ⟨executed, front, played, whole⟩ :=
            builder.connection.play_recorded statements state []
          have connection : builder.recorded.connection = builder.connection.recorded := rfl
          dsimp only
          rw [connection, played]
          refine .inr ⟨statements, executed, ?_⟩
          generalize play (builder.connection.executeAll statements) state = ended at whole ⊢
          obtain ⟨fault | done, after⟩ := ended
          · exact ⟨_, after, rfl, rfl, rfl, front, nofun⟩
          · exact ⟨_, after, rfl, rfl, rfl, front, fun _ _ => whole rfl⟩

end Builder

end SchemaBlueprint
