import SchemaBlueprint.Config.Validation
import SchemaBlueprint.Proofs.Execution
import SchemaBlueprint.Proofs.WrittenNames

/-!
The names that reach a server. A builder checks the names that a request gives on its own and the
table of its blueprint, and an accepted configuration has a valid schema. All other names are
executed as the blueprint has them.
-/

namespace SchemaBlueprint

set_option autoImplicit false

theorem Config.schema_valid {config : Config} (accepted : config.validate = .ok config)
    (configured : config.grammar.schemaPrefix.isEmpty = false) :
    Identifier.validate config.grammar.schemaPrefix = .ok () := by
  unfold Config.validate at accepted
  cases faulty : config.fault? with
  | some fault =>
      rw [faulty] at accepted
      cases accepted
  | none =>
      obtain ⟨_, settings⟩ := Option.or_eq_none_iff.mp faulty
      obtain ⟨schema, _⟩ := Option.or_eq_none_iff.mp settings
      rw [settingFault?, configured, if_neg (by decide), Option.map_eq_none_iff] at schema
      rw [Identifier.validate, schema]

namespace Grammar

def NamesValid (names : List RoledName) : Prop :=
  ∀ named ∈ names, Identifier.validate named.2 = .ok ()

instance : DecidablePred NamesValid := fun names =>
  inferInstanceAs (Decidable (∀ named ∈ names, Identifier.validate named.2 = .ok ()))

variable {grammar : Grammar} {blueprint : Blueprint}

theorem schema_mem_table {table name : String} :
    (.schema, name) ∈ grammar.tableNames table ↔
      grammar.settings.schemaPrefix.isEmpty = false ∧ name = grammar.settings.schemaPrefix := by
  unfold tableNames
  cases grammar.settings.schemaPrefix.isEmpty <;> simp

theorem schema_not_mem_listed {names : List String} {name : String} :
    (.schema, name) ∉ listedNames names := by
  simp [listedNames]

theorem schema_not_mem_defined {table name : String} {column : Column} :
    (.schema, name) ∉ grammar.definedNames table column := by
  unfold definedNames
  split <;> simp

theorem schema_not_mem_inline {column : Column} {name : String} :
    (.schema, name) ∉ inlineNames blueprint column := by
  unfold inlineNames
  split
  · split <;> simp
  · exact List.not_mem_nil

theorem schema_of_written {command : Command} {name : String}
    (written : (.schema, name) ∈ grammar.writtenNames blueprint command) :
    grammar.settings.schemaPrefix.isEmpty = false ∧ name = grammar.settings.schemaPrefix := by
  cases command with
  | create =>
      simp only [writtenNames, foreignNames, indexNames, List.mem_append, List.mem_flatMap,
        List.mem_cons, schema_mem_table, schema_not_mem_listed, schema_not_mem_defined,
        Prod.mk.injEq, reduceCtorEq, false_and, and_false, or_false, false_or, exists_false]
        at written
      rcases written with own | ⟨_, _, referenced⟩
      · exact own
      · exact referenced
  | _ =>
      simp_all [writtenNames, foreignNames, indexNames, schema_mem_table, schema_not_mem_listed,
        schema_not_mem_defined, schema_not_mem_inline]

end Grammar

namespace Builder

open Grammar

variable {σ : Type}

theorem rows_of_executed {grammar : Grammar} {blueprint : Blueprint}
    {statements executed : List String} (compiled : (grammar.toSql blueprint).2 = .ok statements)
    (front : executed <+: statements) :
    ∃ rows, rows <+: grammar.statementParts (grammar.toSql blueprint).1 ∧
      executed = rows.map grammar.spell ∧
      (executed = statements → rows = grammar.statementParts (grammar.toSql blueprint).1) := by
  have spelled := spell_statements compiled
  rw [spelled] at front
  obtain ⟨rows, first, rfl⟩ := List.prefix_map_iff.mp front
  refine ⟨rows, first, rfl, fun whole => first.eq_of_length ?_⟩
  have lengths := congrArg List.length (whole.trans spelled)
  simpa using lengths

/-- What a builder executes for a request under an accepted configuration. Before anything is
executed the names that the request gives and the table of its blueprint have been checked, and a
schema in a statement is always valid. All names that are executed are valid if the commands of the
resolved blueprint write only valid names, and for a request that succeeds, only then. -/
theorem executed_names_valid_iff (config : Config) (accepted : config.validate = .ok config)
    (builder : Builder σ) (configured : builder.grammar.settings = config.grammar)
    (request : Request) (state : σ) :
    (∃ fault, play (builder.recorded.serve request) (state, []) = (.error fault, (state, []))) ∨
    ∃ blueprint rows outcome after,
      builder.requested request = .ok blueprint ∧
      play (builder.recorded.serve request) (state, []) =
        (outcome, (after, rows.map builder.grammar.spell)) ∧
      (∀ name ∈ blueprint.table :: request.names, Identifier.validate name = .ok ()) ∧
      let resolved := (builder.grammar.toSql blueprint).1
      let written := resolved.commands.flatMap (builder.grammar.writtenNames resolved)
      rows <+: builder.grammar.statementParts resolved ∧
      (∀ name, (.schema, name) ∈ rows.flatMap namesIn → Identifier.validate name = .ok ()) ∧
      (NamesValid written → NamesValid (rows.flatMap namesIn)) ∧
      ∀ result, outcome = .ok result → (NamesValid (rows.flatMap namesIn) ↔ NamesValid written) := by
  have same : builder.recorded.requested request = builder.requested request := by
    cases request <;> rfl
  rw [play_serve, same]
  cases reached : builder.requested request with
  | error fault => exact .inl ⟨fault, rfl⟩
  | ok blueprint =>
      obtain refused | ⟨statements, executed, outcome, after, played, table, compiled, front,
        whole⟩ := builder.play_build blueprint state
      · exact .inl refused
      · obtain ⟨rows, first, rfl, all⟩ := rows_of_executed compiled front
        have names : ∀ named, named ∈ (builder.grammar.statementParts
            (builder.grammar.toSql blueprint).1).flatMap namesIn ↔
            named ∈ (builder.grammar.toSql blueprint).1.commands.flatMap
              (builder.grammar.writtenNames (builder.grammar.toSql blueprint).1) := by
          intro named
          rw [List.mem_flatMap, List.mem_flatMap]
          exact mem_statement_names compiled
        have inside : ∀ named ∈ rows.flatMap namesIn,
            named ∈ (builder.grammar.toSql blueprint).1.commands.flatMap
              (builder.grammar.writtenNames (builder.grammar.toSql blueprint).1) := by
          intro named here
          obtain ⟨parts, row, there⟩ := List.mem_flatMap.mp here
          exact (names named).mp (List.mem_flatMap.mpr ⟨parts, first.subset row, there⟩)
        refine .inr ⟨blueprint, rows, outcome, after, rfl, played, ?_, first, ?_, ?_, ?_⟩
        · exact List.forall_mem_cons.mpr ⟨table, valid_of_requested reached⟩
        · intro name here
          obtain ⟨command, _, written⟩ := List.mem_flatMap.mp (inside _ here)
          obtain ⟨set, rfl⟩ := schema_of_written written
          rw [configured] at set ⊢
          exact Config.schema_valid accepted set
        · exact fun valid named here => valid named (inside named here)
        · intro result done
          rw [all (whole result done)]
          exact forall_congr' fun named => imp_congr_left (names named)

def obedient : Connection Unit := ⟨fun _ => pure (), fun _ _ => pure []⟩

def configOfApp : Config :=
  { connection := { host := "localhost", database := "APP", username := "app" } }

def builderOfApp : Builder Unit := ⟨obedient, {}, "APP"⟩

def ordersToArchive : Blueprint := { table := "orders", commands := [.rename "archive"] }

theorem executed_names_valid_iff_archive :
    configOfApp.validate = .ok configOfApp ∧
    builderOfApp.grammar.settings = configOfApp.grammar ∧
    ∃ rows : List (List Part),
      play (builderOfApp.recorded.serve (.rename "orders" "archive")) ((), []) =
        (.ok ["alter table orders rename to archive"], ((), rows.map (spell {}))) ∧
      rows.map (spell {}) = ["alter table orders rename to archive"] ∧
      NamesValid (rows.flatMap namesIn) := by
  have accepted : configOfApp.validate = .ok configOfApp := by decide +kernel
  have ran : play (builderOfApp.recorded.serve (.rename "orders" "archive")) ((), []) =
      (.ok ["alter table orders rename to archive"],
        ((), ["alter table orders rename to archive"])) := by
    decide +kernel
  have reached : builderOfApp.requested (.rename "orders" "archive") = .ok ordersToArchive := by
    rfl
  obtain ⟨fault, failed⟩ | ⟨blueprint, rows, outcome, after, requested, played, _, _, _, valid, _⟩ :=
    executed_names_valid_iff configOfApp accepted builderOfApp rfl (.rename "orders" "archive") ()
  · rw [ran] at failed
    cases failed
  · rw [reached, Except.ok.injEq] at requested
    subst requested
    have written : NamesValid ((toSql {} ordersToArchive).1.commands.flatMap
        (writtenNames {} (toSql {} ordersToArchive).1)) := by
      decide +kernel
    have executed := (Prod.mk.inj (Prod.mk.inj (ran.symm.trans played)).2).2
    exact ⟨accepted, rfl, rows, executed ▸ ran, executed.symm, valid written⟩

def ordersToNull : Blueprint := { table := "orders", commands := [.rename "new\x00name"] }

def configOfLongPrefix : Config :=
  { configOfApp with grammar := { tablePrefix := String.ofList (List.replicate 32 '𝄞') } }

def builderOfLongPrefix : Builder Unit := ⟨obedient, ⟨configOfLongPrefix.grammar, ⟨[]⟩⟩, "APP"⟩

def longOrders : String := configOfLongPrefix.grammar.tablePrefix ++ "orders"

/-- A new name that a request to rename is refused for is executed when a blueprint gives it. A
table that is valid like the prefix before it makes a name with it that is not. -/
theorem unchecked_names_are_executed :
    (configOfApp.validate = .ok configOfApp ∧
      play (builderOfApp.recorded.serve (.rename "orders" "new\x00name")) ((), []) =
        (.error (.config (.identifier (.nullCharacter "new\x00name"))), ((), [])) ∧
      play (builderOfApp.recorded.serve (.build ordersToNull)) ((), []) =
        (.ok ["alter table orders rename to new\x00name"],
          ((), ["alter table orders rename to new\x00name"])) ∧
      ∃ parts ∈ statementParts {} (toSql {} ordersToNull).1,
        spell {} parts = "alter table orders rename to new\x00name" ∧
        (.table, "new\x00name") ∈ namesIn parts ∧ Identifier.validate "new\x00name" ≠ .ok ()) ∧
    configOfLongPrefix.validate = .ok configOfLongPrefix ∧
      play (builderOfLongPrefix.recorded.serve (.drop "orders")) ((), []) =
        (.ok ["drop table " ++ longOrders], ((), ["drop table " ++ longOrders])) ∧
      (∃ parts ∈ statementParts builderOfLongPrefix.grammar
          (toSql builderOfLongPrefix.grammar { table := "orders", commands := [.drop] }).1,
        spell builderOfLongPrefix.grammar parts = "drop table " ++ longOrders ∧
        (.table, longOrders) ∈ namesIn parts) ∧
      Identifier.validate longOrders ≠ .ok () := by
  refine ⟨?_, ?_, ?_, ?_, ?_⟩ <;> decide +kernel

end Builder

end SchemaBlueprint
