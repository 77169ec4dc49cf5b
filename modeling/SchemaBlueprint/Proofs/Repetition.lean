import SchemaBlueprint.Proofs.Compilation

/-!
Compiling again, under the same grammar or another one. What a grammar says about storage types,
quoting, prefixes and defaults only changes the texts: whether a command compiles, with which error
it fails and how many statements it has depends on the blueprint alone.
-/

namespace SchemaBlueprint.Grammar

set_option autoImplicit false

open Outcome

variable (first second : Grammar) (blueprint : Blueprint)

def SameCount (left right : List String) : Prop := left.length = right.length

theorem same_count_one (left right : String) : SameCount [left] [right] := by
  simp [SameCount]

theorem storage_type_alike (column : Column) :
    Alike Eq (fun _ _ => True) (first.storageType column) (second.storageType column) := by
  unfold storageType StorageType.ofColumn
  cases column.type <;> try exact .succeeded trivial
  cases column.total with
  | none => exact .failed rfl
  | some total =>
      cases column.places with
      | none => exact .failed rfl
      | some places => exact .succeeded trivial

theorem column_definition_alike (column : Column) :
    Alike Eq (fun _ _ => True) (first.columnDefinition blueprint column)
      (second.columnDefinition blueprint column) :=
  (storage_type_alike first second column).bind fun _ _ _ => .succeeded trivial

theorem change_definition_alike (column : Column) :
    Alike Eq (fun _ _ => True) (first.changeDefinition blueprint column)
      (second.changeDefinition blueprint column) :=
  (storage_type_alike first second column).bind fun _ _ _ => .succeeded trivial

theorem created_primary_alike :
    Alike Eq (fun _ _ => True) (first.createdPrimary blueprint) (second.createdPrimary blueprint) := by
  unfold createdPrimary
  cases blueprint.primary? with
  | none => exact .succeeded trivial
  | some key => exact (Alike.same _).bind fun _ _ _ => .succeeded trivial

theorem create_statement_alike :
    Alike Eq (fun _ _ => True) (first.createStatement blueprint)
      (second.createStatement blueprint) := by
  apply (Alike.mapM_same (column_definition_alike first second blueprint)).bind
  intro _ _ _
  exact (created_primary_alike first second blueprint).bind fun _ _ _ => .succeeded trivial

theorem add_statement_alike (name : String) :
    Alike Eq (fun _ _ => True) (first.addStatement blueprint name)
      (second.addStatement blueprint name) := by
  apply (Alike.same (requireColumn blueprint name)).bind
  intro column other same
  cases same
  exact (column_definition_alike first second blueprint column).bind fun _ _ _ => .succeeded trivial

theorem change_statement_alike (name : String) :
    Alike Eq (fun _ _ => True) (first.changeStatement blueprint name)
      (second.changeStatement blueprint name) := by
  apply (Alike.same (requireColumn blueprint name)).bind
  intro column other same
  cases same
  exact (change_definition_alike first second blueprint column).bind fun _ _ _ => .succeeded trivial

theorem primary_statements_alike (key : IndexSpec) :
    Alike Eq SameCount (first.primaryStatements blueprint key)
      (second.primaryStatements blueprint key) := by
  unfold primaryStatements
  split
  · exact (Alike.same _).bind fun _ _ _ => .succeeded rfl
  · split
    · exact .succeeded rfl
    · exact .succeeded (same_count_one _ _)

theorem index_statement_alike (opening : String) (index : IndexSpec) :
    Alike Eq (fun _ _ => True) (first.indexStatement blueprint opening index)
      (second.indexStatement blueprint opening index) := by
  unfold indexStatement
  split
  · exact (Alike.same _).bind fun _ _ _ => .succeeded trivial
  · exact .succeeded trivial

theorem foreign_statements_same_count (key : ForeignKey) :
    SameCount (first.foreignStatements blueprint key) (second.foreignStatements blueprint key) := by
  unfold foreignStatements
  split
  · rfl
  · exact same_count_one _ _

theorem single_alike {left right : Except SchemaError String}
    (alike : Alike Eq (fun _ _ => True) left right) :
    Alike Eq SameCount (do return [← left]) (do return [← right]) :=
  alike.bind fun _ _ _ => .succeeded (same_count_one _ _)

theorem each_alike {left right : String → Except SchemaError String} (names : List String)
    (steps : ∀ name, Alike Eq (fun _ _ => True) (left name) (right name)) :
    Alike Eq SameCount (names.mapM left) (names.mapM right) :=
  (Alike.mapM_same steps).imp fun _ _ paired => paired.length_eq

theorem compile_alike (command : Command) :
    Alike Eq SameCount (first.compile blueprint command) (second.compile blueprint command) := by
  cases command with
  | create => exact single_alike (create_statement_alike first second blueprint)
  | add names => exact each_alike names (add_statement_alike first second blueprint)
  | change names => exact each_alike names (change_statement_alike first second blueprint)
  | primary key => exact primary_statements_alike first second blueprint key
  | foreign key => exact .succeeded (foreign_statements_same_count first second blueprint key)
  | unique index => exact single_alike (index_statement_alike first second blueprint _ index)
  | index index => exact single_alike (index_statement_alike first second blueprint _ index)
  | dropColumn names => exact .succeeded (by simp [SameCount])
  | updateEnum column allowed =>
      exact .succeeded (by simp [SameCount, updateEnumStatements])
  | _ => exact .succeeded (same_count_one _ _)

theorem flatten_same_count {left right : List (List String)}
    (paired : List.Forall₂ SameCount left right) : SameCount left.flatten right.flatten := by
  induction paired with
  | nil => rfl
  | cons head _ ih =>
      simp only [SameCount, List.flatten_cons, List.length_append] at head ih ⊢
      rw [head, ih]

theorem compile_all_alike :
    Alike Eq SameCount (first.compileAll blueprint) (second.compileAll blueprint) :=
  (Alike.mapM_same (compile_alike first second blueprint)).bind fun _ _ paired =>
    .succeeded (flatten_same_count paired)

/-- Resolving is idempotent, in what it leaves behind and in what it answers. A compilation, under
whatever grammar and with whatever result, takes nothing from the next one. And no grammar bears on
what is left behind, on success, on the error or on the number of statements. -/
theorem compilation_is_repeatable :
    blueprint.resolve.1.resolve = blueprint.resolve ∧
    second.toSql (first.toSql blueprint).1 = second.toSql blueprint ∧
    (first.toSql blueprint).1 = (second.toSql blueprint).1 ∧
    (first.toSql blueprint).2.map List.length = (second.toSql blueprint).2.map List.length := by
  refine ⟨blueprint.resolve_resolved, ?_, ?_, ?_⟩
  · rw [to_sql_blueprint, to_sql_resolved]
  · rw [to_sql_blueprint, to_sql_blueprint]
  · cases resolved : blueprint.resolve with
    | mk registered outcome =>
        cases outcome with
        | error fault => simp [toSql, resolved]
        | ok _ =>
            simp only [toSql, resolved]
            exact (compile_all_alike first second registered).map_eq fun _ _ same => same

end SchemaBlueprint.Grammar
