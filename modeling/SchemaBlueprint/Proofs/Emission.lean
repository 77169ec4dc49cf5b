import SchemaBlueprint.Proofs.Compilation
import SchemaBlueprint.Proofs.Gathering

/-!
Where statements come from. Each statement of a compiled blueprint is kept together with the command
that it comes from, since names and fragments may be any text and the statement alone does not tell.
-/

namespace SchemaBlueprint.Grammar

set_option autoImplicit false

open Outcome

structure Emission where
  command : Command
  statement : String

def emitted (grammar : Grammar) (blueprint : Blueprint) (command : Command) : List String :=
  given (grammar.compile blueprint) command

def emissions (grammar : Grammar) (blueprint : Blueprint) : List Emission :=
  blueprint.commands.flatMap fun command =>
    (grammar.emitted blueprint command).map (Emission.mk command)

variable {grammar : Grammar} {blueprint : Blueprint}

theorem mem_emissions {emission : Emission} :
    emission ∈ grammar.emissions blueprint ↔ emission.command ∈ blueprint.commands ∧
      emission.statement ∈ grammar.emitted blueprint emission.command := by
  simp only [emissions, List.mem_flatMap, List.mem_map]
  constructor
  · rintro ⟨command, member, statement, written, rfl⟩
    exact ⟨member, written⟩
  · rintro ⟨member, written⟩
    exact ⟨emission.command, member, emission.statement, written, rfl⟩

theorem statements_of_emissions :
    (grammar.emissions blueprint).map Emission.statement =
      blueprint.commands.flatMap (grammar.emitted blueprint) := by
  simp [emissions, List.map_flatMap, Function.comp_def]

theorem statements_of_kind (kind : Command → Bool) :
    ((grammar.emissions blueprint).filter fun emission => kind emission.command).map
        Emission.statement =
      (blueprint.commands.filter kind).flatMap (grammar.emitted blueprint) := by
  unfold emissions
  induction blueprint.commands with
  | nil => rfl
  | cons command commands ih =>
      rw [List.flatMap_cons, List.filter_append, List.map_append, ih, List.filter_map]
      cases chosen : kind command <;> simp [chosen, Function.comp_def]

theorem to_sql_emits {statements : List String}
    (compiled : (grammar.toSql blueprint).2 = .ok statements) :
    blueprint.resolve.2 = .ok () ∧
      (∀ command ∈ (grammar.toSql blueprint).1.commands,
        grammar.compile (grammar.toSql blueprint).1 command =
          .ok (grammar.emitted (grammar.toSql blueprint).1 command)) ∧
      statements = (grammar.emissions (grammar.toSql blueprint).1).map Emission.statement := by
  obtain ⟨resolved, all⟩ := to_sql_eq_ok_iff.mp compiled
  rw [← to_sql_blueprint grammar] at all
  obtain ⟨each, joined⟩ := gather_eq_ok_iff.mp all
  refine ⟨resolved, ?_, joined.trans statements_of_emissions.symm⟩
  intro command member
  obtain ⟨block, written⟩ := each command member
  rw [emitted, given, written]

end SchemaBlueprint.Grammar
