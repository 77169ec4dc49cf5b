import SchemaBlueprint.Column.Build
import SchemaBlueprint.Proofs.Context
import SchemaBlueprint.Proofs.Emission
import SchemaBlueprint.Proofs.Resolved

/-!
A resolved blueprint with its commands in another order. Commands ask whether the table is created,
which its primary key is and whether some command adds a column, and no answer depends on a place;
only a created table puts its foreign keys into one statement, in their order.
-/

namespace SchemaBlueprint

set_option autoImplicit false

open Outcome

namespace Blueprint

variable {before after : Blueprint}

theorem same_answers_of_perm (single : before.primaryCount ≤ 1) (same : SameTable before after)
    (permuted : after.commands.Perm before.commands) : after.SameAnswers before where
  table := same.table
  columns := same.columns
  creating := permuted.any_eq
  primary := by
    have keys := eq_of_perm_of_single (permuted.symm.filterMap Command.primary?) single
    rw [primary?, ← List.head?_filterMap, ← keys, List.head?_filterMap, primary?]
  listed _ name := by
    have sameListed := permuted.flatMap_right Command.addedNames
    rw [Bool.eq_iff_iff]
    constructor
    · exact Text.lists_name_mono fun _ member => sameListed.mem_iff.mp member
    · exact Text.lists_name_mono fun _ member => sameListed.mem_iff.mpr member

end Blueprint

namespace Grammar

variable {grammar : Grammar} {blueprint : Blueprint}

theorem to_sql_of_resolved (resolved : blueprint.Resolved) :
    grammar.toSql blueprint = (blueprint, gather (grammar.compile blueprint) blueprint.commands) := by
  rw [toSql, Blueprint.resolve_of_resolved resolved]
  rfl

/-- The order of the commands of a resolved blueprint orders the output and does nothing else. With
the commands in any other order, foreign keys still behind one another as before, a pass finds
nothing to do, every command has the statements that it had, and the output is the old one with the
block of each command moved to where the command stands. -/
theorem rearranged_statements (grammar : Grammar) (blueprint : Blueprint) (commands : List Command)
    (passed : blueprint.resolve.2 = .ok ())
    (permuted : commands.Perm blueprint.resolve.1.commands)
    (foreign : commands.filterMap Command.foreign? = blueprint.resolve.1.foreignKeys) :
    let resolved := blueprint.resolve.1
    let rearranged := { resolved with commands }
    rearranged.resolve = (rearranged, .ok ()) ∧
    (grammar.toSql rearranged).1 = rearranged ∧
    (∀ command ∈ commands,
      grammar.compile rearranged command = grammar.compile resolved command) ∧
    ((∃ statements, (grammar.toSql rearranged).2 = .ok statements) ↔
      ∃ statements, (grammar.toSql resolved).2 = .ok statements) ∧
    ∀ statements, (grammar.toSql resolved).2 = .ok statements →
      statements = resolved.commands.flatMap (grammar.emitted resolved) ∧
      (grammar.toSql rearranged).2 = .ok (commands.flatMap (grammar.emitted resolved)) := by
  intro resolved rearranged
  have complete : resolved.Resolved := Blueprint.resolved_of_passed passed
  have same : resolved.SameTable rearranged := ⟨rfl, rfl, rfl⟩
  have completeToo : rearranged.Resolved := complete.perm same permuted
  have answers : rearranged.SameAnswers resolved :=
    Blueprint.same_answers_of_perm complete.single same permuted
  have compiles : ∀ command,
      grammar.compile rearranged command = grammar.compile resolved command :=
    fun command => compile_of_same_answers answers grammar fun _ => foreign
  have joined : (grammar.toSql rearranged).2 = gather (grammar.compile resolved) commands := by
    rw [to_sql_of_resolved completeToo]
    exact gather_congr fun command _ => compiles command
  have before : (grammar.toSql resolved).2 =
      gather (grammar.compile resolved) resolved.commands := by
    rw [to_sql_of_resolved complete]
  refine ⟨Blueprint.resolve_of_resolved completeToo, ?_, fun command _ => compiles command, ?_, ?_⟩
  · rw [to_sql_of_resolved completeToo]
  · rw [joined, before]
    constructor
    · intro succeeded
      obtain ⟨statements, gathered⟩ := succeeded
      exact ⟨_, gather_of_perm permuted.symm gathered⟩
    · intro succeeded
      obtain ⟨statements, gathered⟩ := succeeded
      exact ⟨_, gather_of_perm permuted gathered⟩
  · intro statements compiled
    rw [before] at compiled
    rw [joined]
    exact ⟨(gather_eq_ok_iff.mp compiled).2, gather_of_perm permuted compiled⟩

def accountsOfOwners : Blueprint :=
  { table := "accounts"
    columns := [Column.increments "id", { name := "owner_id", type := .integer, unique := true },
      Column.plain "bank_id" .integer]
    commands := [.create,
      .foreign { columns := ["owner_id"], table := "owners", references := ["id"] },
      .foreign { columns := ["bank_id"], table := "banks", references := ["id"] }] }

def accountsRearranged : List Command :=
  [.unique { name := "accounts_owner_id_unique", columns := ["owner_id"] },
   .foreign { name := "accounts_owner_id_foreign", columns := ["owner_id"], table := "owners",
              references := ["id"] },
   .primary { name := "accounts_id_primary", columns := ["id"], implied := true },
   .foreign { name := "accounts_bank_id_foreign", columns := ["bank_id"], table := "banks",
              references := ["id"] },
   .create]

theorem rearranged_statements_accounts :
    accountsOfOwners.resolve.2 = .ok () ∧
    accountsRearranged.Perm accountsOfOwners.resolve.1.commands ∧
    accountsRearranged.filterMap Command.foreign? = accountsOfOwners.resolve.1.foreignKeys ∧
    let resolved := accountsOfOwners.resolve.1
    let rearranged := { resolved with commands := accountsRearranged }
    rearranged.resolve = (rearranged, .ok ()) ∧
    (toSql {} rearranged).1 = rearranged ∧
    (∀ command ∈ accountsRearranged,
      compile {} rearranged command = compile {} resolved command) ∧
    ∃ statements, (toSql {} resolved).2 = .ok statements ∧
      statements = resolved.commands.flatMap (emitted {} resolved) ∧
      (toSql {} rearranged).2 = .ok (accountsRearranged.flatMap (emitted {} resolved)) := by
  have passed : accountsOfOwners.resolve.2 = .ok () := by decide +kernel
  have permuted : accountsRearranged.Perm accountsOfOwners.resolve.1.commands := by decide +kernel
  have foreign : accountsRearranged.filterMap Command.foreign? =
      accountsOfOwners.resolve.1.foreignKeys := by
    decide +kernel
  have compiled : (toSql {} accountsOfOwners.resolve.1).2 =
      .ok ["create table accounts ( id int auto_increment not null, owner_id int null, bank_id int null, constraint accounts_owner_id_foreign foreign key ( owner_id ) references owners ( id ), constraint accounts_bank_id_foreign foreign key ( bank_id ) references banks ( id ), constraint accounts_id_primary primary key ( id ) )",
        "create unique index accounts_owner_id_unique on accounts ( owner_id )"] := by
    decide +kernel
  obtain ⟨nothingNew, kept, each, _, statements⟩ :=
    rearranged_statements {} accountsOfOwners accountsRearranged passed permuted foreign
  exact ⟨passed, permuted, foreign, nothingNew, kept, each, _, compiled, statements _ compiled⟩

end Grammar

end SchemaBlueprint
