import SchemaBlueprint.Column.Build
import SchemaBlueprint.Proofs.Context
import SchemaBlueprint.Proofs.Gathering
import SchemaBlueprint.Proofs.Postcondition
import SchemaBlueprint.Proofs.Resolved

/-!
A resolved blueprint with one more command behind the others. The pass gives the command its name
and finds nothing else to do; and as long as no other command asks about it, what the others are
compiled to is not touched.
-/

namespace SchemaBlueprint

set_option autoImplicit false

open Outcome

/-- A command that others do not ask about, except for the foreign keys of a created table: it
creates no table, lists no columns of one and is no primary key. -/
structure Command.StandsAlone (command : Command) : Prop where
  create : command.isCreate = false
  alteration : command.isAlteration = false
  key : command.primary? = none

namespace Blueprint

variable {blueprint : Blueprint} {command : Command}

theorem stands_alone_filled (alone : command.StandsAlone) :
    (blueprint.filledCommand command).StandsAlone := by
  have key := alone.key
  cases command with
  | primary own => simp [Command.primary?] at key
  | foreign own | unique own | index own => exact ⟨rfl, rfl, rfl⟩
  | _ => exact alone

theorem foreign_filled_eq_none (noForeign : command.foreign? = none) :
    (blueprint.filledCommand command).foreign? = none := by
  cases command with
  | foreign own => simp [Command.foreign?] at noForeign
  | _ => rfl

theorem same_answers_of_push (alone : command.StandsAlone) :
    (blueprint.push command).SameAnswers blueprint where
  table := rfl
  columns := rfl
  creating := by simp [creating, push, alone.create]
  primary := by simp [primary?, push, alone.key]
  listed _ name := by
    simp [listedAdditions, push, (changed_names_of_plain alone.alteration).2]

end Blueprint

namespace Grammar

variable {blueprint : Blueprint}

theorem compile_in_pushed (grammar : Grammar) {added : Command} (alone : added.StandsAlone)
    (foreign : blueprint.creating = true → added.foreign? = none) :
    (∀ earlier ∈ blueprint.commands,
      grammar.compile (blueprint.push added) earlier = grammar.compile blueprint earlier) ∧
    grammar.compile (blueprint.push added) added = grammar.compile blueprint added := by
  have answers : (blueprint.push added).SameAnswers blueprint :=
    Blueprint.same_answers_of_push alone
  constructor
  · intro earlier member
    apply compile_of_same_answers answers
    intro creates
    -- Only a creation reads the foreign keys, and then the new command is none.
    have noForeign := foreign (List.any_eq_true.mpr ⟨earlier, member, creates⟩)
    simp [Blueprint.foreignKeys, Blueprint.push, noForeign]
  · apply compile_of_same_answers answers
    intro creates
    simp [alone.create] at creates

/-- Adding a command to a compiled blueprint is local. Unless it creates the table, lists columns or
is a primary key, or is a foreign key of a table that is being created, the next compilation gives
what the last one gave and then the statements of the new command under its name, or else the error
of the new command. No other command says anything else than before. -/
theorem added_command_is_local (grammar : Grammar) (blueprint : Blueprint)
    (statements : List String) (command : Command) (alone : command.StandsAlone)
    (foreign : blueprint.creating = true → command.foreign? = none)
    (compiled : (grammar.toSql blueprint).2 = .ok statements) :
    let resolved := (grammar.toSql blueprint).1
    let added := resolved.filledCommand command
    let extended := resolved.push added
    (Blueprint.OnlyNamed command added ∧ added.Named) ∧
    grammar.toSql (resolved.push command) =
      (extended, (grammar.compile resolved added).map (statements ++ ·)) ∧
    grammar.compile extended added = grammar.compile resolved added ∧
    ∀ earlier ∈ resolved.commands,
      grammar.compile extended earlier = grammar.compile resolved earlier := by
  intro resolved added extended
  obtain ⟨passed, all⟩ := to_sql_eq_ok_iff.mp compiled
  have left : resolved = blueprint.resolve.1 := to_sql_blueprint grammar blueprint
  have complete : resolved.Resolved := left ▸ Blueprint.resolved_of_passed passed
  have aloneNamed : added.StandsAlone := Blueprint.stands_alone_filled alone
  have foreignNamed : resolved.creating = true → added.foreign? = none := by
    intro creating
    rw [left, blueprint.resolve_creating] at creating
    exact Blueprint.foreign_filled_eq_none (foreign creating)
  obtain ⟨others, own⟩ := compile_in_pushed grammar aloneNamed foreignNamed
  refine ⟨⟨Blueprint.only_named_filled_command _ _, Blueprint.named_filled_command _ _⟩, ?_,
    own, others⟩
  have front : gather (grammar.compile extended) resolved.commands = .ok statements := by
    rw [gather_congr others, left]
    exact all
  rw [toSql, Blueprint.resolve_of_pushed complete alone.key]
  change (extended, gather (grammar.compile extended) (resolved.commands ++ [added])) = _
  rw [gather_append, front, gather_singleton, own]
  cases grammar.compile resolved added <;> rfl

def membersOfClubs : Blueprint :=
  { table := "members"
    columns := [Column.increments "id", Column.plain "club_id" .integer]
    commands := [.create,
      .foreign { columns := ["club_id"], table := "clubs", references := ["id"] }] }

def clubIndex : Command := .index { columns := ["CLUB_ID", "id"] }

theorem added_command_is_local_members :
    clubIndex.StandsAlone ∧
    (membersOfClubs.creating = true → clubIndex.foreign? = none) ∧
    ∃ statements, (toSql {} membersOfClubs).2 = .ok statements ∧
      let resolved := (toSql {} membersOfClubs).1
      let added := resolved.filledCommand clubIndex
      let extended := resolved.push added
      (Blueprint.OnlyNamed clubIndex added ∧ added.Named) ∧
      toSql {} (resolved.push clubIndex) =
        (extended, (compile {} resolved added).map (statements ++ ·)) ∧
      compile {} resolved added =
        .ok ["create index members_club_id_id_index on members ( CLUB_ID, id )"] ∧
      compile {} extended added = compile {} resolved added ∧
      ∀ earlier ∈ resolved.commands, compile {} extended earlier = compile {} resolved earlier := by
  have alone : clubIndex.StandsAlone := ⟨rfl, rfl, rfl⟩
  have foreign : membersOfClubs.creating = true → clubIndex.foreign? = none := fun _ => rfl
  have compiled : (toSql {} membersOfClubs).2 =
      .ok ["create table members ( id int auto_increment not null, club_id int null, constraint members_club_id_foreign foreign key ( club_id ) references clubs ( id ), constraint members_id_primary primary key ( id ) )"] := by
    decide +kernel
  have written : compile {} (toSql {} membersOfClubs).1
      ((toSql {} membersOfClubs).1.filledCommand clubIndex) =
        .ok ["create index members_club_id_id_index on members ( CLUB_ID, id )"] := by
    decide +kernel
  obtain ⟨named, whole, own, others⟩ :=
    added_command_is_local {} membersOfClubs _ clubIndex alone foreign compiled
  exact ⟨alone, foreign, _, compiled, named, whole, written, own, others⟩

end Grammar

end SchemaBlueprint
