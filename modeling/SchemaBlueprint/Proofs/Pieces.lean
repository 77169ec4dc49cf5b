import SchemaBlueprint.Proofs.Compilation
import SchemaBlueprint.Proofs.Context
import SchemaBlueprint.Proofs.Gathering
import SchemaBlueprint.Proofs.Listing

/-!
Compiling a blueprint piece by piece. A command that lists columns says the same as one command for
each of them, and what a command says depends on a few answers of the blueprint around it. So two
blueprints with the same context can be compared by their pieces.
-/

namespace SchemaBlueprint

set_option autoImplicit false

open Outcome

/-- A command, cut into commands for single columns if it lists columns. -/
def Command.pieces : Command → List Command
  | .add names => names.map fun name => .add [name]
  | .change names => names.map fun name => .change [name]
  | command => [command]

def Column.alteration (column : Column) : Command :=
  if column.change then .change [column.name] else .add [column.name]

namespace Blueprint

variable {blueprint : Blueprint} {seen later : List Column}

theorem flatMap_pieces_of_plain {commands : List Command}
    (plain : ∀ command ∈ commands, command.isAlteration = false) :
    commands.flatMap Command.pieces = commands := by
  induction commands with
  | nil => rfl
  | cons command commands ih =>
      have single : command.pieces = [command] := by
        have alone := plain command List.mem_cons_self
        cases command <;> first | rfl | simp [Command.isAlteration, Command.isChange,
          Command.isAdd] at alone
      rw [List.flatMap_cons, single, ih fun other member =>
        plain other (List.mem_cons_of_mem _ member)]
      rfl

theorem flatMap_pieces_map {declare : List String → Command}
    (each : ∀ names, (declare names).pieces = names.map fun name => declare [name])
    (lists : List (List String)) :
    (lists.map declare).flatMap Command.pieces = lists.flatten.map fun name => declare [name] := by
  rw [List.flatMap_map, List.map_flatten, List.flatMap]
  congr 2
  funext names
  exact each names

theorem pieces_perm (registered : blueprint.Registered seen later) :
    (blueprint.commands.flatMap Command.pieces).Perm
      (blueprint.remaining ++ seen.map Column.alteration) := by
  obtain ⟨_, changes, adds, rest, shape, changed, added⟩ := registered
  have pieces : blueprint.commands.flatMap Command.pieces =
      (seen.filter (·.change)).map Column.alteration ++
        ((seen.filter (!·.change)).map Column.alteration ++ rest) := by
    rw [shape.commands, List.flatMap_append, List.flatMap_append,
      flatMap_pieces_of_plain shape.plain, flatMap_pieces_map fun _ => rfl,
      flatMap_pieces_map fun _ => rfl, changed, added, List.map_map, List.map_map]
    congr 1
    · apply List.map_congr_left
      intro column member
      have flag := (List.mem_filter.mp member).2
      simp [Column.alteration, flag]
    · congr 1
      apply List.map_congr_left
      intro column member
      have flag := (List.mem_filter.mp member).2
      simp_all [Column.alteration]
  have together := (List.filter_append_perm (·.change) seen).map Column.alteration
  rw [List.map_append] at together
  rw [pieces, shape.remaining_eq, ← List.append_assoc]
  exact List.perm_append_comm.trans (together.append_left rest)

structure SameContext (left right : Blueprint) : Prop where
  table : left.table = right.table
  columns : left.columns = right.columns
  creating : left.creating = right.creating
  primary : left.primary? = right.primary?
  foreign : left.foreignKeys = right.foreignKeys
  listed : left.creating = false → left.listedAdditions = right.listedAdditions

theorem SameContext.answers {left right : Blueprint} (same : left.SameContext right) :
    left.SameAnswers right where
  table := same.table
  columns := same.columns
  creating := same.creating
  primary := same.primary
  listed altered name := by rw [same.listed altered]

end Blueprint

namespace Grammar

theorem gather_singles {single : String → Command} {step : Command → Except SchemaError (List String)}
    {write : String → Except SchemaError String}
    (alone : ∀ name, step (single name) = do return [← write name]) (names : List String) :
    gather step (names.map single) = names.mapM write := by
  induction names with
  | nil => rfl
  | cons name names ih =>
      rw [List.map_cons, gather_cons, List.mapM_cons, ih, alone]
      cases write name with
      | error fault => rfl
      | ok statement => cases names.mapM write <;> rfl

theorem compile_pieces (grammar : Grammar) (blueprint : Blueprint) (command : Command) :
    gather (grammar.compile blueprint) command.pieces = grammar.compile blueprint command := by
  have single : ∀ write : String → Except SchemaError String, ∀ name,
      [name].mapM write = do return [← write name] := by
    intro write name
    rw [List.mapM_cons]
    rfl
  cases command with
  | add names => exact gather_singles (single _) names
  | change names => exact gather_singles (single _) names
  | _ => exact gather_singleton _

theorem compile_all_eq_gather (grammar : Grammar) (blueprint : Blueprint) :
    grammar.compileAll blueprint =
      gather (grammar.compile blueprint) (blueprint.commands.flatMap Command.pieces) :=
  (gather_flatMap (grammar.compile_pieces blueprint)).symm

variable {left right : Blueprint}

theorem compile_congr (same : left.SameContext right) (grammar : Grammar) :
    grammar.compile left = grammar.compile right := by
  funext command
  exact compile_of_same_answers same.answers grammar fun _ => same.foreign

end Grammar

end SchemaBlueprint
