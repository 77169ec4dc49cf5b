import SchemaBlueprint.Proofs.Listing
import SchemaBlueprint.Proofs.Postcondition

/-!
Runs of the same calls with and without passes in between. At any time the run with passes has what
the direct run has, and beside that the columns it has listed and the keys and indexes that were
missing at one of its passes, each registered once. The pass that comes last then finds missing what
it would have found directly, less what is registered already.
-/

namespace SchemaBlueprint

set_option autoImplicit false

def HistoryStep.isCall : HistoryStep → Bool
  | .build _ => true
  | _ => false

def withoutPasses (steps : List HistoryStep) : List HistoryStep := steps.filter HistoryStep.isCall

namespace Blueprint

/-- The blueprint at each pass of a history, as the calls before it make it when no pass comes
between them. -/
def passes (direct : Blueprint) : List HistoryStep → List Blueprint
  | [] => []
  | .build call :: steps => passes (call.apply direct) steps
  | _ :: steps => direct :: passes direct steps

structure Precedes (before after : Blueprint) : Prop where
  table : after.table = before.table
  tablePrefix : after.tablePrefix = before.tablePrefix
  columns : ∃ more, after.columns = before.columns ++ more
  commands : ∃ more, after.commands = before.commands ++ more

namespace Precedes

variable {pass direct : Blueprint}

theorem refl (blueprint : Blueprint) : Precedes blueprint blueprint :=
  ⟨rfl, rfl, ⟨[], (List.append_nil _).symm⟩, ⟨[], (List.append_nil _).symm⟩⟩

theorem call (precedes : Precedes pass direct) (call : BuildStep) :
    Precedes pass (call.apply direct) := by
  obtain ⟨columns, grownColumns⟩ := precedes.columns
  obtain ⟨commands, grownCommands⟩ := precedes.commands
  rw [call.apply_eq]
  refine ⟨precedes.table, precedes.tablePrefix, ⟨columns ++ call.columns, ?_⟩,
    ⟨commands ++ call.commands direct, ?_⟩⟩
  · rw [grownColumns, List.append_assoc]
  · rw [grownCommands, List.append_assoc]

theorem same_names (precedes : Precedes pass direct) :
    SameTable pass { direct with columns := pass.columns } :=
  ⟨precedes.table, precedes.tablePrefix, rfl⟩

theorem flagged_indexes (precedes : Precedes pass direct) :
    direct.flaggedIndexes = pass.flaggedIndexes :=
  precedes.same_names.flagged_indexes

theorem implied_key (precedes : Precedes pass direct) : direct.impliedKey = pass.impliedKey :=
  precedes.same_names.implied_key

theorem mem_columns (precedes : Precedes pass direct) {column : Column}
    (member : column ∈ pass.columns) : column ∈ direct.columns := by
  obtain ⟨more, grown⟩ := precedes.columns
  rw [grown]
  exact List.mem_append_left _ member

theorem find_counter (precedes : Precedes pass direct) {column : Column}
    (counter : pass.columns.find? Column.isCounter = some column) :
    direct.columns.find? Column.isCounter = some column := by
  obtain ⟨more, grown⟩ := precedes.columns
  rw [grown, List.find?_append, counter, Option.some_or]

theorem eq_of_double (precedes : Precedes pass direct) (distinct : DistinctNames direct.columns)
    {old command : Command} (missing : old ∈ pass.missingIndexes) {column : Column}
    (member : column ∈ direct.columns) (asked : command ∈ direct.flaggedIndexes column)
    (same : sameIndex old command = true) : old = command := by
  rw [precedes.flagged_indexes] at asked
  rcases mem_missing_indexes.mp missing with ⟨⟨other, there, askedOld⟩, _⟩ | ⟨unflagged, counted⟩
  · -- Both were flagged, so they belong to one column and carry its generated name.
    cases names : Text.sameName other.name column.name with
    | false =>
        have different := flagged_indexes_of_different names old askedOld command asked
        simp [different] at same
    | true =>
        obtain rfl := eq_of_same_name distinct (precedes.mem_columns there) member names
        obtain ⟨kind, _, declaredOld⟩ := mem_flagged_indexes.mp askedOld
        obtain ⟨kind', _, declared⟩ := mem_flagged_indexes.mp asked
        obtain ⟨own, ofOld, _⟩ := spec_of_same_index declared same
        obtain rfl := Command.spec_kind_eq declaredOld ofOld
        exact Command.spec_injective declaredOld declared
  · -- The key of a counter would belong to a flagged column, but then it was not implied.
    obtain ⟨counter, found, rfl⟩ := counted
    obtain ⟨kind, flag, declared⟩ := mem_flagged_indexes.mp asked
    obtain ⟨own, ofOld, names⟩ := spec_of_same_index declared same
    obtain rfl := Command.spec_kind_eq (Command.spec_primary_iff.mpr rfl) ofOld
    rw [Command.spec_primary_iff, Command.primary.injEq] at ofOld
    subst ofOld
    have there := List.mem_of_find?_eq_some found
    have equal : Text.sameName counter.name column.name = true := by
      simpa [Text.sameNames, Text.sameName, impliedKey, namedIndex] using names
    obtain rfl := eq_of_same_name distinct (precedes.mem_columns there) member equal
    have none_flagged := unflagged.2 counter there
    simp [Column.flag, none_flagged] at flag

theorem implied_of_primary (precedes : Precedes pass direct)
    (unflagged : ∀ column ∈ direct.columns, column.primary = false) {old : Command} {key : IndexSpec}
    (missing : old ∈ pass.missingIndexes) (declared : old.spec? .primary = some key) :
    ∃ column, direct.columns.find? Column.isCounter = some column ∧
      old = .primary (direct.impliedKey column) := by
  rcases mem_missing_indexes.mp missing with ⟨⟨column, there, asked⟩, _⟩ | ⟨_, counted⟩
  · obtain ⟨kind, flag, spec⟩ := mem_flagged_indexes.mp asked
    obtain rfl := Command.spec_kind_eq declared spec
    have none_flagged := unflagged column (precedes.mem_columns there)
    simp [Column.flag, none_flagged] at flag
  · obtain ⟨column, counter, same⟩ := counted
    exact ⟨column, precedes.find_counter counter, by rw [same, precedes.implied_key]⟩

end Precedes

/-- The early run is ahead of the direct one by the `seen` columns that it has listed and by the
`registered` keys and indexes, which are those that were missing at one of its passes. -/
structure Ahead (direct early : Blueprint) (passes : List Blueprint) (seen : List Column)
    (registered : List Command) : Prop where
  sameTable : SameTable direct early
  plain : ∀ command ∈ direct.commands, command.isAlteration = false
  named : AllNamed early
  grown : early.remaining.Perm (direct.commands ++ registered)
  foreign : early.foreignKeys = direct.foreignKeys
  listed : ∃ later, early.Registered seen later
  once : registered.Nodup
  registered_iff : ∀ command,
    command ∈ registered ↔ ∃ pass ∈ passes, command ∈ pass.missingIndexes
  precedes : ∀ pass ∈ passes, Precedes pass direct
  seen_iff : seen = [] ↔ ∀ pass ∈ passes, pass.creating = true ∨ pass.columns = []

namespace Ahead

variable {direct early : Blueprint} {passes : List Blueprint} {seen : List Column}
  {registered : List Command}

theorem refl {blueprint : Blueprint}
    (plain : ∀ command ∈ blueprint.commands, command.isAlteration = false)
    (named : AllNamed blueprint) : Ahead blueprint blueprint [] [] [] where
  sameTable := .refl _
  plain := plain
  named := named
  grown := by
    rw [List.append_nil, remaining, List.filter_eq_self.mpr]
    intro command member
    simp [plain command member]
  foreign := rfl
  listed := ⟨blueprint.columns, rfl, [], [], blueprint.commands, ⟨rfl, plain⟩, rfl, rfl⟩
  once := .nil
  registered_iff := by simp
  precedes := by simp
  seen_iff := by simp

theorem plain_of_registered (ahead : Ahead direct early passes seen registered) {command : Command}
    (member : command ∈ registered) :
    command.isAlteration = false ∧ command.isCreate = false ∧ command.foreign? = none := by
  obtain ⟨pass, _, missing⟩ := (ahead.registered_iff command).mp member
  exact plain_of_missing missing

theorem creating_eq (ahead : Ahead direct early passes seen registered) :
    early.creating = direct.creating := by
  have silent : registered.any Command.isCreate = false := by
    rw [List.any_eq_false]
    intro command member
    simp [(ahead.plain_of_registered member).2.1]
  rw [creating_eq_remaining, ahead.grown.any_eq, List.any_append, silent, Bool.or_false, creating]

theorem has_index_iff (ahead : Ahead direct early passes seen registered) (command : Command) :
    early.hasIndex command = true ↔
      direct.hasIndex command = true ∨ ∃ old ∈ registered, sameIndex old command = true := by
  rw [has_index_eq_remaining, ahead.grown.any_eq, List.any_append, Bool.or_eq_true,
    List.any_eq_true (l := registered), hasIndex]

theorem primary_none_iff (ahead : Ahead direct early passes seen registered) :
    early.primary? = none ↔
      direct.primary? = none ∧ ∀ old ∈ registered, old.spec? .primary = none := by
  rw [primary_eq_remaining, List.head?_eq_none_iff, List.filterMap_eq_nil_iff,
    Blueprint.primary_none_iff]
  simp only [ahead.grown.mem_iff, List.mem_append, or_imp, forall_and, Command.primary_eq_spec]

theorem missing_iff (ahead : Ahead direct early passes seen registered)
    (distinct : DistinctNames direct.columns) (command : Command) :
    command ∈ early.missingIndexes ↔ command ∈ direct.missingIndexes ∧ command ∉ registered := by
  have same := ahead.sameTable
  rw [mem_missing_indexes, mem_missing_indexes, same.columns, same.flagged_indexes,
    same.implied_key, ahead.primary_none_iff]
  constructor
  · rintro (⟨⟨column, member, asked⟩, absent⟩ | ⟨⟨⟨absent, unregistered⟩, unflagged⟩, counted⟩)
    · rw [Bool.eq_false_iff, ne_eq, ahead.has_index_iff, not_or] at absent
      refine ⟨.inl ⟨⟨column, member, asked⟩, Bool.eq_false_iff.mpr absent.1⟩, fun there => ?_⟩
      obtain ⟨kind, _, declared⟩ := mem_flagged_indexes.mp asked
      exact absent.2 ⟨command, there, same_index_refl declared⟩
    · refine ⟨.inr ⟨⟨absent, unflagged⟩, counted⟩, fun there => ?_⟩
      obtain ⟨column, _, rfl⟩ := counted
      have none_there := unregistered _ there
      simp [Command.spec?] at none_there
  · rintro ⟨⟨⟨column, member, asked⟩, absent⟩ | ⟨⟨absent, unflagged⟩, counted⟩, fresh⟩
    · refine .inl ⟨⟨column, member, asked⟩, ?_⟩
      rw [Bool.eq_false_iff, ne_eq, ahead.has_index_iff]
      rintro (there | ⟨old, there, doubled⟩)
      · simp [absent] at there
      · -- A double that an earlier pass registered would be the command itself.
        obtain ⟨pass, passed, missing⟩ := (ahead.registered_iff old).mp there
        have equal := (ahead.precedes pass passed).eq_of_double distinct missing member asked doubled
        exact fresh (equal ▸ there)
    · refine .inr ⟨⟨⟨absent, fun old there => ?_⟩, unflagged⟩, counted⟩
      cases declared : old.spec? .primary with
      | none => rfl
      | some key =>
          -- The first counting column does not change, so the old key would be the missing one.
          obtain ⟨pass, passed, missing⟩ := (ahead.registered_iff old).mp there
          obtain ⟨column, counter, rfl⟩ :=
            (ahead.precedes pass passed).implied_of_primary unflagged missing declared
          obtain ⟨other, found, equal⟩ := counted
          rw [counter, Option.some.injEq] at found
          subst found
          exact absurd (equal ▸ there) fresh

theorem call (ahead : Ahead direct early passes seen registered) (call : BuildStep) :
    Ahead (call.apply direct) (call.apply early) passes seen registered := by
  have same := ahead.sameTable
  have added := call.commands_congr same
  have plain := call.plain_commands direct
  have kept : (call.commands direct).filter (fun command => !command.isAlteration) =
      call.commands direct := List.filter_eq_self.mpr fun command member => by
    simp [(plain command member).1]
  have named := all_named_step ahead.named (.build call)
  obtain ⟨later, listed⟩ := ahead.listed
  refine ⟨?_, ?_, named, ?_, ?_, ⟨_, registered_call listed call⟩, ahead.once,
    ahead.registered_iff, fun pass passed => (ahead.precedes pass passed).call call, ahead.seen_iff⟩
  · rw [call.apply_eq, call.apply_eq]
    exact ⟨same.table, same.tablePrefix, by rw [same.columns]⟩
  · rw [call.apply_eq]
    intro command member
    rcases List.mem_append.mp member with old | new
    · exact ahead.plain command old
    · exact (plain command new).1
  · rw [call.apply_eq, call.apply_eq, remaining, List.filter_append, added, kept, ← remaining,
      List.append_assoc]
    apply (ahead.grown.append_right _).trans
    rw [List.append_assoc]
    exact List.perm_append_comm.append_left _
  · have foreign := ahead.foreign
    rw [foreignKeys, foreignKeys] at foreign
    rw [call.apply_eq, call.apply_eq, foreignKeys, foreignKeys, List.filterMap_append,
      List.filterMap_append, foreign, added]

theorem pass (ahead : Ahead direct early passes seen registered)
    (distinct : DistinctNames direct.columns) :
    Ahead direct early.withImplied (passes ++ [direct])
      (if direct.creating then seen else direct.columns)
      (registered ++ early.withAlterations.missingIndexes) := by
  have same := ahead.sameTable
  have altered := with_alterations_same_table early
  have distinctEarly : DistinctNames early.withAlterations.columns := by
    rwa [altered.columns, same.columns]
  have new : ∀ command, command ∈ early.withAlterations.missingIndexes ↔
      command ∈ direct.missingIndexes ∧ command ∉ registered := fun command =>
    mem_missing_with_alterations.trans (ahead.missing_iff distinct command)
  refine ⟨same.trans (with_implied_same_table early), ahead.plain,
    all_named_with_implied ahead.named, ?_, ?_, ?_, ?_, ?_, ?_, ?_⟩
  · rw [with_implied_remaining, ← List.append_assoc]
    exact ahead.grown.append_right _
  · have silent : early.withAlterations.missingIndexes.filterMap Command.foreign? = [] :=
      List.filterMap_eq_nil_iff.mpr fun command missing => (plain_of_missing missing).2.2
    rw [foreign_eq_remaining, with_implied_remaining, List.filterMap_append, silent,
      List.append_nil, ← foreign_eq_remaining, ahead.foreign]
  · obtain ⟨later, listed⟩ := ahead.listed
    cases creating : direct.creating with
    | true =>
        exact ⟨_, registered_with_implied_of_creating (ahead.creating_eq.trans creating) listed⟩
    | false =>
        have registered := registered_with_implied (ahead.creating_eq.trans creating)
          (same.columns ▸ distinct) listed
        rw [same.columns] at registered
        exact ⟨_, registered⟩
  · -- What is missing doubles neither itself nor what has been registered.
    refine List.nodup_append.mpr ⟨ahead.once, ?_, ?_⟩
    · apply (missing_indexes_apart distinctEarly).imp_of_mem
      rintro command _ missing _ apart rfl
      obtain ⟨_, _, _, _, declared, _⟩ := spec_of_missing missing
      simp [same_index_refl declared] at apart
    · rintro command old _ missing rfl
      exact ((new command).mp missing).2 old
  · intro command
    rw [List.mem_append, new, ahead.registered_iff]
    simp only [List.mem_append, List.mem_singleton, or_and_right, exists_or, exists_eq_left]
    constructor
    · exact fun either => either.imp id And.left
    · rintro (old | missing)
      · exact .inl old
      · by_cases old : ∃ pass ∈ passes, command ∈ pass.missingIndexes
        · exact .inl old
        · exact .inr ⟨missing, old⟩
  · intro pass passed
    rcases List.mem_append.mp passed with old | last
    · exact ahead.precedes pass old
    · rw [List.mem_singleton.mp last]
      exact .refl direct
  · cases creating : direct.creating with
    | true =>
        rw [if_pos rfl, ahead.seen_iff]
        simp [or_imp, forall_and, creating]
    | false =>
        simp only [Bool.false_eq_true, if_false, List.mem_append, List.mem_singleton, or_imp,
          forall_and, forall_eq, creating, false_or]
        refine ⟨fun empty => ⟨fun pass passed => .inr ?_, empty⟩, And.right⟩
        -- Columns only grow, so earlier passes saw none if this one sees none.
        obtain ⟨more, columns⟩ := (ahead.precedes pass passed).columns
        exact (List.append_eq_nil_iff.mp (columns.symm.trans empty)).1

theorem run (ahead : Ahead direct early passes seen registered) {steps : List HistoryStep}
    (distinct : DistinctNames (direct.afterHistory (withoutPasses steps)).columns) :
    ∃ seen' registered', Ahead (direct.afterHistory (withoutPasses steps))
      (early.afterHistory steps) (passes ++ direct.passes steps) seen' registered' := by
  induction steps generalizing direct early passes seen registered with
  | nil => exact ⟨seen, registered, by simpa [afterHistory, withoutPasses, Blueprint.passes]⟩
  | cons step steps ih =>
      rcases step.apply_cases early with ⟨call, rfl, applied⟩ | ⟨noCall, applied⟩
      · change ∃ seen' registered', Ahead _ ((HistoryStep.apply early (.build call)).afterHistory steps)
          _ seen' registered'
        rw [applied]
        exact ih (ahead.call call) distinct
      · -- The direct run stands still while the early one takes its pass.
        have skipped : withoutPasses (step :: steps) = withoutPasses steps := by
          cases step with
          | build call => exact absurd rfl (noCall call)
          | _ => rfl
        have passed : direct.passes (step :: steps) = direct :: direct.passes steps := by
          cases step with
          | build call => exact absurd rfl (noCall call)
          | _ => rfl
        rw [skipped] at distinct ⊢
        have next := ih (ahead.pass (distinct_before_history distinct)) distinct
        rw [List.append_assoc, List.singleton_append, ← passed] at next
        change ∃ seen' registered', Ahead _ ((HistoryStep.apply early step).afterHistory steps)
          _ seen' registered'
        rw [applied, resolve_of_named ahead.named]
        exact next

end Ahead

end Blueprint

end SchemaBlueprint
