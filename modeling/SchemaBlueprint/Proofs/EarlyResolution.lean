import SchemaBlueprint.Proofs.EarlyPass
import SchemaBlueprint.Proofs.Pieces

/-!
When resolving early is harmless. A pass may register something that later calls make wrong: a key
that the table then gets otherwise, an index that is then asked for, an alteration of a table that is
then created. The outcome stays the same exactly when no pass has done so, or when the calls do not
compile in the first place.
-/

namespace SchemaBlueprint

set_option autoImplicit false

open Outcome

namespace Blueprint

/-- What a pass over `early` registers is still implied by `final`, which has grown from it. -/
structure StaysImplied (early final : Blueprint) : Prop where
  /-- The table has not turned out to be created after columns of it were listed. -/
  alterations : final.creating = true → early.creating = true ∨ early.columns = []
  /-- No key or index that was registered for a flag has been asked for since. -/
  flagged : ∀ column ∈ early.columns, ∀ command ∈ early.flaggedIndexes column,
    final.hasIndex command = true → early.hasIndex command = true
  /-- If a counting column has become the primary key, no other primary key has come since. -/
  counted : early.primary? = none → (∀ column ∈ early.columns, column.primary = false) →
    (∃ column ∈ early.columns, column.isCounter = true) →
    final.primary? = none ∧ ∀ column ∈ final.columns, column.primary = false

theorem implied_key_not_flagged (blueprint other : Blueprint) (counter column : Column) :
    .primary (blueprint.impliedKey counter) ∉ other.flaggedIndexes column := by
  intro asked
  obtain ⟨kind, _, declared⟩ := mem_flagged_indexes.mp asked
  obtain rfl := Command.spec_kind_eq (Command.spec_primary_iff.mpr rfl) declared
  rw [Command.spec_primary_iff, Command.primary.injEq] at declared
  have marks := congrArg IndexSpec.implied declared
  simp [impliedKey, namedIndex] at marks

theorem stays_implied_iff {early final : Blueprint} (precedes : Precedes early final) :
    StaysImplied early final ↔
      (final.creating = true → early.creating = true ∨ early.columns = []) ∧
        ∀ command ∈ early.missingIndexes, command ∈ final.missingIndexes := by
  constructor
  · intro stays
    refine ⟨stays.alterations, fun command missing => mem_missing_indexes.mpr ?_⟩
    rcases mem_missing_indexes.mp missing with ⟨⟨column, there, asked⟩, absent⟩ | ⟨none, counted⟩
    · refine .inl ⟨⟨column, precedes.mem_columns there, precedes.flagged_indexes ▸ asked⟩, ?_⟩
      rw [Bool.eq_false_iff]
      intro present
      simp [stays.flagged column there command asked present] at absent
    · obtain ⟨counter, found, same⟩ := counted
      have counts := List.find?_some found
      refine .inr ⟨stays.counted none.1 none.2 ⟨counter, List.mem_of_find?_eq_some found, counts⟩,
        counter, precedes.find_counter found, ?_⟩
      rw [same, precedes.implied_key]
  · rintro ⟨alterations, kept⟩
    refine ⟨alterations, ?_, ?_⟩
    · intro column there command asked present
      cases absent : early.hasIndex command with
      | true => rfl
      | false =>
          have missing := mem_missing_indexes.mpr (.inl ⟨⟨column, there, asked⟩, absent⟩)
          rcases mem_missing_indexes.mp (kept command missing) with ⟨_, gone⟩ | ⟨_, counted⟩
          · simp [gone] at present
          · obtain ⟨counter, _, rfl⟩ := counted
            exact absurd asked (implied_key_not_flagged _ _ _ _)
    · intro none unflagged counts
      obtain ⟨counter, found⟩ := Option.isSome_iff_exists.mp
        (List.find?_isSome.mpr counts)
      have missing := mem_missing_indexes.mpr (.inr ⟨⟨none, unflagged⟩, counter, found, rfl⟩)
      rcases mem_missing_indexes.mp (kept _ missing) with ⟨⟨column, _, asked⟩, _⟩ | ⟨still, _⟩
      · exact absurd asked (implied_key_not_flagged _ _ _ _)
      · exact still

theorem primary_of_missing {early final : Blueprint} (precedes : Precedes early final)
    {command : Command} (missing : command ∈ early.missingIndexes) {key : IndexSpec}
    (declared : command.spec? .primary = some key) : final.withImplied.primary? ≠ none := by
  intro absent
  have same := with_implied_same_table final
  have complete := complete_with_implied final
  rcases mem_missing_indexes.mp missing with ⟨⟨column, there, asked⟩, _⟩ | ⟨_, counted⟩
  · rw [← precedes.flagged_indexes, ← same.flagged_indexes] at asked
    have member := precedes.mem_columns there
    rw [← same.columns] at member
    obtain ⟨other, present, doubled⟩ := (Blueprint.has_index_iff _ _).mp
      (complete.flagged column member command asked)
    rw [Command.spec_primary_iff.mp declared, not_same_index_of_no_primary key
      ((Blueprint.primary_none_iff _).mp absent other present)] at doubled
    cases doubled
  · obtain ⟨counter, found, _⟩ := counted
    rcases complete.counted with present | uncounted
    · exact present absent
    · rw [same.columns, precedes.find_counter found] at uncounted
      cases uncounted

theorem perm_append_beside {commands base : List Command} (once : commands.Nodup)
    (baseOnce : base.Nodup) (within : ∀ command ∈ base, command ∈ commands) :
    commands.Perm (base ++ commands.filter fun command => command ∉ base) := by
  refine (List.perm_ext_iff_of_nodup once (List.nodup_append.mpr
    ⟨baseOnce, once.filter _, ?_⟩)).mpr fun command => ?_
  · rintro command there other beside rfl
    simp [there] at beside
  · by_cases there : command ∈ base
    · simp [there, within command there]
    · simp [there]

namespace Ahead

variable {direct early : Blueprint} {passes : List Blueprint} {seen : List Column}
  {registered : List Command}

theorem pieces_perm (ahead : Ahead direct early passes seen registered) :
    (early.commands.flatMap Command.pieces).Perm
      (direct.commands ++ (registered ++ seen.map Column.alteration)) := by
  obtain ⟨later, listed⟩ := ahead.listed
  rw [← List.append_assoc]
  exact (Blueprint.pieces_perm listed).trans (ahead.grown.append_right _)

theorem primaries_perm (ahead : Ahead direct early passes seen registered) :
    (early.commands.filterMap Command.primary?).Perm
      (direct.commands.filterMap Command.primary? ++ registered.filterMap Command.primary?) := by
  rw [← filterMap_remaining (fun _ => rfl) (fun _ => rfl), ← List.filterMap_append]
  exact ahead.grown.filterMap _

def beside (registered late : List Command) : List Command :=
  registered.filter fun command => command ∉ late

variable {late : List Command} {seenLate : List Column}

section Ends

variable (ahead : Ahead direct early (passes ++ [direct]) seen registered)
  (plainly : Ahead direct direct.withImplied [direct] seenLate late)

include ahead plainly

theorem registered_perm : registered.Perm (late ++ beside registered late) := by
  apply perm_append_beside ahead.once plainly.once
  intro command there
  obtain ⟨pass, passed, missing⟩ := (plainly.registered_iff command).mp there
  exact (ahead.registered_iff command).mpr
    ⟨pass, List.mem_append_right passes passed, missing⟩

theorem beside_eq_nil_iff : beside registered late = [] ↔
    ∀ pass ∈ passes, ∀ command ∈ pass.missingIndexes, command ∈ direct.missingIndexes := by
  simp only [beside, List.filter_eq_nil_iff, decide_eq_true_eq, not_not, ahead.registered_iff,
    plainly.registered_iff, List.mem_append, List.mem_singleton, exists_eq_left]
  constructor
  · exact fun all pass passed command missing => all command ⟨pass, .inl passed, missing⟩
  · rintro all command ⟨pass, passed | rfl, missing⟩
    · exact all pass passed command missing
    · exact missing

theorem resolved_primaries_perm : (early.commands.filterMap Command.primary?).Perm
    (direct.withImplied.commands.filterMap Command.primary? ++
      (beside registered late).filterMap Command.primary?) := by
  have apart := (ahead.registered_perm plainly).filterMap Command.primary?
  rw [List.filterMap_append] at apart
  apply (ahead.primaries_perm.trans (apart.append_left _)).trans
  rw [← List.append_assoc]
  exact plainly.primaries_perm.symm.append_right _

theorem primaries_eq_of_single (single : early.primaryCount ≤ 1) :
    (beside registered late).filterMap Command.primary? = [] ∧
      early.commands.filterMap Command.primary? =
        direct.withImplied.commands.filterMap Command.primary? := by
  have permuted := ahead.resolved_primaries_perm plainly
  have none_beside : (beside registered late).filterMap Command.primary? = [] := by
    apply List.filterMap_eq_nil_iff.mpr
    intro command member
    cases declared : command.primary? with
    | none => rfl
    | some key =>
        obtain ⟨there, _⟩ := List.mem_filter.mp member
        obtain ⟨pass, passed, missing⟩ := (ahead.registered_iff command).mp there
        have present := primary_of_missing (ahead.precedes pass passed) missing
          ((Command.primary_eq_spec command).symm.trans declared)
        -- Then the direct run has a primary key too, and the early one two of them.
        have some_late : direct.withImplied.commands.filterMap Command.primary? ≠ [] := by
          rwa [primary?, ← List.head?_filterMap, ne_eq, List.head?_eq_none_iff] at present
        have some_beside : (beside registered late).filterMap Command.primary? ≠ [] :=
          List.ne_nil_of_mem (List.mem_filterMap.mpr ⟨command, member, declared⟩)
        have count := permuted.length_eq
        rw [List.length_append] at count
        have first := List.length_pos_iff.mpr some_late
        have second := List.length_pos_iff.mpr some_beside
        rw [primaryCount] at single
        omega
  refine ⟨none_beside, ?_⟩
  rw [none_beside, List.append_nil] at permuted
  exact eq_of_perm_of_single permuted single

theorem same_context_of_single (single : early.primaryCount ≤ 1)
    (sameSeen : direct.creating = false → seen = seenLate) :
    early.SameContext direct.withImplied := by
  have same := ahead.sameTable
  have sameLate := plainly.sameTable
  have keys := (ahead.primaries_eq_of_single plainly single).2
  refine ⟨same.table.trans sameLate.table.symm, same.columns.trans sameLate.columns.symm,
    ahead.creating_eq.trans plainly.creating_eq.symm, ?_, ahead.foreign.trans plainly.foreign.symm,
    fun altered => ?_⟩
  · rw [primary?, ← List.head?_filterMap, keys, List.head?_filterMap, primary?]
  · obtain ⟨later, listed⟩ := ahead.listed
    obtain ⟨laterLate, listedLate⟩ := plainly.listed
    rw [listed.listed_additions, listedLate.listed_additions,
      sameSeen (ahead.creating_eq.symm.trans altered)]

theorem resolved_pieces_perm {more : List Column} (split : seen = seenLate ++ more) :
    (early.commands.flatMap Command.pieces).Perm
      (direct.withImplied.commands.flatMap Command.pieces ++
        (beside registered late ++ more.map Column.alteration)) := by
  have apart := ahead.registered_perm plainly
  have shuffled : (registered ++ seen.map Column.alteration).Perm
      ((late ++ seenLate.map Column.alteration) ++
        (beside registered late ++ more.map Column.alteration)) := by
    rw [split, List.map_append]
    apply (apart.append_right _).trans
    rw [List.append_assoc, List.append_assoc]
    apply List.Perm.append_left late
    rw [← List.append_assoc, ← List.append_assoc]
    exact List.perm_append_comm.append_right _
  apply (ahead.pieces_perm.trans (shuffled.append_left _)).trans
  rw [← List.append_assoc]
  exact plainly.pieces_perm.symm.append_right _

end Ends

end Ahead

end Blueprint

namespace Grammar

theorem single_ne_nil (written : Except SchemaError String) :
    (do return [← written] : Except SchemaError (List String)) ≠ .ok [] := by
  cases written with
  | error fault => exact fun same => by cases same
  | ok statement => exact fun same => by cases same

theorem compile_alteration_ne_nil (grammar : Grammar) (blueprint : Blueprint) (column : Column) :
    grammar.compile blueprint column.alteration ≠ .ok [] := by
  unfold Column.alteration
  split
  · exact single_ne_nil (grammar.changeStatement blueprint column.name)
  · exact single_ne_nil (grammar.addStatement blueprint column.name)

theorem compile_index_ne_nil (grammar : Grammar) (blueprint : Blueprint) {pass : Blueprint}
    {command : Command} (missing : command ∈ pass.missingIndexes)
    (noKey : command.primary? = none) : grammar.compile blueprint command ≠ .ok [] := by
  obtain ⟨kind, _, _, spec, declared, _⟩ := Blueprint.spec_of_missing missing
  cases kind with
  | primary =>
      rw [← Command.primary_eq_spec, noKey] at declared
      cases declared
  | unique =>
      rw [Command.spec_unique_iff.mp declared]
      exact single_ne_nil _
  | index =>
      rw [Command.spec_index_iff.mp declared]
      exact single_ne_nil _
  | foreign =>
      rw [Command.spec_foreign] at declared
      cases declared

theorem to_sql_of_named (grammar : Grammar) {blueprint : Blueprint} (named : blueprint.AllNamed) :
    (1 < blueprint.withImplied.primaryCount ∧ ∃ fault, (grammar.toSql blueprint).2 = .error fault) ∨
      (blueprint.withImplied.primaryCount ≤ 1 ∧
        (grammar.toSql blueprint).2 = grammar.compileAll blueprint.withImplied) := by
  have kept := Blueprint.resolve_of_named named
  rcases blueprint.resolve_cases with ⟨several, resolved⟩ | ⟨single, resolved⟩
  · exact .inl ⟨several, _, by rw [toSql, resolved]⟩
  · rw [resolved] at kept
    refine .inr ⟨single, ?_⟩
    rw [toSql, resolved]
    exact congrArg grammar.compileAll kept

end Grammar

namespace Blueprint.Ahead

variable {direct early : Blueprint} {passes : List Blueprint} {seen : List Column}
  {registered : List Command}

theorem extra_eq_nil_iff (ahead : Ahead direct early passes seen registered)
    {resolved late : List Command} {seenResolved seenLate : List Column}
    (atEnd : Ahead direct early.withImplied (passes ++ [direct]) seenResolved resolved)
    (plainly : Ahead direct direct.withImplied [direct] seenLate late) :
    beside resolved late ++
        (if direct.creating then seen else []).map Column.alteration = [] ↔
      ∀ pass ∈ passes, StaysImplied pass direct := by
  have listed : (if direct.creating then seen else []) = [] ↔
      ∀ pass ∈ passes, direct.creating = true → pass.creating = true ∨ pass.columns = [] := by
    cases creating : direct.creating with
    | true => simpa using ahead.seen_iff
    | false => simp
  rw [List.append_eq_nil_iff, List.map_eq_nil_iff, atEnd.beside_eq_nil_iff plainly, listed]
  constructor
  · intro nothing pass passed
    exact (stays_implied_iff (ahead.precedes pass passed)).mpr
      ⟨nothing.2 pass passed, nothing.1 pass passed⟩
  · intro stays
    exact ⟨fun pass passed => ((stays_implied_iff (ahead.precedes pass passed)).mp
        (stays pass passed)).2,
      fun pass passed => (stays pass passed).alterations⟩

theorem direct_fails_of_several {resolved late : List Command} {seenResolved seenLate : List Column}
    (atEnd : Ahead direct early.withImplied (passes ++ [direct]) seenResolved resolved)
    (plainly : Ahead direct direct.withImplied [direct] seenLate late) (named : AllNamed direct)
    (nothing : beside resolved late = []) (several : 1 < early.withImplied.primaryCount)
    (grammar : Grammar) : ∃ fault, (grammar.toSql direct).2 = .error fault := by
  have primaries := atEnd.resolved_primaries_perm plainly
  rw [nothing, List.filterMap_nil, List.append_nil] at primaries
  rcases grammar.to_sql_of_named named with ⟨_, failed⟩ | ⟨single, _⟩
  · exact failed
  · have count := primaries.length_eq
    rw [primaryCount] at several single
    omega

theorem same_outcome_iff (ahead : Ahead direct early passes seen registered)
    (named : AllNamed direct) (distinct : DistinctNames direct.columns) (grammar : Grammar) :
    SameUpToOrder (grammar.toSql early).2 (grammar.toSql direct).2 ↔
      (∃ fault, (grammar.toSql direct).2 = .error fault) ∨
        ∀ pass ∈ passes, StaysImplied pass direct := by
  have atEnd := ahead.pass distinct
  have plainly := (Ahead.refl ahead.plain named).pass distinct
  have nothing := ahead.extra_eq_nil_iff atEnd plainly
  rw [← nothing]
  rcases grammar.to_sql_of_named ahead.named with ⟨several, fault, failed⟩ | ⟨single, compiled⟩
  · -- The early run fails, so the question is only whether the direct one fails as well.
    rw [failed]
    constructor
    · intro same
      cases outcome : (grammar.toSql direct).2 with
      | error other => exact .inl ⟨other, rfl⟩
      | ok statements =>
          rw [outcome] at same
          cases same
    · intro either
      have fails : ∃ other, (grammar.toSql direct).2 = .error other := by
        rcases either with fails | empty
        · exact fails
        · exact atEnd.direct_fails_of_several plainly named (List.append_eq_nil_iff.mp empty).1
            several grammar
      obtain ⟨other, error⟩ := fails
      rw [error]
      exact .failed trivial
  · -- With one key at most both runs compile in the same context, piece by piece.
    obtain ⟨none_beside, keys⟩ := atEnd.primaries_eq_of_single plainly single
    have context := atEnd.same_context_of_single plainly single fun altered => by simp [altered]
    have singleDirect : direct.withImplied.primaryCount ≤ 1 := by
      rwa [primaryCount, ← keys]
    rcases grammar.to_sql_of_named named with ⟨several, _⟩ | ⟨_, compiledDirect⟩
    · omega
    · rw [compiled, compiledDirect, Grammar.compile_all_eq_gather, Grammar.compile_all_eq_gather,
        Grammar.compile_congr context]
      refine gather_extra_iff (atEnd.resolved_pieces_perm plainly ?_) ?_
      · cases direct.creating <;> simp
      · intro piece member
        rcases List.mem_append.mp member with index | alteration
        · have noKey := List.filterMap_eq_nil_iff.mp none_beside piece index
          obtain ⟨pass, _, missing⟩ := (atEnd.registered_iff piece).mp (List.mem_filter.mp index).1
          exact grammar.compile_index_ne_nil _ missing noKey
        · obtain ⟨column, _, rfl⟩ := List.mem_map.mp alteration
          exact grammar.compile_alteration_ne_nil _ column

end Blueprint.Ahead

namespace Grammar

/-- Where column names differ, passes and compilations between the calls leave the outcome as it is,
up to the order of the statements, exactly when the calls do not compile anyway or everything that a
pass could register where it came is still implied in the end. -/
theorem early_resolution_harmless_iff (grammar : Grammar) (table tablePrefix : String)
    (steps : List HistoryStep)
    (distinct :
      DistinctNames ((Blueprint.start table tablePrefix).afterHistory (withoutPasses steps)).columns) :
    let start := Blueprint.start table tablePrefix
    let direct := start.afterHistory (withoutPasses steps)
    SameUpToOrder (grammar.toSql (start.afterHistory steps)).2 (grammar.toSql direct).2 ↔
      (∃ fault, (grammar.toSql direct).2 = .error fault) ∨
        ∀ pass ∈ start.passes steps, Blueprint.StaysImplied pass direct := by
  intro start direct
  have named := Blueprint.all_named_start table tablePrefix
  have initial : Blueprint.Ahead start start [] [] [] :=
    .refl (fun _ member => by cases member) named
  obtain ⟨seen, registered, ahead⟩ := initial.run distinct
  rw [List.nil_append] at ahead
  exact ahead.same_outcome_iff (Blueprint.all_named_history named _) distinct grammar

def extendedHistory : List HistoryStep :=
  [.build (.column (Column.increments "id")), .resolve,
   .build (.column (Column.sized "email" .string 100).asUnique), .compile {},
   .build (.index ["id", "EMAIL"])]

theorem early_resolution_harmless_iff_extended :
    DistinctNames ((Blueprint.start "users" "").afterHistory (withoutPasses extendedHistory)).columns ∧
    (∀ pass ∈ (Blueprint.start "users" "").passes extendedHistory, Blueprint.StaysImplied pass
      ((Blueprint.start "users" "").afterHistory (withoutPasses extendedHistory))) ∧
    SameUpToOrder (toSql {} ((Blueprint.start "users" "").afterHistory extendedHistory)).2
      (toSql {} ((Blueprint.start "users" "").afterHistory (withoutPasses extendedHistory))).2 := by
  have distinct : DistinctNames
      ((Blueprint.start "users" "").afterHistory (withoutPasses extendedHistory)).columns := by
    unfold DistinctNames
    decide +kernel
  have stays : ∀ pass ∈ (Blueprint.start "users" "").passes extendedHistory,
      Blueprint.StaysImplied pass
        ((Blueprint.start "users" "").afterHistory (withoutPasses extendedHistory)) := by
    intro pass passed
    simp only [extendedHistory, Blueprint.passes, List.mem_cons, List.not_mem_nil, or_false] at passed
    rcases passed with rfl | rfl <;>
      exact ⟨by decide +kernel, by decide +kernel, by decide +kernel⟩
  exact ⟨distinct, stays,
    (early_resolution_harmless_iff {} "users" "" extendedHistory distinct).mpr (.inr stays)⟩

def lateKeyHistory : List HistoryStep :=
  [.build (.column (Column.increments "id")), .build (.column (Column.plain "tenant" .integer)),
   .resolve, .build (.primary ["id", "tenant"])]

def lateIndexHistory : List HistoryStep :=
  [.build (.column (Column.plain "email" .text).asUnique), .resolve, .build (.unique ["email"])]

def lateCreationHistory : List HistoryStep :=
  [.build (.column (Column.plain "email" .text)), .resolve, .build .create]

/-- After each of these late calls the early run does not do what the direct run does: it fails, it
creates the index twice, or it adds the column of a table that is not there yet. -/
theorem late_calls_change_outcome :
    ¬ SameUpToOrder (toSql {} ((Blueprint.start "users" "").afterHistory lateKeyHistory)).2
      (toSql {} ((Blueprint.start "users" "").afterHistory (withoutPasses lateKeyHistory))).2 ∧
    ¬ SameUpToOrder (toSql {} ((Blueprint.start "users" "").afterHistory lateIndexHistory)).2
      (toSql {} ((Blueprint.start "users" "").afterHistory (withoutPasses lateIndexHistory))).2 ∧
    ¬ SameUpToOrder (toSql {} ((Blueprint.start "users" "").afterHistory lateCreationHistory)).2
      (toSql {} ((Blueprint.start "users" "").afterHistory
        (withoutPasses lateCreationHistory))).2 := by
  refine ⟨?_, ?_, ?_⟩
  · exact fun same => absurd same.count_eq (by decide +kernel)
  · exact fun same => absurd same.count_eq (by decide +kernel)
  · exact fun same => absurd same.count_eq (by decide +kernel)

end Grammar

end SchemaBlueprint
