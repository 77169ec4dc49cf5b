import SchemaBlueprint.Proofs.History

/-!
Resolved blueprints, the ones that a pass leaves behind. Being resolved asks for commands that have
to be there and for names that have to be given, and never for a place. So the commands may be put
in another order, and further ones may follow.
-/

namespace SchemaBlueprint

set_option autoImplicit false

theorem Text.lists_name_mono {names more : List String} (kept : ∀ name ∈ names, name ∈ more)
    {name : String} (listed : Text.listsName names name = true) :
    Text.listsName more name = true := by
  obtain ⟨other, member, same⟩ := (Blueprint.lists_name_iff names name).mp listed
  exact (Blueprint.lists_name_iff more name).mpr ⟨other, kept other member, same⟩

namespace Blueprint

/-- Nothing is missing, every key and index has a name, and there is one primary key at most. -/
structure Resolved (blueprint : Blueprint) : Prop where
  complete : Complete blueprint
  named : AllNamed blueprint
  single : blueprint.primaryCount ≤ 1

variable {before after blueprint : Blueprint}

theorem resolved_of_passed (passed : blueprint.resolve.2 = .ok ()) :
    Resolved blueprint.resolve.1 := by
  have single := single_key_of_resolved passed
  rcases resolve_cases blueprint with ⟨_, several⟩ | ⟨_, resolved⟩
  · rw [several] at passed
    cases passed
  · rw [resolved] at single ⊢
    refine ⟨complete_with_names (complete_with_implied blueprint), ?_, single⟩
    intro command member
    obtain ⟨given, _, rfl⟩ := List.mem_map.mp member
    exact named_filled_command _ given

theorem resolve_of_complete (complete : Complete blueprint) (single : blueprint.primaryCount ≤ 1) :
    blueprint.resolve = (blueprint.withNames, .ok ()) := by
  rw [resolve, with_implied_of_complete complete, if_neg (Nat.not_lt.mpr single)]

theorem map_filled_of_named (named : AllNamed blueprint) :
    blueprint.commands.map blueprint.filledCommand = blueprint.commands := by
  have filled : ∀ command ∈ blueprint.commands, blueprint.filledCommand command = command :=
    fun command member => filled_command_of_named (named command member)
  rw [List.map_congr_left filled, List.map_id']

theorem resolve_of_resolved (resolved : Resolved blueprint) :
    blueprint.resolve = (blueprint, .ok ()) := by
  rw [resolve_of_complete resolved.complete resolved.single, withNames,
    map_filled_of_named resolved.named]

theorem unlisted_mono {names listed more : List String} (kept : ∀ name ∈ listed, name ∈ more)
    (none_left : names.filter (fun name => !Text.listsName listed name) = []) :
    names.filter (fun name => !Text.listsName more name) = [] := by
  apply filter_unlisted_eq_nil
  intro name member
  have already : Text.listsName listed name = true := by
    simpa using List.filter_eq_nil_iff.mp none_left name member
  exact Text.lists_name_mono kept already

theorem Complete.mono (complete : Complete before) (same : SameTable before after)
    (kept : ∀ command ∈ before.commands, command ∈ after.commands) : Complete after := by
  constructor
  · rcases complete.listed with creating | ⟨changes, additions⟩
    · left
      obtain ⟨command, member, creates⟩ := List.any_eq_true.mp creating
      exact List.any_eq_true.mpr ⟨command, kept command member, creates⟩
    · right
      have keptNames : ∀ select : Command → List String, ∀ name ∈ before.commands.flatMap select,
          name ∈ after.commands.flatMap select := by
        intro select name listed
        obtain ⟨command, member, lists⟩ := List.mem_flatMap.mp listed
        exact List.mem_flatMap.mpr ⟨command, kept command member, lists⟩
      rw [unlistedChanges, unlistedAdditions, changedColumns, addedColumns, same.columns]
      exact ⟨unlisted_mono (keptNames Command.changedNames) changes,
        unlisted_mono (keptNames Command.addedNames) additions⟩
  · intro column member command asked
    rw [same.columns] at member
    rw [same.flagged_indexes] at asked
    obtain ⟨other, there, doubles⟩ :=
      (has_index_iff _ _).mp (complete.flagged column member command asked)
    exact (has_index_iff _ _).mpr ⟨other, kept other there, doubles⟩
  · rw [same.columns]
    refine complete.counted.imp ?_ id
    intro present absent
    apply present
    rw [primary_none_iff] at absent ⊢
    exact fun command member => absent command (kept command member)

theorem Resolved.perm (resolved : Resolved before) (same : SameTable before after)
    (permuted : after.commands.Perm before.commands) : Resolved after where
  complete := resolved.complete.mono same fun _ member => permuted.mem_iff.mpr member
  named command member := resolved.named command (permuted.mem_iff.mp member)
  single := by
    have single := resolved.single
    rwa [primaryCount, ← (permuted.filterMap Command.primary?).length_eq] at single

theorem resolve_of_pushed (resolved : Resolved blueprint) {command : Command}
    (noKey : command.primary? = none) :
    (blueprint.push command).resolve =
      (blueprint.push (blueprint.filledCommand command), .ok ()) := by
  have same : SameTable blueprint (blueprint.push command) := ⟨rfl, rfl, rfl⟩
  have complete : Complete (blueprint.push command) :=
    resolved.complete.mono same fun _ member => List.mem_append_left _ member
  have single : (blueprint.push command).primaryCount ≤ 1 := by
    have unchanged : (blueprint.push command).primaryCount = blueprint.primaryCount := by
      simp [primaryCount, push, noKey]
    rw [unchanged]
    exact resolved.single
  rw [resolve_of_complete complete single, withNames, same.filled_command]
  simp only [push, List.map_append, map_filled_of_named resolved.named, List.map_cons, List.map_nil]

end Blueprint

end SchemaBlueprint
