import SchemaBlueprint.Proofs.Resolution
import SchemaBlueprint.Proofs.Spelling

/-!
Blueprints whose commands name columns in different spellings. The pass over them registers the same
keys and indexes in the same places and fills in the same names, so it keeps them so.
-/

namespace SchemaBlueprint

set_option autoImplicit false

open Text

structure IndexSpec.Respelled (left right : IndexSpec) : Prop where
  name : left.name = right.name
  columns : List.Forall₂ SpelledAlike left.columns right.columns
  implied : left.implied = right.implied

structure ForeignKey.Respelled (left right : ForeignKey) : Prop where
  name : left.name = right.name
  columns : List.Forall₂ SpelledAlike left.columns right.columns
  table : left.table = right.table
  references : List.Forall₂ SpelledAlike left.references right.references
  onDelete : left.onDelete = right.onDelete

namespace Command

def namesColumns : Command → Bool
  | .add _ | .change _ | .primary _ | .foreign _ | .unique _ | .index _ | .dropColumn _
  | .renameColumn _ _ | .updateEnum _ _ => true
  | _ => false

theorem not_alteration_of_nameless {command : Command}
    (nameless : command.namesColumns = false) : command.isAlteration = false := by
  cases command <;> first | rfl | cases nameless

inductive Respelled : Command → Command → Prop
  | add {names others : List String} (alike : List.Forall₂ SpelledAlike names others) :
      Respelled (.add names) (.add others)
  | change {names others : List String} (alike : List.Forall₂ SpelledAlike names others) :
      Respelled (.change names) (.change others)
  | primary {key other : IndexSpec} (alike : key.Respelled other) :
      Respelled (.primary key) (.primary other)
  | foreign {key other : ForeignKey} (alike : key.Respelled other) :
      Respelled (.foreign key) (.foreign other)
  | unique {index other : IndexSpec} (alike : index.Respelled other) :
      Respelled (.unique index) (.unique other)
  | index {index other : IndexSpec} (alike : index.Respelled other) :
      Respelled (.index index) (.index other)
  | dropColumn {names others : List String} (alike : List.Forall₂ SpelledAlike names others) :
      Respelled (.dropColumn names) (.dropColumn others)
  | renameColumn {source source' target target' : String}
      (alike : SpelledAlike source source') (targets : SpelledAlike target target') :
      Respelled (.renameColumn source target) (.renameColumn source' target')
  | updateEnum {column other : String} (allowed : List String)
      (alike : SpelledAlike column other) :
      Respelled (.updateEnum column allowed) (.updateEnum other allowed)
  | same {command : Command} (nameless : command.namesColumns = false) :
      Respelled command command

end Command

theorem Text.alike_refl (names : List String) : List.Forall₂ SpelledAlike names names :=
  List.forall₂_same.mpr fun name _ => .refl name

theorem Text.fold_eq_of_alike {names others : List String}
    (alike : List.Forall₂ SpelledAlike names others) :
    names.map asciiFold = others.map asciiFold := by
  induction alike with
  | nil => rfl
  | cons head _ ih =>
      rw [List.map_cons, List.map_cons, ih]
      exact congrArg (· :: _) head

theorem Text.lists_name_alike {names others : List String}
    (alike : List.Forall₂ SpelledAlike names others) {name other : String}
    (same : SpelledAlike name other) : listsName names name = listsName others other := by
  have listed : ∀ (texts : List String) (text : String),
      listsName texts text = (texts.map asciiFold).any (· == asciiFold text) := by
    intro texts text
    rw [listsName, List.any_map]
    rfl
  rw [listed, listed, fold_eq_of_alike alike, same]

theorem IndexSpec.Respelled.refl (index : IndexSpec) : index.Respelled index :=
  ⟨rfl, alike_refl _, rfl⟩

theorem ForeignKey.Respelled.refl (key : ForeignKey) : key.Respelled key :=
  ⟨rfl, alike_refl _, rfl, alike_refl _, rfl⟩

namespace Command.Respelled

variable {left right : Command}

theorem refl (command : Command) : command.Respelled command := by
  cases command with
  | add names => exact .add (alike_refl names)
  | change names => exact .change (alike_refl names)
  | primary key => exact .primary (.refl key)
  | foreign key => exact .foreign (.refl key)
  | unique index => exact .unique (.refl index)
  | index index => exact .index (.refl index)
  | dropColumn names => exact .dropColumn (alike_refl names)
  | renameColumn source target => exact .renameColumn (.refl source) (.refl target)
  | updateEnum column allowed => exact .updateEnum allowed (.refl column)
  | _ => exact .same rfl

theorem is_create (respelled : left.Respelled right) : left.isCreate = right.isCreate := by
  cases respelled <;> rfl

theorem is_change (respelled : left.Respelled right) : left.isChange = right.isChange := by
  cases respelled <;> rfl

theorem is_add (respelled : left.Respelled right) : left.isAdd = right.isAdd := by
  cases respelled <;> rfl

theorem added_names (respelled : left.Respelled right) :
    List.Forall₂ SpelledAlike left.addedNames right.addedNames := by
  cases respelled with
  | add alike => exact alike
  | same _ => exact alike_refl _
  | _ => exact .nil

theorem changed_names (respelled : left.Respelled right) :
    List.Forall₂ SpelledAlike left.changedNames right.changedNames := by
  cases respelled with
  | change alike => exact alike
  | same _ => exact alike_refl _
  | _ => exact .nil

theorem primary_key (respelled : left.Respelled right) :
    Option.Rel IndexSpec.Respelled left.primary? right.primary? := by
  cases respelled with
  | primary alike => exact .some alike
  | same nameless =>
      cases left with
      | primary key => cases nameless
      | _ => exact .none
  | _ => exact .none

theorem foreign_key (respelled : left.Respelled right) :
    Option.Rel ForeignKey.Respelled left.foreign? right.foreign? := by
  cases respelled with
  | foreign alike => exact .some alike
  | same nameless =>
      cases left with
      | foreign key => cases nameless
      | _ => exact .none
  | _ => exact .none

theorem same_index (respelled : left.Respelled right) (candidate : Command) :
    Blueprint.sameIndex left candidate = Blueprint.sameIndex right candidate := by
  cases respelled with
  | primary alike | unique alike | index alike =>
      cases candidate <;>
        simp only [Blueprint.sameIndex, sameNames, fold_eq_of_alike alike.columns]
  | _ => rfl

end Command.Respelled

variable {α β : Type} {Related : α → β → Prop} {items : List α} {others : List β}

theorem insertAt_paired (position : Nat) {item : α} {other : β} (head : Related item other)
    (paired : List.Forall₂ Related items others) :
    List.Forall₂ Related (insertAt position item items) (insertAt position other others) :=
  List.rel_append (List.forall₂_take position paired)
    (.cons head (List.forall₂_drop position paired))

theorem afterLast_paired {holds : α → Bool} {holdsToo : β → Bool}
    (same : ∀ item other, Related item other → holds item = holdsToo other)
    (paired : List.Forall₂ Related items others) :
    afterLast holds items = afterLast holdsToo others := by
  induction paired with
  | nil => rfl
  | cons head _ ih => simp only [afterLast, ih, same _ _ head]

theorem any_paired {holds : α → Bool} {holdsToo : β → Bool}
    (same : ∀ item other, Related item other → holds item = holdsToo other)
    (paired : List.Forall₂ Related items others) : items.any holds = others.any holdsToo := by
  induction paired with
  | nil => rfl
  | cons head _ ih => rw [List.any_cons, List.any_cons, ih, same _ _ head]

namespace Blueprint

/-- Two blueprints for one table with the same columns, whose commands differ in the spelling of
columns alone. -/
structure Respelled (left right : Blueprint) : Prop where
  same : SameTable left right
  commands : List.Forall₂ Command.Respelled left.commands right.commands

theorem filled_index_respelled (blueprint : Blueprint) (kind : IndexKind) {index other : IndexSpec}
    (alike : index.Respelled other) :
    (blueprint.filledIndex kind index).Respelled (blueprint.filledIndex kind other) := by
  have generated := blueprint.index_name_eq_of_alike kind.word alike.columns
  unfold filledIndex
  rw [alike.name]
  split
  · exact ⟨generated, alike.columns, alike.implied⟩
  · exact alike

theorem named_foreign_respelled (blueprint : Blueprint) {key other : ForeignKey}
    (alike : key.Respelled other) :
    (blueprint.namedForeign key).Respelled (blueprint.namedForeign other) := by
  have generated := blueprint.index_name_eq_of_alike IndexKind.foreign.word alike.columns
  unfold namedForeign
  rw [alike.name]
  split
  · exact ⟨generated, alike.columns, alike.table, alike.references, alike.onDelete⟩
  · exact alike

theorem filled_respelled (blueprint : Blueprint) {command other : Command}
    (pair : command.Respelled other) :
    (blueprint.filledCommand command).Respelled (blueprint.filledCommand other) := by
  cases pair with
  | primary alike => exact .primary (filled_index_respelled blueprint .primary alike)
  | unique alike => exact .unique (filled_index_respelled blueprint .unique alike)
  | index alike => exact .index (filled_index_respelled blueprint .index alike)
  | foreign alike => exact .foreign (named_foreign_respelled blueprint alike)
  | same nameless => exact .refl _
  | add alike => exact .add alike
  | change alike => exact .change alike
  | dropColumn alike => exact .dropColumn alike
  | renameColumn alike targets => exact .renameColumn alike targets
  | updateEnum allowed alike => exact .updateEnum allowed alike

namespace Respelled

variable {left right : Blueprint}

theorem creating (respelled : left.Respelled right) : left.creating = right.creating :=
  any_paired (fun _ _ pair => pair.is_create) respelled.commands

theorem listed_additions (respelled : left.Respelled right) :
    List.Forall₂ SpelledAlike left.listedAdditions right.listedAdditions :=
  List.rel_flatMap respelled.commands fun _ _ pair => pair.added_names

theorem listed_changes (respelled : left.Respelled right) :
    List.Forall₂ SpelledAlike left.listedChanges right.listedChanges :=
  List.rel_flatMap respelled.commands fun _ _ pair => pair.changed_names

theorem foreign_keys (respelled : left.Respelled right) :
    List.Forall₂ ForeignKey.Respelled left.foreignKeys right.foreignKeys :=
  List.rel_filterMap (fun _ _ pair => pair.foreign_key) respelled.commands

theorem primary_keys (respelled : left.Respelled right) :
    List.Forall₂ IndexSpec.Respelled (left.commands.filterMap Command.primary?)
      (right.commands.filterMap Command.primary?) :=
  List.rel_filterMap (fun _ _ pair => pair.primary_key) respelled.commands

theorem primary_count (respelled : left.Respelled right) :
    left.primaryCount = right.primaryCount := respelled.primary_keys.length_eq

theorem primary_cases (respelled : left.Respelled right) :
    (left.primary? = none ∧ right.primary? = none) ∨
      ∃ key another, left.primary? = some key ∧ right.primary? = some another ∧
        key.Respelled another := by
  have keys := respelled.primary_keys
  rw [primary?, primary?, ← List.head?_filterMap, ← List.head?_filterMap]
  generalize left.commands.filterMap Command.primary? = first at keys ⊢
  generalize right.commands.filterMap Command.primary? = second at keys ⊢
  cases keys with
  | nil => exact .inl ⟨rfl, rfl⟩
  | cons head _ => exact .inr ⟨_, _, rfl, rfl, head⟩

theorem has_index (respelled : left.Respelled right) (candidate : Command) :
    left.hasIndex candidate = right.hasIndex candidate :=
  any_paired (fun _ _ pair => pair.same_index candidate) respelled.commands

theorem unlisted_changes (respelled : left.Respelled right) :
    left.unlistedChanges = right.unlistedChanges := by
  have listed : ∀ name, listsName left.listedChanges name = listsName right.listedChanges name :=
    fun name => lists_name_alike respelled.listed_changes (.refl name)
  have columns : left.changedColumns = right.changedColumns := by
    rw [changedColumns, changedColumns, respelled.same.columns]
  simp only [listedChanges] at listed
  simp only [unlistedChanges, columns, listed]

theorem unlisted_additions (respelled : left.Respelled right) :
    left.unlistedAdditions = right.unlistedAdditions := by
  have listed : ∀ name,
      listsName left.listedAdditions name = listsName right.listedAdditions name :=
    fun name => lists_name_alike respelled.listed_additions (.refl name)
  have columns : left.addedColumns = right.addedColumns := by
    rw [addedColumns, addedColumns, respelled.same.columns]
  simp only [listedAdditions] at listed
  simp only [unlistedAdditions, columns, listed]

theorem with_change (respelled : left.Respelled right) :
    left.withChange.Respelled right.withChange := by
  unfold withChange
  rw [respelled.unlisted_changes]
  cases right.unlistedChanges with
  | nil => exact respelled
  | cons name names =>
      have position : afterLast Command.isChange left.commands =
          afterLast Command.isChange right.commands :=
        afterLast_paired (fun _ _ pair => pair.is_change) respelled.commands
      refine ⟨⟨respelled.same.table, respelled.same.tablePrefix, respelled.same.columns⟩, ?_⟩
      simp only [position]
      exact insertAt_paired _ (.refl _) respelled.commands

theorem with_addition (respelled : left.Respelled right) :
    left.withAddition.Respelled right.withAddition := by
  unfold withAddition
  rw [respelled.unlisted_additions]
  cases right.unlistedAdditions with
  | nil => exact respelled
  | cons name names =>
      have position : afterLast (fun command => command.isChange || command.isAdd) left.commands =
          afterLast (fun command => command.isChange || command.isAdd) right.commands :=
        afterLast_paired (fun _ _ pair => by rw [pair.is_change, pair.is_add]) respelled.commands
      refine ⟨⟨respelled.same.table, respelled.same.tablePrefix, respelled.same.columns⟩, ?_⟩
      simp only [position]
      exact insertAt_paired _ (.refl _) respelled.commands

theorem with_alterations (respelled : left.Respelled right) :
    left.withAlterations.Respelled right.withAlterations := by
  unfold withAlterations
  rw [respelled.creating]
  split
  · exact respelled
  · exact respelled.with_change.with_addition

theorem append (respelled : left.Respelled right) (more : List Command) :
    Respelled { left with commands := left.commands ++ more }
      { right with commands := right.commands ++ more } where
  same := ⟨respelled.same.table, respelled.same.tablePrefix, respelled.same.columns⟩
  commands := List.rel_append respelled.commands
    (List.forall₂_same.mpr fun command _ => .refl command)

theorem missing_flagged (respelled : left.Respelled right) :
    left.missingFlagged = right.missingFlagged := by
  simp only [missingFlagged, respelled.has_index, respelled.same.columns,
    respelled.same.flagged_indexes]

theorem missing_primary (respelled : left.Respelled right) :
    left.missingPrimary = right.missingPrimary := by
  rw [missingPrimary, missingPrimary, respelled.same.columns, respelled.same.implied_key]
  obtain ⟨absent, absentToo⟩ | ⟨key, another, declared, declaredToo, _⟩ := respelled.primary_cases
  · rw [absent, absentToo]
  · rw [declared, declaredToo]

theorem missing_indexes (respelled : left.Respelled right) :
    left.missingIndexes = right.missingIndexes := by
  have flagged : left.withFlaggedIndexes.Respelled right.withFlaggedIndexes := by
    change Respelled { left with commands := left.commands ++ left.missingFlagged }
      { right with commands := right.commands ++ right.missingFlagged }
    rw [respelled.missing_flagged]
    exact respelled.append _
  rw [missingIndexes, missingIndexes, respelled.missing_flagged, flagged.missing_primary]

theorem with_implied (respelled : left.Respelled right) :
    left.withImplied.Respelled right.withImplied := by
  have altered := respelled.with_alterations
  rw [with_implied_eq, with_implied_eq, altered.missing_indexes]
  exact altered.append _

theorem with_names (respelled : left.Respelled right) :
    left.withNames.Respelled right.withNames where
  same := ⟨respelled.same.table, respelled.same.tablePrefix, respelled.same.columns⟩
  commands := by
    rw [withNames, withNames, respelled.same.filled_command]
    exact List.rel_map (fun _ _ pair => filled_respelled left pair) respelled.commands

theorem resolve (respelled : left.Respelled right) :
    left.resolve.1.Respelled right.resolve.1 ∧ left.resolve.2 = right.resolve.2 := by
  have registered := respelled.with_implied
  have count := registered.primary_count
  unfold Blueprint.resolve
  simp only [count, registered.same.table]
  split
  · exact ⟨registered, rfl⟩
  · exact ⟨registered.with_names, rfl⟩

end Respelled

end Blueprint

end SchemaBlueprint
