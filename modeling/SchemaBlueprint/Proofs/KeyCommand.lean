import SchemaBlueprint.Blueprint.Implied

/-!
Commands that declare a key or index, read uniformly over the kinds: which specification a command
carries, when two of them double each other, and which ones the flags of a column ask for.
-/

namespace SchemaBlueprint

set_option autoImplicit false

def Column.flag (column : Column) : IndexKind → Bool
  | .primary => column.primary
  | .unique => column.unique
  | .index => column.index
  | .foreign => false

/-- Column names are pairwise different up to ASCII case. -/
def DistinctNames (columns : List Column) : Prop :=
  columns.Pairwise fun first second => Text.sameName first.name second.name = false

theorem eq_of_same_name {columns : List Column} (distinct : DistinctNames columns)
    {column other : Column} (member : column ∈ columns) (otherMember : other ∈ columns)
    (same : Text.sameName column.name other.name = true) : column = other := by
  induction columns with
  | nil => cases member
  | cons head tail ih =>
      obtain ⟨apart, distinctTail⟩ := List.pairwise_cons.mp distinct
      rcases List.mem_cons.mp member with rfl | later
      · rcases List.mem_cons.mp otherMember with rfl | otherLater
        · rfl
        · simp [apart other otherLater] at same
      · rcases List.mem_cons.mp otherMember with rfl | otherLater
        · rw [Text.sameName_comm] at same
          simp [apart column later] at same
        · exact ih distinctTail later otherLater

theorem Blueprint.same_name_of_column {blueprint : Blueprint} {name : String} {column : Column}
    (found : blueprint.column? name = some column) : Text.sameName column.name name = true := by
  have named := List.find?_some found
  exact named

theorem Blueprint.column_of_same_name {blueprint : Blueprint}
    (distinct : DistinctNames blueprint.columns) {column : Column}
    (member : column ∈ blueprint.columns) {name : String}
    (same : Text.sameName column.name name = true) : blueprint.column? name = some column := by
  cases found : blueprint.column? name with
  | none =>
      have absent := List.find?_eq_none.mp found column member
      exact absurd same absent
  | some other =>
      have otherSame := List.find?_some found
      rw [Text.sameName_comm] at otherSame
      have joined := Text.sameName_trans same otherSame
      rw [eq_of_same_name distinct member (List.mem_of_find?_eq_some found) joined]

namespace Command

def isAlteration (command : Command) : Bool := command.isChange || command.isAdd

def spec? : IndexKind → Command → Option IndexSpec
  | .primary, .primary spec => some spec
  | .unique, .unique spec => some spec
  | .index, .index spec => some spec
  | _, _ => none

def keyName? : Command → Option String
  | .primary spec | .unique spec | .index spec => some spec.name
  | .foreign key => some key.name
  | _ => none

def Named (command : Command) : Prop := command.keyName? ≠ some ""

theorem alteration_cases {command : Command} (altering : command.isAlteration = true) :
    (∃ names, command = .change names) ∨ ∃ names, command = .add names := by
  cases command <;> simp [isAlteration, isChange, isAdd] at altering ⊢

theorem spec_primary_iff {command : Command} {spec : IndexSpec} :
    command.spec? .primary = some spec ↔ command = .primary spec := by
  cases command <;> simp [spec?]

theorem spec_unique_iff {command : Command} {spec : IndexSpec} :
    command.spec? .unique = some spec ↔ command = .unique spec := by
  cases command <;> simp [spec?]

theorem spec_index_iff {command : Command} {spec : IndexSpec} :
    command.spec? .index = some spec ↔ command = .index spec := by
  cases command <;> simp [spec?]

theorem spec_foreign (command : Command) : command.spec? .foreign = none := by
  cases command <;> rfl

theorem spec_cases {kind : IndexKind} {command : Command} {spec : IndexSpec}
    (declared : command.spec? kind = some spec) :
    (kind = .primary ∧ command = .primary spec) ∨ (kind = .unique ∧ command = .unique spec) ∨
      (kind = .index ∧ command = .index spec) := by
  cases kind with
  | primary => exact .inl ⟨rfl, spec_primary_iff.mp declared⟩
  | unique => exact .inr (.inl ⟨rfl, spec_unique_iff.mp declared⟩)
  | index => exact .inr (.inr ⟨rfl, spec_index_iff.mp declared⟩)
  | foreign => simp [spec_foreign] at declared

theorem spec_injective {kind : IndexKind} {left right : Command} {spec : IndexSpec}
    (first : left.spec? kind = some spec) (second : right.spec? kind = some spec) :
    left = right := by
  cases kind with
  | primary => rw [spec_primary_iff.mp first, spec_primary_iff.mp second]
  | unique => rw [spec_unique_iff.mp first, spec_unique_iff.mp second]
  | index => rw [spec_index_iff.mp first, spec_index_iff.mp second]
  | foreign => simp [spec_foreign] at first

theorem spec_kind_eq {kind other : IndexKind} {command : Command} {spec spec' : IndexSpec}
    (first : command.spec? kind = some spec) (second : command.spec? other = some spec') :
    kind = other := by
  cases command <;> cases kind <;> simp [spec?] at first <;> cases other <;> simp [spec?] at second
  all_goals rfl

theorem primary_eq_spec (command : Command) : command.primary? = command.spec? .primary := by
  cases command <;> rfl

theorem plain_of_spec {kind : IndexKind} {command : Command} {spec : IndexSpec}
    (declared : command.spec? kind = some spec) :
    command.isAlteration = false ∧ command.isCreate = false ∧ command.foreign? = none := by
  cases kind <;> cases command <;> simp [spec?] at declared <;> exact ⟨rfl, rfl, rfl⟩

end Command

namespace Blueprint

theorem same_index_iff (left right : Command) :
    sameIndex left right = true ↔ ∃ kind first second, left.spec? kind = some first ∧
      right.spec? kind = some second ∧ Text.sameNames first.columns second.columns = true := by
  constructor
  · intro same
    cases left <;> cases right <;> simp only [sameIndex, Bool.false_eq_true] at same
    · exact ⟨.primary, _, _, rfl, rfl, same⟩
    · exact ⟨.unique, _, _, rfl, rfl, same⟩
    · exact ⟨.index, _, _, rfl, rfl, same⟩
  · rintro ⟨kind, first, second, declaredLeft, declaredRight, same⟩
    cases kind with
    | primary =>
        rw [Command.spec_primary_iff.mp declaredLeft, Command.spec_primary_iff.mp declaredRight]
        exact same
    | unique =>
        rw [Command.spec_unique_iff.mp declaredLeft, Command.spec_unique_iff.mp declaredRight]
        exact same
    | index =>
        rw [Command.spec_index_iff.mp declaredLeft, Command.spec_index_iff.mp declaredRight]
        exact same
    | foreign => simp [Command.spec_foreign] at declaredLeft

theorem same_index_symm {left right : Command} (same : sameIndex left right = true) :
    sameIndex right left = true := by
  obtain ⟨kind, first, second, declaredLeft, declaredRight, names⟩ := (same_index_iff _ _).mp same
  refine (same_index_iff _ _).mpr ⟨kind, second, first, declaredRight, declaredLeft, ?_⟩
  rw [Text.sameNames_iff] at names ⊢
  exact names.symm

theorem same_index_refl {kind : IndexKind} {command : Command} {spec : IndexSpec}
    (declared : command.spec? kind = some spec) : sameIndex command command = true :=
  (same_index_iff _ _).mpr ⟨kind, spec, spec, declared, declared, by simp [Text.sameNames]⟩

theorem spec_of_same_index {kind : IndexKind} {left right : Command} {spec : IndexSpec}
    (declared : right.spec? kind = some spec) (same : sameIndex left right = true) :
    ∃ own, left.spec? kind = some own ∧ Text.sameNames own.columns spec.columns = true := by
  obtain ⟨shared, own, other, declaredLeft, declaredRight, names⟩ := (same_index_iff _ _).mp same
  obtain rfl := Command.spec_kind_eq declared declaredRight
  rw [declared, Option.some.injEq] at declaredRight
  subst declaredRight
  exact ⟨own, declaredLeft, names⟩

theorem not_same_index_of_no_primary {command : Command} (key : IndexSpec)
    (absent : command.spec? .primary = none) : sameIndex command (.primary key) = false := by
  cases same : sameIndex command (.primary key) with
  | false => rfl
  | true =>
      obtain ⟨own, declared, _⟩ := spec_of_same_index (Command.spec_primary_iff.mpr rfl) same
      rw [absent] at declared
      cases declared

theorem has_index_iff (blueprint : Blueprint) (candidate : Command) :
    blueprint.hasIndex candidate = true ↔
      ∃ command ∈ blueprint.commands, sameIndex command candidate = true := by
  simp [hasIndex]

theorem mem_flagged_indexes {blueprint : Blueprint} {column : Column} {command : Command} :
    command ∈ blueprint.flaggedIndexes column ↔
      ∃ kind, column.flag kind = true ∧
        command.spec? kind = some (blueprint.namedIndex kind [column.name]) := by
  constructor
  · intro member
    simp only [flaggedIndexes, List.mem_append, List.mem_ite_nil_right, List.mem_singleton] at member
    obtain (⟨flagged, rfl⟩ | ⟨flagged, rfl⟩) | ⟨flagged, rfl⟩ := member
    · exact ⟨.primary, flagged, rfl⟩
    · exact ⟨.unique, flagged, rfl⟩
    · exact ⟨.index, flagged, rfl⟩
  · rintro ⟨kind, flagged, declared⟩
    cases kind with
    | primary =>
        rw [Command.spec_primary_iff.mp declared]
        simp [flaggedIndexes, show column.primary = true from flagged]
    | unique =>
        rw [Command.spec_unique_iff.mp declared]
        simp [flaggedIndexes, show column.unique = true from flagged]
    | index =>
        rw [Command.spec_index_iff.mp declared]
        simp [flaggedIndexes, show column.index = true from flagged]
    | foreign => simp [Column.flag] at flagged

theorem flagged_indexes_of_different {blueprint : Blueprint} {column other : Column}
    (different : Text.sameName column.name other.name = false) :
    ∀ first ∈ blueprint.flaggedIndexes column, ∀ second ∈ blueprint.flaggedIndexes other,
      sameIndex first second = false := by
  intro first askedFirst second askedSecond
  obtain ⟨kind, _, declaredFirst⟩ := mem_flagged_indexes.mp askedFirst
  obtain ⟨kind', _, declaredSecond⟩ := mem_flagged_indexes.mp askedSecond
  cases same : sameIndex first second with
  | false => rfl
  | true =>
      obtain ⟨own, declared, names⟩ := spec_of_same_index declaredSecond same
      obtain rfl := Command.spec_kind_eq declaredFirst declared
      rw [declaredFirst, Option.some.injEq] at declared
      subst declared
      simp [Text.sameNames, namedIndex] at names
      simp [Text.sameName, names] at different

end Blueprint

end SchemaBlueprint
