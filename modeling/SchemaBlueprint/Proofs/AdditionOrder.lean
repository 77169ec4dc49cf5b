import SchemaBlueprint.Proofs.CreatedTable

/-!
When the columns of a table that is there are added. The pass puts its `add` command behind the last
alteration that was asked for. This is in front of all keys and indexes over the columns that it
adds, unless one of them was asked for in front of an alteration.
-/

namespace SchemaBlueprint

set_option autoImplicit false

section Order

variable {α : Type} {uses : α → Prop} {starts : α → Bool} {front back : List α}

/-- Nothing that `uses` stands in front of something that `starts`. -/
def NoneBefore (uses starts : α → Prop) (items : List α) : Prop :=
  items.Pairwise fun earlier later => starts later → ¬ uses earlier

instance (uses starts : α → Prop) [DecidablePred uses] [DecidablePred starts] :
    DecidablePred (NoneBefore uses starts) := fun items =>
  inferInstanceAs (Decidable (items.Pairwise _))

structure CutBehindLast (holds : α → Bool) (front back : List α) : Prop where
  frontEnds : ∀ last ∈ front.getLast?, holds last = true
  backFails : ∀ item ∈ back, holds item = false

theorem cut_behind_last (holds : α → Bool) (items : List α) :
    ∃ front back, items = front ++ back ∧ CutBehindLast holds front back ∧
      afterLast holds items = front.length := by
  induction items with
  | nil => exact ⟨[], [], rfl, ⟨by simp, by simp⟩, rfl⟩
  | cons item items ih =>
      obtain ⟨front, back, rfl, cut, position⟩ := ih
      cases front with
      | nil =>
          by_cases holding : holds item = true
          · refine ⟨[item], back, rfl, ⟨by simpa using holding, cut.backFails⟩, ?_⟩
            simp only [afterLast, position]
            simp [holding]
          · refine ⟨[], item :: back, rfl, ⟨by simp, ?_⟩, ?_⟩
            · exact List.forall_mem_cons.mpr ⟨by simpa using holding, cut.backFails⟩
            · simp only [afterLast, position]
              simp [holding]
      | cons first front =>
          have ends : (item :: first :: front).getLast? = (first :: front).getLast? :=
            List.getLast?_cons_cons
          refine ⟨item :: first :: front, back, rfl, ⟨?_, cut.backFails⟩, ?_⟩
          · rw [ends]
            exact cut.frontEnds
          · simp only [afterLast, position]
            simp

theorem none_before_cut_iff (apart : ∀ item, starts item = true → ¬ uses item)
    (cut : CutBehindLast starts front back) :
    NoneBefore uses (starts · = true) (front ++ back) ↔ ∀ item ∈ front, ¬ uses item := by
  constructor
  · intro none item member
    have kept := (List.pairwise_append.mp none).1
    obtain rfl | ⟨before, last, rfl⟩ := List.eq_nil_or_concat front
    · cases member
    rw [List.concat_eq_append] at member kept
    have starting := cut.frontEnds last (by simp)
    rcases List.mem_append.mp member with earlier | own
    · exact (List.pairwise_append.mp kept).2.2 item earlier last List.mem_cons_self starting
    · rw [List.mem_singleton.mp own]
      exact apart last starting
  · intro free
    refine List.pairwise_append.mpr ⟨?_, ?_, ?_⟩
    · exact List.pairwise_of_forall_mem_list fun earlier member _ _ _ => free earlier member
    · refine List.pairwise_of_forall_mem_list fun _ _ later member starting => ?_
      simp [cut.backFails later member] at starting
    · exact fun earlier member _ _ _ => free earlier member

theorem none_before_insert_iff {holds : α → Bool} (finer : ∀ item, holds item = true →
    starts item = true) (apart : ∀ item, starts item = true → ¬ uses item) {item : α}
    (starting : starts item = true) (items : List α) :
    NoneBefore uses (starts · = true) (insertAt (afterLast holds items) item items) ↔
      NoneBefore uses (starts · = true) items := by
  obtain ⟨front, back, rfl, cut, position⟩ := cut_behind_last holds items
  rw [position, insertAt_between]
  have ends : CutBehindLast starts front [] :=
    ⟨fun last member => finer last (cut.frontEnds last member), by simp⟩
  have settled := none_before_cut_iff apart ends
  rw [List.append_nil] at settled
  simp only [NoneBefore, List.pairwise_append, List.pairwise_cons, List.forall_mem_cons] at settled ⊢
  constructor
  · rintro ⟨kept, ⟨_, rest⟩, across⟩
    exact ⟨kept, rest, fun earlier member => (across earlier member).2⟩
  · rintro ⟨kept, rest, across⟩
    refine ⟨kept, ⟨fun _ _ _ => apart item starting, rest⟩, fun earlier member => ?_⟩
    exact ⟨fun _ => settled.mp kept earlier member, across earlier member⟩

end Order

def Command.Uses (names : List String) (command : Command) : Prop :=
  ∃ name ∈ command.localNames, Text.listsName names name = true

instance (names : List String) : DecidablePred (Command.Uses names) := fun command =>
  inferInstanceAs (Decidable (∃ name ∈ command.localNames, _))

theorem Command.not_uses_of_alteration (names : List String) (command : Command)
    (altering : command.isAlteration = true) : ¬ command.Uses names := by
  rintro ⟨name, named, _⟩
  obtain ⟨_, rfl⟩ | ⟨_, rfl⟩ := Command.alteration_cases altering <;> cases named

namespace Blueprint

def RegistersAddition (blueprint : Blueprint) (names : List String) : Prop :=
  .add names ∈ blueprint.resolve.1.commands ∧ .add names ∉ blueprint.commands

instance (blueprint : Blueprint) : DecidablePred blueprint.RegistersAddition := fun names =>
  inferInstanceAs (Decidable (.add names ∈ blueprint.resolve.1.commands ∧
    .add names ∉ blueprint.commands))

variable {blueprint : Blueprint}

theorem unlisted_addition_not_given (some_column : blueprint.unlistedAdditions ≠ []) :
    Command.add blueprint.unlistedAdditions ∉ blueprint.commands := by
  intro given
  obtain ⟨name, unlisted⟩ := List.exists_mem_of_ne_nil _ some_column
  have listed : name ∈ blueprint.commands.flatMap Command.addedNames :=
    List.mem_flatMap.mpr ⟨_, given, unlisted⟩
  have missing := (List.mem_filter.mp unlisted).2
  have found := (lists_name_iff _ _).mpr ⟨name, listed, Text.sameName_refl name⟩
  simp [found] at missing

theorem with_addition_places (some_column : blueprint.unlistedAdditions ≠ []) :
    ∃ front back, blueprint.commands = front ++ back ∧
      CutBehindLast Command.isAlteration front back ∧
      blueprint.withAddition.commands = front ++ .add blueprint.unlistedAdditions :: back := by
  obtain ⟨front, back, whole, cut, position⟩ :=
    cut_behind_last Command.isAlteration blueprint.commands
  refine ⟨front, back, whole, cut, ?_⟩
  obtain ⟨nothing, _⟩ | placed := with_addition_cases blueprint
  · exact absurd nothing some_column
  · rw [placed]
    change insertAt (afterLast Command.isAlteration blueprint.commands) _ blueprint.commands = _
    rw [position, whole, insertAt_between]

/-- The `change` command goes behind other alterations or first, so it comes too late for no key. -/
theorem with_change_none_before_iff (names : List String) :
    NoneBefore (Command.Uses names) (·.isAlteration = true) blueprint.withChange.commands ↔
      NoneBefore (Command.Uses names) (·.isAlteration = true) blueprint.commands := by
  obtain ⟨_, same⟩ | placed := with_change_cases blueprint
  · rw [same]
  · rw [placed]
    refine none_before_insert_iff ?_ (Command.not_uses_of_alteration names) rfl blueprint.commands
    intro command changing
    simp [Command.isAlteration, changing]

theorem resolve_fills (blueprint : Blueprint) :
    ∃ fill : Command → Command,
      blueprint.resolve.1.commands = blueprint.withImplied.commands.map fill ∧
      ∀ command, (fill command).localNames = command.localNames ∧
        ∀ names, fill command = .add names ↔ command = .add names := by
  rcases resolve_cases blueprint with ⟨_, resolved⟩ | ⟨_, resolved⟩
  · refine ⟨id, ?_, fun command => ⟨rfl, fun names => .rfl⟩⟩
    rw [resolved, List.map_id]
  · refine ⟨blueprint.withImplied.filledCommand, ?_, fun command =>
      ⟨local_names_filled command, fun names => ?_⟩⟩
    · rw [resolved]
      rfl
    · cases command <;> simp [filledCommand]

theorem add_not_missing (names : List String) : .add names ∉ blueprint.missingIndexes := by
  intro missing
  have altering := (plain_of_missing missing).1
  simp [Command.isAlteration, Command.isAdd] at altering

theorem add_mem_resolved_iff {names : List String} :
    .add names ∈ blueprint.resolve.1.commands ↔ .add names ∈ blueprint.withAlterations.commands := by
  obtain ⟨fill, commands, filled⟩ := resolve_fills blueprint
  rw [commands, with_implied_eq]
  simp [(filled _).2, add_not_missing]

theorem registers_addition_iff {names : List String} :
    blueprint.RegistersAddition names ↔
      blueprint.creating = false ∧ names = blueprint.unlistedAdditions ∧ names ≠ [] := by
  rw [RegistersAddition, add_mem_resolved_iff]
  cases creating : blueprint.creating with
  | true => simp [with_alterations_of_creating creating]
  | false =>
      have altered : blueprint.withAlterations = blueprint.withChange.withAddition := by
        simp [withAlterations, creating]
      have changed : ∀ names, .add names ∈ blueprint.withChange.commands ↔
          .add names ∈ blueprint.commands := by
        intro names
        obtain ⟨_, same⟩ | placed := with_change_cases blueprint
        · rw [same]
        · rw [placed]
          simp [(insertAt_perm _ _ _).mem_iff]
      rw [altered]
      by_cases nothing : blueprint.unlistedAdditions = []
      · have kept : blueprint.withChange.withAddition = blueprint.withChange := by
          simp [withAddition, with_change_unlisted_additions, nothing]
        rw [kept, changed, nothing]
        simp
      · have some_column := nothing
        rw [← with_change_unlisted_additions] at some_column
        obtain ⟨front, back, whole, _, placed⟩ := with_addition_places some_column
        have others : .add names ∈ front ++ back ↔ .add names ∈ blueprint.commands := by
          rw [← whole, changed]
        have fresh := unlisted_addition_not_given nothing
        rw [placed, List.perm_middle.mem_iff, List.mem_cons, others,
          with_change_unlisted_additions, Command.add.injEq]
        constructor
        · rintro ⟨same | given, absent⟩
          · exact ⟨rfl, same, same ▸ nothing⟩
          · exact absurd given absent
        · rintro ⟨_, rfl, _⟩
          exact ⟨.inl rfl, fresh⟩

/-- An `add` command that the pass registers stands at one place. It is in front of all keys and
indexes over the columns that it lists exactly if none of these was asked for in front of an
alteration. -/
theorem registered_addition_early_iff (blueprint : Blueprint) (names : List String)
    (registered : blueprint.RegistersAddition names) :
    ∃ front back, blueprint.resolve.1.commands = front ++ .add names :: back ∧
      .add names ∉ front ∧ .add names ∉ back ∧
      ((∀ command ∈ front, ¬ command.Uses names) ↔
        NoneBefore (Command.Uses names) (·.isAlteration = true) blueprint.commands) := by
  obtain ⟨creating, unlisted, some_column⟩ := registers_addition_iff.mp registered
  have unlistedThen : blueprint.withChange.unlistedAdditions = names := by
    rw [with_change_unlisted_additions, unlisted]
  have absent : Command.add names ∉ blueprint.withChange.commands := by
    have fresh := unlisted_addition_not_given (unlistedThen ▸ some_column)
    rwa [unlistedThen] at fresh
  obtain ⟨front, back, whole, cut, placed⟩ := with_addition_places (unlistedThen ▸ some_column)
  have altered : blueprint.withAlterations.commands = front ++ .add names :: back := by
    rw [withAlterations, if_neg (by simp [creating]), placed, unlistedThen]
  obtain ⟨fill, commands, filled⟩ := resolve_fills blueprint
  rw [whole, List.mem_append, not_or] at absent
  refine ⟨front.map fill, (back ++ blueprint.withAlterations.missingIndexes).map fill, ?_, ?_, ?_,
    ?_⟩
  · rw [commands, with_implied_eq]
    simp [altered, ((filled _).2 names).mpr rfl]
  · simpa [(filled _).2] using absent.1
  · simpa [(filled _).2, add_not_missing] using absent.2
  · rw [← with_change_none_before_iff, whole,
      none_before_cut_iff (Command.not_uses_of_alteration names) cut]
    simp [Command.Uses, (filled _).1]

def usersWithEmail : Blueprint :=
  { table := "users"
    columns := [{ name := "nick", type := .text, change := true }, { name := "age", type := .integer },
      { name := "email", type := .text, index := true }]
    commands := [.add ["AGE"], .unique { columns := ["Email"] }] }

theorem registered_addition_early_iff_email :
    usersWithEmail.RegistersAddition ["email"] ∧
      ∃ front back, usersWithEmail.resolve.1.commands = front ++ .add ["email"] :: back ∧
        ∀ command ∈ front, ¬ command.Uses ["email"] := by
  have registered : usersWithEmail.RegistersAddition ["email"] := by decide +kernel
  have none_before : NoneBefore (Command.Uses ["email"]) (·.isAlteration = true)
      usersWithEmail.commands := by
    decide +kernel
  obtain ⟨front, back, placed, _, _, early⟩ :=
    registered_addition_early_iff usersWithEmail ["email"] registered
  exact ⟨registered, front, back, placed, early.mpr none_before⟩

def usersByEmail : Blueprint :=
  { table := "users"
    columns := [{ name := "email", type := .text }, { name := "age", type := .integer }]
    commands := [.index { columns := ["email"] }, .add ["age"]] }

/-- An index may be created in front of the addition of its column. -/
theorem index_precedes_its_column :
    usersByEmail.creating = false ∧ usersByEmail.resolve.2 = .ok () ∧
      usersByEmail.RegistersAddition ["email"] ∧
      usersByEmail.resolve.1.commands =
        [.index { name := "users_email_index", columns := ["email"] }, .add ["age"],
          .add ["email"]] ∧
      Command.Uses ["email"] (.index { name := "users_email_index", columns := ["email"] }) ∧
      (Grammar.toSql {} usersByEmail).2 =
        .ok ["create index users_email_index on users ( email )",
          "alter table users add age int null", "alter table users add email text null"] := by
  decide +kernel

end Blueprint

end SchemaBlueprint
