import SchemaBlueprint.Column.Build
import SchemaBlueprint.Proofs.Emission
import SchemaBlueprint.Proofs.InlineKey

/-!
Where the primary key of a table that is there gets declared: in a statement of its own or along
with its column. Both commands look for the column by themselves, and they come to the same answer.
-/

namespace SchemaBlueprint

set_option autoImplicit false

open Outcome

/-- The key is over one column that counts, and `name` is a spelling of that column's name. -/
def Blueprint.KeyOfColumn (blueprint : Blueprint) (key : IndexSpec) (name : String) : Prop :=
  ∃ own column, key.columns = [own] ∧ blueprint.column? own = some column ∧
    column.autoIncrement = true ∧ Text.sameName own name = true

namespace Grammar

def standaloneKey (grammar : Grammar) (blueprint : Blueprint) (key : IndexSpec) : String :=
  "alter table " ++ grammar.wrapTable blueprint.table ++ " add constraint " ++ key.name
    ++ " primary key (" ++ grammar.columnize key.columns ++ ")"

def carriesKey (key : IndexSpec) (statement : String) : Bool :=
  (keyClause (some key)).toList.isSuffixOf statement.toList

/-- Whether a statement declares the primary key, by itself or along with a column. -/
def declaresKey (grammar : Grammar) (blueprint : Blueprint) (key : IndexSpec)
    (emission : Emission) : Bool :=
  emission.statement == grammar.standaloneKey blueprint key && emission.command.primary?.isSome ||
    carriesKey key emission.statement && emission.command.isAdd

variable {grammar : Grammar} {blueprint : Blueprint} {key : IndexSpec}

theorem last_append {front back : String} {c : Char} (last : back.toList.getLast? = some c) :
    (front ++ back).toList.getLast? = some c := by
  rw [String.toList_append, List.getLast?_append, last]
  rfl

theorem key_clause_last (key : IndexSpec) : (keyClause (some key)).toList.getLast? = some 'y' :=
  last_append (by decide)

theorem null_clause_last (grammar : Grammar) (table : String) (column : Column)
    (value : Option DefaultValue) :
    ∃ c, (grammar.nullClause table column value).toList.getLast? = some c ∧ c ≠ 'y' := by
  unfold nullClause
  cases unrestricted : column.allowed.isEmpty with
  | true =>
      refine ⟨'l', ?_, by decide⟩
      simp only [if_true, String.append_empty]
      apply last_append
      cases column.nullable <;> decide
  | false =>
      refine ⟨')', ?_, by decide⟩
      simp only [Bool.false_eq_true, if_false, enumCheck]
      apply last_append
      apply last_append
      exact last_append (by decide)

theorem not_carries_definition (front table type : String) (column : Column)
    (value : Option DefaultValue) :
    carriesKey key (front ++ grammar.renderColumn table column type value) = false := by
  rw [Bool.eq_false_iff]
  intro carried
  obtain ⟨before, same⟩ := List.isSuffixOf_iff_suffix.mp carried
  obtain ⟨c, last, other⟩ := null_clause_last grammar table column value
  have ends : (front ++ grammar.renderColumn table column type value).toList.getLast? = some c :=
    last_append (last_append last)
  rw [← same, List.getLast?_append, key_clause_last] at ends
  exact other (Option.some.inj ends).symm

theorem carries_key_clause (front : String) :
    carriesKey key (front ++ keyClause (some key)) = true := by
  simp [carriesKey]

theorem key_of_column_congr {name other : String} (same : Text.sameName name other = true) :
    blueprint.KeyOfColumn key name ↔ blueprint.KeyOfColumn key other := by
  constructor
  · rintro ⟨own, column, sole, found, counts, ofName⟩
    exact ⟨own, column, sole, found, counts, Text.sameName_trans ofName same⟩
  · rintro ⟨own, column, sole, found, counts, ofOther⟩
    rw [Text.sameName_comm] at same
    exact ⟨own, column, sole, found, counts, Text.sameName_trans ofOther same⟩

theorem inline_clause_cases (declared : blueprint.primary? = some key) (column : Column) :
    (blueprint.KeyOfColumn key column.name ∧
        inlineClause blueprint column = keyClause (some key)) ∨
      (¬ blueprint.KeyOfColumn key column.name ∧ inlineClause blueprint column = "") := by
  unfold inlineClause
  cases inline : inlinePrimary? blueprint with
  | none =>
      refine .inr ⟨?_, rfl⟩
      rintro ⟨own, found, sole, named, counts, _⟩
      have present := inline_primary_iff.mpr ⟨declared, sole, found, named, counts⟩
      simp [inline] at present
  | some pair =>
      obtain ⟨primary, own⟩ := pair
      obtain ⟨same, sole, found, named, counts⟩ := inline_primary_iff.mp inline
      obtain rfl : key = primary := Option.some.inj (declared.symm.trans same)
      cases ofColumn : Text.sameName own column.name with
      | true =>
          have ofKey : blueprint.KeyOfColumn key column.name :=
            ⟨own, found, sole, named, counts, ofColumn⟩
          exact .inl ⟨ofKey, by simp [ofColumn, keyClause]⟩
      | false =>
          refine .inr ⟨?_, by simp [ofColumn]⟩
          rintro ⟨other, _, soleOther, _, _, ofOther⟩
          rw [sole, List.singleton_inj] at soleOther
          simp [soleOther, ofOther] at ofColumn

theorem add_statement_carries_iff (declared : blueprint.primary? = some key)
    {name statement : String} (written : grammar.addStatement blueprint name = .ok statement) :
    carriesKey key statement = true ↔ blueprint.KeyOfColumn key name := by
  obtain ⟨column, type, found, _, rfl⟩ := add_statement_eq_ok_iff.mp written
  rw [← key_of_column_congr (Blueprint.same_name_of_column found)]
  rcases inline_clause_cases declared column with ⟨ofColumn, clause⟩ | ⟨apart, clause⟩
  · rw [clause]
    exact ⟨fun _ => ofColumn, fun _ => carries_key_clause _⟩
  · rw [clause, String.append_empty, not_carries_definition]
    exact ⟨fun carried => (by cases carried), fun ofColumn => absurd ofColumn apart⟩

theorem added_statements_carry (declared : blueprint.primary? = some key)
    (compiled : ∀ command ∈ blueprint.commands,
      grammar.compile blueprint command = .ok (grammar.emitted blueprint command)) :
    List.Forall₂ (fun name statement =>
        carriesKey key statement = true ↔ blueprint.KeyOfColumn key name)
      blueprint.listedAdditions
      ((blueprint.commands.filter Command.isAdd).flatMap (grammar.emitted blueprint)) := by
  unfold Blueprint.listedAdditions
  generalize blueprint.commands = commands at compiled
  induction commands with
  | nil => exact .nil
  | cons command commands ih =>
      obtain ⟨head, tail⟩ := List.forall_mem_cons.mp compiled
      cases command with
      | add names =>
          have written := (mapM_eq_ok_iff _ _ _).mp head
          have carried := written.imp fun _ _ => add_statement_carries_iff declared
          exact List.rel_append carried (ih tail)
      -- Other commands list nothing to add, and their statements are left out.
      | _ => exact ih tail

theorem primary_statements_of_altered (altered : blueprint.creating = false) :
    grammar.emitted blueprint (.primary key) =
      if key.implied || isInlined blueprint key then []
      else [grammar.standaloneKey blueprint key] := by
  simp only [emitted, given, compile, primaryStatements, altered, Bool.false_eq_true, if_false]
  cases key.implied || isInlined blueprint key <;> rfl

theorem is_inlined_iff (declared : blueprint.primary? = some key) :
    isInlined blueprint key = true ↔
      ∃ name ∈ blueprint.listedAdditions, blueprint.KeyOfColumn key name := by
  rw [is_inlined_eq]
  constructor
  · cases inline : inlinePrimary? blueprint with
    | none => simp
    | some pair =>
        obtain ⟨primary, own⟩ := pair
        obtain ⟨_, sole, column, found, counts⟩ := inline_primary_iff.mp inline
        simp only [Bool.and_eq_true, decide_eq_true_eq, Blueprint.lists_name_iff]
        rintro ⟨rfl, name, listed, same⟩
        rw [Text.sameName_comm] at same
        exact ⟨name, listed, own, column, sole, found, counts, same⟩
  · rintro ⟨name, listed, own, column, sole, found, counts, same⟩
    rw [inline_primary_iff.mpr ⟨declared, sole, column, found, counts⟩]
    rw [Text.sameName_comm] at same
    simp only [decide_true, Bool.true_and, Blueprint.lists_name_iff]
    exact ⟨name, listed, same⟩

theorem primary_commands_of_single (single : blueprint.primaryCount ≤ 1)
    (declared : blueprint.primary? = some key) :
    blueprint.commands.filter (fun command => command.primary?.isSome) = [.primary key] := by
  rw [Blueprint.primary?, ← List.head?_filterMap] at declared
  rw [Blueprint.primaryCount] at single
  generalize blueprint.commands = commands at declared single
  induction commands with
  | nil => cases declared
  | cons command commands ih =>
      cases command with
      | primary own =>
          obtain rfl : own = key := Option.some.inj declared
          have alone : commands.filterMap Command.primary? = [] :=
            List.eq_nil_of_length_eq_zero (Nat.le_zero.mp (Nat.le_of_succ_le_succ single))
          have others : commands.filter (fun command => command.primary?.isSome) = [] := by
            apply List.filter_eq_nil_iff.mpr
            intro other member
            simp [List.filterMap_eq_nil_iff.mp alone other member]
          rw [List.filter_cons_of_pos rfl, others]
      | _ => exact ih declared single

theorem countP_or_of_apart {Item : Type} {first second : Item → Bool} {items : List Item}
    (apart : ∀ item, first item = true → second item = false) :
    items.countP (fun item => first item || second item) =
      items.countP first + items.countP second := by
  induction items with
  | nil => rfl
  | cons item items ih =>
      rw [List.countP_cons, List.countP_cons, List.countP_cons, ih]
      cases holds : first item with
      | true =>
          simp [apart item holds]
          omega
      | false =>
          simp
          omega

theorem count_declaring (emissions : List Emission) :
    emissions.countP (grammar.declaresKey blueprint key) =
      ((emissions.filter fun emission => emission.command.primary?.isSome).map
          Emission.statement).countP (· == grammar.standaloneKey blueprint key) +
        ((emissions.filter fun emission => emission.command.isAdd).map
          Emission.statement).countP (carriesKey key) := by
  rw [List.countP_map, List.countP_map, List.countP_filter, List.countP_filter]
  apply countP_or_of_apart
  rintro ⟨command, statement⟩ own
  cases command with
  | add names => simp [Command.primary?] at own
  | _ => exact Bool.and_false _

theorem count_carrying_le_one {names statements : List String}
    (distinct : names.Pairwise fun first second => Text.sameName first second = false)
    (carried : List.Forall₂ (fun name statement =>
      carriesKey key statement = true ↔ blueprint.KeyOfColumn key name) names statements) :
    statements.countP (carriesKey key) ≤ 1 := by
  -- Over the listed names: two statements that carry the key are for spellings of one name.
  induction carried with
  | nil => simp
  | @cons name statement names statements head rest ih =>
      obtain ⟨apart, others⟩ := List.pairwise_cons.mp distinct
      rw [List.countP_cons]
      cases holds : carriesKey key statement with
      | false => simpa using ih others
      | true =>
          have none_later : statements.countP (carriesKey key) = 0 := by
            apply List.countP_eq_zero.mpr
            intro later member carries
            obtain ⟨other, listed, same⟩ := exists_left rest member
            obtain ⟨own, _, sole, _, _, ofName⟩ := head.mp holds
            obtain ⟨again, _, soleAgain, _, _, ofOther⟩ := same.mp carries
            rw [sole, List.singleton_inj] at soleAgain
            rw [← soleAgain] at ofOther
            rw [Text.sameName_comm] at ofName
            have doubled := Text.sameName_trans ofName ofOther
            simp [apart other listed] at doubled
          simp [none_later]

theorem is_inlined_iff_carried (declared : blueprint.primary? = some key)
    (compiled : ∀ command ∈ blueprint.commands,
      grammar.compile blueprint command = .ok (grammar.emitted blueprint command)) :
    isInlined blueprint key = true ↔
      ∃ statement ∈ (blueprint.commands.filter Command.isAdd).flatMap (grammar.emitted blueprint),
        carriesKey key statement = true := by
  have carried := added_statements_carry declared compiled
  rw [is_inlined_iff declared]
  constructor
  · rintro ⟨name, listed, ofColumn⟩
    obtain ⟨statement, written, carries⟩ := exists_right carried listed
    exact ⟨statement, written, carries.mpr ofColumn⟩
  · rintro ⟨statement, written, carries⟩
    obtain ⟨name, listed, ofColumn⟩ := exists_left carried written
    exact ⟨name, listed, ofColumn.mp carries⟩

theorem standalone_emitted_iff (declared : blueprint.primary? = some key)
    (altered : blueprint.creating = false) :
    ⟨.primary key, grammar.standaloneKey blueprint key⟩ ∈ grammar.emissions blueprint ↔
      key.implied = false ∧ isInlined blueprint key = false := by
  obtain ⟨command, member, primary⟩ := List.exists_of_findSome?_eq_some declared
  rw [Command.primary_eq_spec, Command.spec_primary_iff] at primary
  rw [mem_emissions, primary_statements_of_altered altered, ← primary, ← Bool.or_eq_false_iff]
  cases key.implied || isInlined blueprint key <;> simp [member]

theorem count_declaring_of_altered (declared : blueprint.primary? = some key)
    (altered : blueprint.creating = false) (single : blueprint.primaryCount ≤ 1) :
    (grammar.emissions blueprint).countP (grammar.declaresKey blueprint key) =
      (if key.implied || isInlined blueprint key then 0 else 1) +
        ((blueprint.commands.filter Command.isAdd).flatMap
          (grammar.emitted blueprint)).countP (carriesKey key) := by
  rw [count_declaring, statements_of_kind fun command => command.primary?.isSome,
    statements_of_kind Command.isAdd, primary_commands_of_single single declared,
    List.flatMap_singleton, primary_statements_of_altered altered]
  cases key.implied || isInlined blueprint key <;> simp

/-- The primary key of a table that is there is declared in one place. Its own statement stands
exactly where it was asked for and no added column carries it; and an added column carries it
exactly where the key is over that one column and the column counts. So where no column is listed
for addition twice, a key that was asked for is declared once and an implied one at most once. -/
theorem primary_key_declared_once (grammar : Grammar) (blueprint : Blueprint)
    (statements : List String) (key : IndexSpec) (altered : blueprint.creating = false)
    (compiled : (grammar.toSql blueprint).2 = .ok statements)
    (declared : (grammar.toSql blueprint).1.primary? = some key) :
    let resolved := (grammar.toSql blueprint).1
    let emissions := grammar.emissions resolved
    statements = emissions.map Emission.statement ∧
    (⟨.primary key, grammar.standaloneKey resolved key⟩ ∈ emissions ↔
      key.implied = false ∧ ∀ emission ∈ emissions, emission.command.isAdd = true →
        carriesKey key emission.statement = false) ∧
    (∀ names, .add names ∈ resolved.commands →
      List.Forall₂ (fun name statement =>
          carriesKey key statement = true ↔ resolved.KeyOfColumn key name)
        names (grammar.emitted resolved (.add names))) ∧
    (resolved.listedAdditions.Pairwise (fun first second => Text.sameName first second = false) →
      (key.implied = false → emissions.countP (grammar.declaresKey resolved key) = 1) ∧
      emissions.countP (grammar.declaresKey resolved key) ≤ 1) := by
  obtain ⟨passed, each, joined⟩ := to_sql_emits compiled
  have altering : (grammar.toSql blueprint).1.creating = false := by
    rw [to_sql_blueprint, blueprint.resolve_creating, altered]
  have single : (grammar.toSql blueprint).1.primaryCount ≤ 1 := by
    rw [to_sql_blueprint]
    exact Blueprint.single_key_of_resolved passed
  generalize (grammar.toSql blueprint).1 = resolved at *
  dsimp only
  have inlined := is_inlined_iff_carried declared each
  refine ⟨joined, ?_, ?_, ?_⟩
  · rw [standalone_emitted_iff declared altering, ← Bool.not_eq_true (isInlined _ _), inlined,
      ← statements_of_kind]
    simp
  · intro names member
    have written := (mapM_eq_ok_iff _ _ _).mp (each _ member)
    exact written.imp fun _ _ => add_statement_carries_iff declared
  · intro distinct
    have atMost := count_carrying_le_one distinct (added_statements_carry declared each)
    rw [← List.countP_pos_iff] at inlined
    rw [count_declaring_of_altered declared altering single]
    cases inline : isInlined resolved key with
    | true =>
        have carried := inlined.mp inline
        rw [Bool.or_true, if_pos rfl]
        omega
    | false =>
        have none_carried := inlined.not.mp (by simp [inline])
        rw [Bool.or_false]
        constructor
        · intro explicit
          rw [explicit, if_neg (by decide)]
          omega
        · split <;> omega

def keyedAlteration : Blueprint :=
  { table := "users"
    columns := [Column.increments "id", Column.sized "name" .string 40]
    commands := [.primary { columns := ["Id"] }, .add ["ID"]] }

theorem primary_key_declared_once_users :
    keyedAlteration.creating = false ∧
    let resolved := (toSql {} keyedAlteration).1
    let emissions := emissions {} resolved
    ∃ statements key, (toSql {} keyedAlteration).2 = .ok statements ∧
      resolved.primary? = some key ∧
      statements = emissions.map Emission.statement ∧
      (⟨.primary key, standaloneKey {} resolved key⟩ ∈ emissions ↔
        key.implied = false ∧ ∀ emission ∈ emissions, emission.command.isAdd = true →
          carriesKey key emission.statement = false) ∧
      (∀ names, .add names ∈ resolved.commands →
        List.Forall₂ (fun name statement =>
            carriesKey key statement = true ↔ resolved.KeyOfColumn key name)
          names (emitted {} resolved (.add names))) ∧
      resolved.listedAdditions.Pairwise (fun first second => Text.sameName first second = false) ∧
      key.implied = false ∧ emissions.countP (declaresKey {} resolved key) = 1 := by
  have compiled : (toSql {} keyedAlteration).2 =
      .ok ["alter table users add id int auto_increment not null constraint users_id_primary primary key",
        "alter table users add name varchar2(40 char) null"] := by
    decide +kernel
  have declared : (toSql {} keyedAlteration).1.primary? =
      some { name := "users_id_primary", columns := ["Id"] } := by
    decide +kernel
  have distinct : (toSql {} keyedAlteration).1.listedAdditions.Pairwise
      (fun first second => Text.sameName first second = false) := by
    decide +kernel
  obtain ⟨joined, standing, carried, once⟩ :=
    primary_key_declared_once {} keyedAlteration _ _ rfl compiled declared
  exact ⟨rfl, _, _, compiled, declared, joined, standing, carried, distinct, rfl,
    (once distinct).1 rfl⟩

end Grammar

end SchemaBlueprint
