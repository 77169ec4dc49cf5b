import SchemaBlueprint.Document.Encode
import SchemaBlueprint.Proofs.RecordReading
import SchemaBlueprint.Proofs.History

/-!
Blueprints written down and read again. What is left out of a written blueprint is just what reading
assumes where nothing stands, and a command is known by its name. Only a default that is no finite
number gets lost, since it has no digits.
-/

namespace SchemaBlueprint

set_option autoImplicit false

open Document

def DefaultValue.writable : DefaultValue → Bool
  | .float value => value.isFinite
  | _ => true

def Column.asWritten (column : Column) : Column :=
  { column with defaultValue := column.defaultValue.filter DefaultValue.writable }

def Blueprint.asWritten (blueprint : Blueprint) : Blueprint :=
  { blueprint with columns := blueprint.columns.map Column.asWritten }

namespace Document

theorem read_int64 (value : Int64) :
    defaultValue (.ofJson (.int value.toInt)) = .ok (.int value) := by
  have least : Decimal.leastInt64 ≤ value.toInt := value.le_toInt
  have greatest : value.toInt ≤ Decimal.greatestInt64 := Int.le_of_lt_add_one value.toInt_lt
  have bounds : (Decimal.leastInt64 ≤ value.toInt && value.toInt ≤ Decimal.greatestInt64) = true :=
    Bool.and_eq_true_iff.mpr ⟨decide_eq_true least, decide_eq_true greatest⟩
  change (if _ then Except.ok (DefaultValue.int (Int64.ofInt value.toInt)) else _) = _
  rw [if_pos bounds, Int64.ofInt_toInt]

theorem read_expression (sql : String) :
    defaultValue (.ofJson (DefaultValue.expression sql).encode) = .ok (.expression sql) := by
  have given : Given expressionFields none [("expression", .text sql)] (some sql) :=
    .stated rfl .nil
  have object : Datum.ofJson (DefaultValue.expression sql).encode =
      .object (Datum.ofEntries [("expression", .text sql)]) := rfl
  rw [object, defaultValue, read_fields_of_given (by decide) given]
  rfl

theorem read_default (value : DefaultValue) :
    datum.optional (fun node => datum.value 3 node >>= defaultValue) (.ofJson value.encode) =
      .ok ((some value).filter DefaultValue.writable) := by
  cases value with
  | bool value => rfl
  | int value => exact read_optional rfl (read_int64 value)
  | float value =>
      by_cases finite : value.isFinite = true
      · simp only [DefaultValue.encode, Json.ofFloat, Option.filter, DefaultValue.writable, finite,
          if_true]
        rfl
      · simp only [DefaultValue.encode, Json.ofFloat, Option.filter, DefaultValue.writable, finite,
          if_false, Bool.false_eq_true]
        rfl
  | text value => rfl
  | expression sql => exact read_optional rfl (read_expression sql)

theorem read_column_type (type : ColumnType) :
    columnType datum (.ofJson (.text type.name)) = .ok type := by
  rw [columnType, read_text]
  simp only [bind, Except.bind, ColumnType.ofName?_name]

theorem read_column (column : Column) :
    Document.column datum (.ofJson column.encode) = .ok column.asWritten := by
  have number : ∀ value : Option UInt32, ∀ stated, value = some stated →
      datum.optional datum.word32 (.ofJson (.int (stated.toNat : Int))) = .ok value := by
    intro value stated same
    rw [same]
    exact read_optional rfl (read_word32 stated)
  have default : ∀ stated, column.defaultValue = some stated →
      datum.optional (fun node => datum.value 3 node >>= defaultValue) (.ofJson stated.encode) =
        .ok (column.defaultValue.filter DefaultValue.writable) := by
    intro stated same
    rw [same]
    exact read_default stated
  have given : ∃ entries, column.encode = .object entries ∧
      Given (columnFields datum) {} entries
        ⟨some column.name, some column.type,
          { column.asWritten with name := "", type := .integer }⟩ := by
    refine ⟨_, rfl, ?_⟩
    -- After every field the draft is written out again, so that it does not grow with the fields.
    simp only [columnFields, List.append_assoc, List.cons_append, List.nil_append]
    refine .stated rfl (.stated (Field.set_of (read_column_type _)) ?_)
    dsimp only
    refine .cons (.optional rfl id (number _)) ?_
    dsimp only
    refine .cons (.optional rfl id (number _)) ?_
    dsimp only
    refine .cons (.optional rfl id (number _)) ?_
    dsimp only
    refine .stated rfl (.stated rfl ?_)
    dsimp only
    refine .cons (.optional rfl (fun absent => by rw [absent]; rfl) default) ?_
    dsimp only
    refine .cons (.unless (fun empty => ?_) (read_texts _)) ?_
    · rw [List.isEmpty_iff.mp empty]
    dsimp only
    exact .stated rfl (.stated rfl (.stated rfl (.stated rfl .nil)))
  obtain ⟨entries, object, given⟩ := given
  rw [object]
  change readFields (columnFields datum) {} ColumnDraft.complete
    (.keyed (Datum.ofEntries entries)) = _
  rw [read_fields_of_given (by decide) given]
  rfl

theorem read_index (spec : IndexSpec) :
    readFields indexFields {} IndexDraft.complete (.keyed (Datum.ofEntries spec.entries)) =
      .ok spec := by
  have given : Given indexFields {} spec.entries ⟨spec.name, some spec.columns, spec.implied⟩ := by
    refine .stated rfl (.stated (Field.set_of (read_texts _)) ?_)
    cases spec.implied with
    | true => exact .stated rfl .nil
    | false => exact .cons .leftOut .nil
  rw [read_fields_of_given (by decide) given]
  rfl

theorem read_foreign (key : ForeignKey) :
    readFields foreignFields {} ForeignDraft.complete (.keyed (Datum.ofEntries key.entries)) =
      .ok key := by
  have action : ∀ stated, key.onDelete = some stated →
      datum.optional datum.text (.ofJson (.text stated)) = .ok key.onDelete := by
    intro stated same
    rw [same]
    rfl
  have given : Given foreignFields {} key.entries
      ⟨key.name, some key.columns, some key.table, some key.references, key.onDelete⟩ := by
    refine .stated rfl (.stated (Field.set_of (read_texts _)) ?_)
    refine .stated rfl (.stated (Field.set_of (read_texts _)) ?_)
    exact .last (.optional rfl id action)
  rw [read_fields_of_given (by decide) given]
  rfl

theorem read_sole {α : Type} {name : String} {read : Datum → Read α} {written : Json} {value : α}
    (reads : read (.ofJson written) = .ok value) :
    readSole name read (.keyed (Datum.ofEntries [(name, written)])) = .ok value := by
  have given : Given [.of name read fun (_ : Option α) value => some value] none
      [(name, written)] (some value) := .stated (Field.set_of reads) .nil
  rw [readSole, read_fields_of_given (by simp) given]
  rfl

theorem read_pair {α β : Type} {first second : String} {readFirst : Datum → Read α}
    {readSecond : Datum → Read β} {writtenFirst writtenSecond : Json} {left : α} {right : β}
    (apart : first ≠ second) (readsFirst : readFirst (.ofJson writtenFirst) = .ok left)
    (readsSecond : readSecond (.ofJson writtenSecond) = .ok right) :
    readPair first readFirst second readSecond
      (.keyed (Datum.ofEntries [(first, writtenFirst), (second, writtenSecond)])) =
        .ok (left, right) := by
  have given : Given
      [.of first readFirst fun (draft : Option α × Option β) value => (some value, draft.2),
       .of second readSecond fun draft value => (draft.1, some value)]
      (none, none) [(first, writtenFirst), (second, writtenSecond)] (some left, some right) :=
    .stated (Field.set_of readsFirst) (.stated (Field.set_of readsSecond) .nil)
  rw [readPair, read_fields_of_given (by simpa [Field.of] using apart) given]
  rfl

theorem read_command_from (command : Command) :
    commandFrom command.name (.keyed (Datum.ofEntries command.entries)) = .ok command := by
  cases command with
  | create | drop | dropIfExists | dropAllTables | tableExists => rfl
  | add columns | change columns | dropColumn columns =>
      exact congrArg (Functor.map _) (read_sole (read_texts columns))
  | primary spec | unique spec | index spec => exact congrArg (Functor.map _) (read_index spec)
  | foreign key => exact congrArg (Functor.map _) (read_foreign key)
  | dropPrimary _ | dropUnique _ | dropIndex _ | dropForeign _ | rename _ | tableComment _
  | columnExists _ =>
      exact congrArg (Functor.map _) (read_sole (read_text _))
  | renameColumn source target =>
      have apart : "from" ≠ "to" := by decide
      exact congrArg (Functor.map _) (read_pair apart (read_text source) (read_text target))
  | updateEnum column allowed =>
      have apart : "column" ≠ "allowed" := by decide
      exact congrArg (Functor.map _) (read_pair apart (read_text column) (read_texts allowed))

theorem name_not_mem_keys (command : Command) : "name" ∉ command.entries.map Prod.fst := by
  cases command with
  | primary spec | unique spec | index spec =>
      cases implied : spec.implied <;> simp [Command.entries, IndexSpec.entries, implied]
  | foreign key =>
      cases action : key.onDelete <;>
        simp [Command.entries, ForeignKey.entries, Json.optional, action]
  | _ => simp [Command.entries]

theorem partition_name (command : Command) :
    (Datum.ofEntries (("name", .text command.name) :: command.entries)).partition
      (·.1 == Key.name "name") =
        ([(.name "name", .text command.name)], Datum.ofEntries command.entries) := by
  have others : ∀ entry ∈ Datum.ofEntries command.entries,
      (entry.1 == Key.name "name") = false := by
    intro entry member
    rw [Datum.ofEntries_eq_map, List.mem_map] at member
    obtain ⟨part, there, rfl⟩ := member
    have apart : part.1 ≠ "name" := fun same =>
      name_not_mem_keys command (same ▸ List.mem_map_of_mem there)
    simpa using apart
  have noneNamed : (Datum.ofEntries command.entries).filter (·.1 == Key.name "name") = [] :=
    List.filter_eq_nil_iff.mpr fun entry member => Bool.eq_false_iff.mp (others entry member)
  have allKept : (Datum.ofEntries command.entries).filter
      (fun entry => !(entry.1 == Key.name "name")) = Datum.ofEntries command.entries :=
    List.filter_eq_self.mpr fun entry member => by rw [others entry member, Bool.not_false]
  rw [List.partition_eq_filter_filter, Datum.ofEntries, List.filter_cons_of_pos rfl,
    List.filter_cons_of_neg (by simp), noneNamed]
  exact congrArg (Prod.mk _) allKept

theorem read_command (command : Command) :
    Document.command datum (.ofJson command.encode) = .ok command := by
  change commandOfDatum
    (.object (Datum.ofEntries (("name", .text command.name) :: command.entries))) = _
  rw [commandOfDatum, partition_name]
  exact read_command_from command

theorem read_blueprint (written : Blueprint) :
    Document.blueprint datum (.ofJson written.encode) = .ok written.asWritten := by
  have columns : (datum.items (.ofJson (.list (written.columns.map Column.encode))) >>=
      fun items => items.mapM (Document.column datum)) =
        .ok (written.columns.map Column.asWritten) :=
    mapM_written read_column written.columns
  have commands : (datum.items (.ofJson (.list (written.commands.map Command.encode))) >>=
      fun items => items.mapM (Document.command datum)) = .ok written.commands :=
    (mapM_written read_command written.commands).trans
      (congrArg Except.ok (List.map_id' written.commands))
  have given : Given (blueprintFields datum) {}
      [("table", .text written.table), ("prefix", .text written.tablePrefix),
       ("columns", .list (written.columns.map Column.encode)),
       ("commands", .list (written.commands.map Command.encode))]
      ⟨some written.table, { written.asWritten with table := "" }⟩ :=
    .stated rfl (.stated rfl (.stated (Field.set_of columns) (.stated (Field.set_of commands) .nil)))
  change readFields (blueprintFields datum) {} BlueprintDraft.complete
    (.keyed (Datum.ofEntries _)) = _
  rw [read_fields_of_given (by decide) given]
  rfl

end Document

namespace Blueprint

def FiniteDefaults (blueprint : Blueprint) : Prop :=
  ∀ column ∈ blueprint.columns, ∀ value, column.defaultValue = some (.float value) →
    value.isFinite = true

def reread (blueprint : Blueprint) : Read Blueprint :=
  Document.blueprint datum (.ofJson blueprint.encode)

theorem column_as_written_iff {column : Column} :
    column.asWritten = column ↔
      ∀ value, column.defaultValue = some (.float value) → value.isFinite = true := by
  have only : column.asWritten = column ↔
      column.defaultValue.filter DefaultValue.writable = column.defaultValue := by
    constructor
    · exact fun same => congrArg Column.defaultValue same
    · intro same
      rw [Column.asWritten, same]
  rw [only]
  cases column.defaultValue with
  | none => simp
  | some value => cases value <;> simp [Option.filter_eq_some_iff, DefaultValue.writable]

theorem reread_eq_iff (blueprint : Blueprint) :
    blueprint.reread = .ok blueprint ↔ blueprint.FiniteDefaults := by
  have only : blueprint.asWritten = blueprint ↔
      ∀ column ∈ blueprint.columns, column.asWritten = column := by
    constructor
    · intro same
      have columns := congrArg Blueprint.columns same
      exact List.map_inj_left.mp (columns.trans (List.map_id' _).symm)
    · intro same
      rw [asWritten, List.map_congr_left same, List.map_id']
  rw [reread, read_blueprint, Except.ok.injEq, only]
  exact forall₂_congr fun column _ => column_as_written_iff

/-- Reading what was written gives the blueprint back, before a pass and after it, and with it the
same statements under every grammar. -/
theorem blueprint_reads_back (blueprint : Blueprint) (finite : blueprint.FiniteDefaults) :
    blueprint.reread = .ok blueprint ∧
    blueprint.resolve.1.reread = .ok blueprint.resolve.1 ∧
    ∀ grammar : Grammar, blueprint.reread.map grammar.toSql = .ok (grammar.toSql blueprint) := by
  have back := (reread_eq_iff blueprint).mpr finite
  have finiteResolved : blueprint.resolve.1.FiniteDefaults := by
    rw [FiniteDefaults, (resolve_same_table blueprint).columns]
    exact finite
  refine ⟨back, (reread_eq_iff _).mpr finiteResolved, fun grammar => ?_⟩
  rw [back]
  rfl

def writtenOrders : Blueprint where
  table := "orders"
  tablePrefix := "app_"
  columns :=
    [{ name := "id", type := .bigInteger, nullable := false, autoIncrement := true },
     { name := "price", type := .decimal, total := some 8, places := some 2,
       defaultValue := some (.float 1.5) },
     { name := "paid", type := .boolean, defaultValue := some (.bool false), index := true },
     { name := "count", type := .integer, defaultValue := some (.int (-1)) },
     { name := "status", type := .enum, length := some 4294967295, allowed := ["new", "sent"],
       defaultValue := some (.text "1.5") },
     { name := "at", type := .timestampTz, change := true,
       defaultValue := some (.expression "SYSDATE") }]
  commands :=
    [.create, .primary { columns := ["id"], implied := true }, .unique { columns := [] },
     .foreign { name := "owner", columns := ["id"], table := "users", onDelete := some "cascade" },
     .renameColumn "at" "seen", .updateEnum "status" [], .dropUnique "", .tableExists]

theorem blueprint_reads_back_orders :
    writtenOrders.FiniteDefaults ∧
    writtenOrders.reread = .ok writtenOrders ∧
    writtenOrders.resolve.1.reread = .ok writtenOrders.resolve.1 ∧
    ∀ grammar : Grammar,
      writtenOrders.reread.map grammar.toSql = .ok (grammar.toSql writtenOrders) := by
  have finite : writtenOrders.FiniteDefaults := by
    intro column member value given
    simp only [writtenOrders, List.mem_cons, List.not_mem_nil, or_false] at member
    rcases member with rfl | rfl | rfl | rfl | rfl | rfl <;> cases given
    decide
  exact ⟨finite, blueprint_reads_back writtenOrders finite⟩

end Blueprint

end SchemaBlueprint
