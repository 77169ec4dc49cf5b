import SchemaBlueprint.Proofs.CreatedTable
import SchemaBlueprint.Proofs.ReservedSegment
import SchemaBlueprint.Proofs.SmallLetters

/-!
What a generated name tells of the key or index that it is made for. Its words are those of the
table, those of the columns one behind the other, and the kind. So it tells the kind and the words
of the columns, but not where one column ends and the next begins.
-/

namespace SchemaBlueprint

set_option autoImplicit false

namespace Text

theorem starts_cased_underscore (front back : List Char) :
    startsCased (front ++ '_' :: back) = startsCased front := by
  induction front with
  | nil =>
      have stops : isCaseIgnorable '_' = false := by decide +kernel
      have uncased : isCased '_' = false := by decide +kernel
      simp [startsCased, stops, uncased]
  | cons c rest ih =>
      simp only [startsCased] at ih ⊢
      rw [List.cons_append, List.dropWhile_cons, List.dropWhile_cons]
      cases isCaseIgnorable c with
      | true => exact ih
      | false => rfl

theorem lower_after_far (before far chars : List Char) :
    lowerAfter (before ++ '_' :: far) chars = lowerAfter before chars := by
  induction chars generalizing before with
  | nil => rfl
  | cons c rest ih =>
      have next := ih (c :: before)
      rw [List.cons_append] at next
      simp only [lowerAfter, smallSigma, starts_cased_underscore, next]

theorem lower_after_append (before front back : List Char) :
    lowerAfter before (front ++ '_' :: back) =
      lowerAfter before front ++ '_' :: lowerAfter [] back := by
  induction front generalizing before with
  | nil =>
      have far : lowerAfter ('_' :: before) back = lowerAfter [] back :=
        lower_after_far [] before back
      have own : lowerChar '_' = ['_'] := lower_char_of_sign (by decide)
      simp [lowerAfter, own, far]
  | cons c rest ih =>
      simp only [List.cons_append, lowerAfter, smallSigma, starts_cased_underscore, ih,
        List.append_assoc]

theorem lower_chars_append (front back : List Char) :
    lowerChars (front ++ '_' :: back) = lowerChars front ++ '_' :: lowerChars back :=
  lower_after_append [] front back

/-- The words of a text: its pieces between underscores, hyphens and dots, in lower case. -/
def words (chars : List Char) : List (List Char) :=
  segments '_' ((lowerChars chars).map Blueprint.plainNameChar)

theorem words_append (front back : List Char) :
    words (front ++ '_' :: back) = words front ++ words back := by
  have plain : Blueprint.plainNameChar '_' = '_' := by decide
  rw [words, lower_chars_append, List.map_append, List.map_cons, plain, segments_append]
  rfl

theorem eq_of_segments_eq {separator : Char} {glue : String} (single : glue.toList = [separator])
    {left right : String}
    (same : segments separator left.toList = segments separator right.toList) : left = right := by
  rw [← intercalate_split single left, splitAt, same, ← splitAt, intercalate_split single right]

/-- A name of one word, whose letters beyond ASCII are in lower case. -/
def IsWord (name : String) : Prop :=
  ∀ c ∈ name.toList, c ∉ ['_', '-', '.'] ∧ lowerChar c = [c.toLower]

instance : DecidablePred IsWord := fun name =>
  List.decidableBAll (fun c => c ∉ ['_', '-', '.'] ∧ lowerChar c = [c.toLower]) name.toList

theorem words_of_word {name : String} (word : IsWord name) :
    words name.toList = [asciiFold name] := by
  have small : lowerChars name.toList = name.toList.map Char.toLower :=
    lower_after_of_small fun c member => (word c member).2
  have whole : ∀ c ∈ name.toList,
      c.toLower ≠ '_' ∧ Blueprint.plainNameChar c.toLower = c.toLower := by
    intro c member
    have apart := (word c member).1
    simp only [List.mem_cons, List.not_mem_nil, or_false, not_or] at apart
    obtain ⟨joined, hyphen, dot⟩ := apart
    rw [ne_eq, to_lower_eq_iff (by decide), Blueprint.plainNameChar]
    simp [to_lower_eq_iff, joined, hyphen, dot]
  have plain : (lowerChars name.toList).map Blueprint.plainNameChar = asciiFold name := by
    rw [small, List.map_map, asciiFold]
    exact List.map_congr_left fun c member => (whole c member).2
  rw [words, plain, segments_of_not_mem]
  intro joined
  obtain ⟨c, member, same⟩ := List.mem_map.mp joined
  exact (whole c member).1 same

/-- The words of some columns, one column behind the other. No column counts as an empty one. -/
def columnWords : List String → List (List Char)
  | [] => [[]]
  | name :: names => (name :: names).flatMap fun name => words name.toList

theorem words_intercalate (names : List String) :
    words ("_".intercalate names).toList = columnWords names := by
  induction names with
  | nil => rfl
  | cons name names ih =>
      cases names with
      | nil => simp [columnWords]
      | cons next rest =>
          have glue : "_".toList = ['_'] := rfl
          rw [String.intercalate_cons_cons, String.toList_append, String.toList_append, glue,
            List.append_assoc, List.singleton_append, words_append, ih]
          rfl

def WordList (names : List String) : Prop := names ≠ [] ∧ ∀ name ∈ names, IsWord name

instance : DecidablePred WordList := fun names =>
  inferInstanceAs (Decidable (names ≠ [] ∧ ∀ name ∈ names, IsWord name))

theorem column_words_of_words {names : List String} (each : WordList names) :
    columnWords names = names.map asciiFold := by
  obtain ⟨some_name, word⟩ := each
  obtain ⟨name, rest, rfl⟩ := List.exists_cons_of_ne_nil some_name
  rw [columnWords, List.map_eq_flatMap]
  exact List.flatMap_congr fun name member => words_of_word (word name member)

theorem column_words_eq_iff {names others : List String} (each : WordList names)
    (eachOther : WordList others) :
    columnWords names = columnWords others ↔ sameNames names others = true := by
  rw [column_words_of_words each, column_words_of_words eachOther, sameNames_iff]

end Text

open Text

theorem IndexKind.words_word (kind : IndexKind) : words kind.word.toList = [kind.word.toList] := by
  cases kind <;> decide +kernel

theorem IndexKind.word_injective {kind other : IndexKind} (same : kind.word = other.word) :
    kind = other := by
  revert same
  cases kind <;> cases other <;> decide

def Command.kind? : Command → Option IndexKind
  | .primary _ => some .primary
  | .unique _ => some .unique
  | .index _ => some .index
  | .foreign _ => some .foreign
  | _ => none

namespace Blueprint

theorem segments_index_name (blueprint : Blueprint) (kind : IndexKind) (columns : List String) :
    segments '_' (blueprint.indexName kind.word columns).toList =
      words (blueprint.tablePrefix ++ blueprint.table).toList ++
        (columnWords columns ++ [kind.word.toList]) := by
  have glue : "_".toList = ['_'] := rfl
  have joined : (blueprint.tablePrefix ++ blueprint.table ++ "_" ++ "_".intercalate columns ++ "_"
      ++ kind.word).toList = (blueprint.tablePrefix ++ blueprint.table).toList ++
        '_' :: (("_".intercalate columns).toList ++ '_' :: kind.word.toList) := by
    simp only [String.toList_append, glue, List.append_assoc, List.cons_append, List.nil_append]
  rw [indexName, String.toList_ofList, joined, ← words, words_append, words_append,
    words_intercalate, kind.words_word]

theorem index_name_eq_iff (blueprint : Blueprint) (kind other : IndexKind)
    (columns others : List String) :
    blueprint.indexName kind.word columns = blueprint.indexName other.word others ↔
      kind = other ∧ columnWords columns = columnWords others := by
  constructor
  · intro same
    have pieces := congrArg (fun name => segments '_' name.toList) same
    simp only [segments_index_name] at pieces
    have behind := List.append_cancel_left pieces
    obtain ⟨sameWords, sameKind⟩ := List.append_inj' behind rfl
    have sameWord := String.toList_inj.mp (List.singleton_inj.mp sameKind)
    exact ⟨IndexKind.word_injective sameWord, sameWords⟩
  · rintro ⟨rfl, sameWords⟩
    have glue : "_".toList = ['_'] := rfl
    apply eq_of_segments_eq glue
    rw [segments_index_name, segments_index_name, sameWords]

def HasGeneratedName (blueprint : Blueprint) (command : Command) : Prop :=
  ∃ kind, command.kind? = some kind ∧
    command.keyName? = some (blueprint.indexName kind.word command.localNames)

/-- A key or index that is given without a name, or that is not given and that the pass
registers. -/
def Unnamed (blueprint : Blueprint) (command : Command) : Prop :=
  (command ∈ blueprint.commands ∧ command.keyName? = some "") ∨ command ∈ blueprint.missingIndexes

instance (blueprint : Blueprint) : DecidablePred blueprint.Unnamed := fun command =>
  inferInstanceAs (Decidable ((command ∈ blueprint.commands ∧ command.keyName? = some "") ∨
    command ∈ blueprint.missingIndexes))

variable {blueprint : Blueprint}

theorem filled_command_generated {command : Command} (empty : command.keyName? = some "") :
    blueprint.HasGeneratedName (blueprint.filledCommand command) := by
  rw [HasGeneratedName, local_names_filled]
  cases command with
  | primary key | unique key | index key | foreign key =>
      have unnamed : key.name = "" := Option.some_inj.mp empty
      refine ⟨_, rfl, ?_⟩
      simp [filledCommand, filledIndex, namedForeign, Command.keyName?, Command.localNames, unnamed]
  | _ => cases empty

theorem kind_of_spec {kind : IndexKind} {command : Command} {spec : IndexSpec}
    (declared : command.spec? kind = some spec) :
    command.kind? = some kind ∧ command.keyName? = some spec.name := by
  rcases Command.spec_cases declared with ⟨rfl, rfl⟩ | ⟨rfl, rfl⟩ | ⟨rfl, rfl⟩ <;> exact ⟨rfl, rfl⟩

theorem missing_generated {command : Command} (missing : command ∈ blueprint.missingIndexes) :
    blueprint.HasGeneratedName (blueprint.filledCommand command) := by
  obtain ⟨kind, column, _, spec, declared, columns, name⟩ := spec_of_missing missing
  obtain ⟨ownKind, ownName⟩ := kind_of_spec declared
  have named : command.Named := by
    rw [Command.Named, ownName, name, ne_eq, Option.some_inj]
    exact blueprint.index_name_ne_empty _ _
  rw [filled_command_of_named named]
  refine ⟨kind, ownKind, ?_⟩
  rw [ownName, name, local_names_of_spec declared, columns]

theorem unnamed_generated {command : Command} (unnamed : blueprint.Unnamed command) :
    blueprint.HasGeneratedName (blueprint.filledCommand command) := by
  rcases unnamed with ⟨_, empty⟩ | missing
  · exact filled_command_generated empty
  · exact missing_generated missing

theorem unnamed_mem_resolved {command : Command} (unnamed : blueprint.Unnamed command)
    (passed : blueprint.resolve.2 = .ok ()) :
    blueprint.filledCommand command ∈ blueprint.resolve.1.commands := by
  rcases resolve_cases blueprint with ⟨_, resolved⟩ | ⟨_, resolved⟩
  · simp [resolved] at passed
  · rw [resolved, ← (with_implied_same_table blueprint).filled_command]
    apply List.mem_map_of_mem
    rw [with_implied_eq, List.mem_append]
    rcases unnamed with ⟨given, empty⟩ | missing
    · have kept : command ∈ blueprint.remaining := by
        refine List.mem_filter.mpr ⟨given, ?_⟩
        cases command <;> first | rfl | cases empty
      rw [← with_alterations_remaining] at kept
      exact .inl (List.mem_of_mem_filter kept)
    · exact .inr (mem_missing_with_alterations.mpr missing)

theorem same_index_iff_kind (first second : Command) :
    sameIndex first second = true ↔ (∃ kind, first.kind? = some kind ∧ kind ≠ .foreign) ∧
      first.kind? = second.kind? ∧ sameNames first.localNames second.localNames = true := by
  cases first <;> cases second <;> simp [sameIndex, Command.kind?, Command.localNames]

theorem generated_key_name_eq_iff {first second : Command}
    (generated : blueprint.HasGeneratedName first)
    (generatedOther : blueprint.HasGeneratedName second) :
    first.keyName? = second.keyName? ↔ first.kind? = second.kind? ∧
      columnWords first.localNames = columnWords second.localNames := by
  obtain ⟨kind, ownKind, ownName⟩ := generated
  obtain ⟨other, otherKind, otherName⟩ := generatedOther
  rw [ownName, otherName, ownKind, otherKind, Option.some_inj, Option.some_inj, index_name_eq_iff]

/-- Generated names are the same exactly for the same kind and the same words of the columns. Each
key or index without a name gets a generated one. Where every column is one word, two of them that
are not foreign keys have the same name exactly if they double each other. -/
theorem generated_names_agree_iff (blueprint : Blueprint) :
    (∀ kind other columns others,
      blueprint.indexName (IndexKind.word kind) columns = blueprint.indexName other.word others ↔
        kind = other ∧ columnWords columns = columnWords others) ∧
    (∀ columns others, WordList columns → WordList others →
      (columnWords columns = columnWords others ↔ sameNames columns others = true)) ∧
    (∀ command, blueprint.Unnamed command →
      blueprint.HasGeneratedName (blueprint.filledCommand command) ∧
        (blueprint.resolve.2 = .ok () →
          blueprint.filledCommand command ∈ blueprint.resolve.1.commands)) ∧
    ∀ first second, blueprint.HasGeneratedName first → blueprint.HasGeneratedName second →
      (first.keyName? = second.keyName? ↔ first.kind? = second.kind? ∧
        columnWords first.localNames = columnWords second.localNames) ∧
      (WordList first.localNames → WordList second.localNames → first.kind? ≠ some .foreign →
        (first.keyName? = second.keyName? ↔ sameIndex first second = true)) := by
  refine ⟨blueprint.index_name_eq_iff, fun _ _ => column_words_eq_iff, ?_, ?_⟩
  · intro command unnamed
    exact ⟨unnamed_generated unnamed, unnamed_mem_resolved unnamed⟩
  · intro first second generated generatedOther
    refine ⟨generated_key_name_eq_iff generated generatedOther, ?_⟩
    intro each eachOther notForeign
    have own : ∃ kind, first.kind? = some kind ∧ kind ≠ .foreign := by
      obtain ⟨kind, declared, _⟩ := generated
      exact ⟨kind, declared, fun foreign => notForeign (foreign ▸ declared)⟩
    rw [generated_key_name_eq_iff generated generatedOther, column_words_eq_iff each eachOther,
      same_index_iff_kind, and_iff_right own]

def ordersByTenant : Blueprint :=
  { table := "Orders", tablePrefix := "app."
    columns := [{ name := "größe", type := .text, unique := true }]
    commands := [.index { columns := ["Tenant"] }, .index { columns := ["TENANT"] }] }

theorem generated_names_agree_iff_tenant :
    ordersByTenant.resolve.2 = .ok () ∧
      ordersByTenant.resolve.1.commands.map Command.keyName? = [none, some "app_orders_tenant_index",
        some "app_orders_tenant_index", some "app_orders_größe_unique"] ∧
      ∃ first second third, first ∈ ordersByTenant.resolve.1.commands ∧
        second ∈ ordersByTenant.resolve.1.commands ∧ third ∈ ordersByTenant.resolve.1.commands ∧
        first.keyName? = second.keyName? ∧ sameIndex first second = true ∧
        first.keyName? ≠ third.keyName? ∧ sameIndex first third = false := by
  obtain ⟨_, _, given, doubled⟩ := generated_names_agree_iff ordersByTenant
  have passed : ordersByTenant.resolve.2 = .ok () := by decide +kernel
  have first := given (.index { columns := ["Tenant"] }) (by decide +kernel)
  have second := given (.index { columns := ["TENANT"] }) (by decide +kernel)
  have third := given (.unique { name := "app_orders_größe_unique", columns := ["größe"] })
    (by decide +kernel)
  have same := (doubled _ _ first.1 second.1).2 (by decide +kernel) (by decide +kernel)
    (by decide +kernel)
  have other := (doubled _ _ first.1 third.1).2 (by decide +kernel) (by decide +kernel)
    (by decide +kernel)
  refine ⟨passed, by decide +kernel, _, _, _, first.2 passed, second.2 passed, third.2 passed,
    same.mpr (by decide +kernel), by decide +kernel, ?_, by decide +kernel⟩
  rw [ne_eq, other]
  decide +kernel

def ordersByParts : Blueprint :=
  { table := "t"
    commands := [.index { columns := ["a_b"] }, .index { columns := ["a", "b"] },
      .foreign { columns := ["a"], table := "x" }, .foreign { columns := ["a"], table := "y" }] }

/-- A name does not tell where a column ends, nor the case of letters beyond ASCII, nor the table
that a foreign key refers to. -/
theorem different_columns_share_name :
    sameNames ["a_b"] ["a", "b"] = false ∧
      ordersByParts.indexName IndexKind.index.word ["a_b"] =
        ordersByParts.indexName IndexKind.index.word ["a", "b"] ∧
      sameNames ["É"] ["é"] = false ∧
      ordersByParts.indexName IndexKind.index.word ["É"] =
        ordersByParts.indexName IndexKind.index.word ["é"] ∧
      ordersByParts.resolve.2 = .ok () ∧
      ordersByParts.resolve.1.commands =
        [.index { name := "t_a_b_index", columns := ["a_b"] },
          .index { name := "t_a_b_index", columns := ["a", "b"] },
          .foreign { name := "t_a_foreign", columns := ["a"], table := "x" },
          .foreign { name := "t_a_foreign", columns := ["a"], table := "y" }] ∧
      sameIndex (.index { columns := ["a_b"] }) (.index { columns := ["a", "b"] }) = false ∧
      sameIndex (.foreign { columns := ["a"], table := "x" })
        (.foreign { columns := ["a"], table := "y" }) = false := by
  decide +kernel

end Blueprint

end SchemaBlueprint
