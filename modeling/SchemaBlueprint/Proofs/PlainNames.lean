import SchemaBlueprint.Grammar.Statement
import SchemaBlueprint.Proofs.GeneratedName
import SchemaBlueprint.Proofs.ReservedSegment

/-!
What generated names are free of. They are written bare, so a dot, a hyphen or a quote in one of
them is not read as part of the name. The names of keys and indexes lose dots and hyphens, the names
of checks lose quotes, and neither of them loses what the other does.
-/

namespace SchemaBlueprint

set_option autoImplicit false

namespace Text

def FreeOf (marks : List Char) (text : String) : Prop := ∀ mark ∈ marks, mark ∉ text.toList

instance (marks : List Char) : DecidablePred (FreeOf marks) := fun text =>
  List.decidableBAll (· ∉ text.toList) marks

theorem free_of_parts_iff {marks : List Char} {text : String} {parts : List String}
    (made : ∀ mark ∈ marks, mark ∈ text.toList ↔ ∃ part ∈ parts, mark ∈ part.toList) :
    FreeOf marks text ↔ ∀ part ∈ parts, FreeOf marks part := by
  constructor
  · intro free part inside mark member own
    exact free mark member ((made mark member).mpr ⟨part, inside, own⟩)
  · intro free mark member written
    obtain ⟨part, inside, own⟩ := (made mark member).mp written
    exact free part inside mark member own

variable {mark : Char}

theorem mem_doubled_iff {other : Char} {chars : List Char} :
    mark ∈ doubled other chars ↔ mark ∈ chars := by
  constructor
  · exact mem_of_mem_doubled
  · intro member
    refine List.mem_flatMap.mpr ⟨mark, member, ?_⟩
    split <;> exact List.mem_cons_self

theorem upper_chars_mark_iff (is : IsMark mark) {chars : List Char} :
    mark ∈ upperChars chars ↔ mark ∈ chars := by
  constructor
  · intro written
    by_contra absent
    exact upper_chars_mark is absent written
  · intro member
    exact List.mem_flatMap.mpr ⟨mark, member, upper_char_of_mark is ▸ List.mem_cons_self⟩

theorem mem_intercalate_iff {glue : String} {texts : List String} :
    mark ∈ (glue.intercalate texts).toList ↔
      (∃ text ∈ texts, mark ∈ text.toList) ∨ (mark ∈ glue.toList ∧ 2 ≤ texts.length) := by
  induction texts with
  | nil => simp
  | cons text texts ih =>
      cases texts with
      | nil => simp
      | cons next rest =>
          rw [String.intercalate_cons_cons, String.toList_append, String.toList_append,
            List.mem_append, List.mem_append, ih]
          have two : 2 ≤ (text :: next :: rest).length := by simp
          constructor
          · rintro ((own | glued) | ⟨part, inside, here⟩ | ⟨glued, _⟩)
            · exact .inl ⟨text, List.mem_cons_self, own⟩
            · exact .inr ⟨glued, two⟩
            · exact .inl ⟨part, List.mem_cons_of_mem _ inside, here⟩
            · exact .inr ⟨glued, two⟩
          · rintro (⟨part, inside, here⟩ | ⟨glued, _⟩)
            · rcases List.mem_cons.mp inside with rfl | later
              · exact .inl (.inl here)
              · exact .inr (.inl ⟨part, later, here⟩)
            · exact .inl (.inr glued)

end Text

open Text

namespace Identifier.Policy

variable {mark : Char}

theorem mem_wrap_segment_iff (policy : Policy) (is : IsMark mark) (unquoted : mark ≠ '"')
    (segment : String) :
    mark ∈ (policy.wrapSegment segment).toList ↔ mark ∈ segment.toList := by
  by_cases star : segment = "*"
  · rw [star, wrapSegment, if_pos rfl]
  · by_cases reserved : policy.isReserved segment = true
    · rw [wrap_segment_of_reserved star reserved]
      have quote : "\"".toList = ['"'] := rfl
      simp [quotedForm, quote, unquoted, toList_upper, toList_double, upper_chars_mark_iff is,
        mem_doubled_iff]
    · rw [wrapSegment, if_neg star, if_neg reserved]

theorem mem_wrap_iff (policy : Policy) (is : IsMark mark) (unquoted : mark ≠ '"') (name : String) :
    mark ∈ (policy.wrap name).toList ↔ mark ∈ name.toList := by
  have whole : ".".intercalate (splitAt '.' name) = name := intercalate_split rfl name
  have pieces : (∃ piece ∈ (splitAt '.' name).map policy.wrapSegment, mark ∈ piece.toList) ↔
      ∃ segment ∈ splitAt '.' name, mark ∈ segment.toList := by
    simp [policy.mem_wrap_segment_iff is unquoted]
  calc mark ∈ (policy.wrap name).toList
      ↔ mark ∈ (".".intercalate (splitAt '.' name)).toList := by
        rw [wrap, mem_intercalate_iff, mem_intercalate_iff, pieces, List.length_map]
    _ ↔ mark ∈ name.toList := by rw [whole]

end Identifier.Policy

def nameSeparators : List Char := ['.', '-']

def nameQuotes : List Char := ['"', '\'', '`']

def IsPlainSegment (name : String) : Prop := FreeOf (nameSeparators ++ nameQuotes) name

instance : DecidablePred IsPlainSegment := fun name =>
  inferInstanceAs (Decidable (FreeOf (nameSeparators ++ nameQuotes) name))

theorem quote_cases {mark : Char} (quote : mark ∈ nameQuotes) :
    mark = '"' ∨ mark = '\'' ∨ mark = '`' := by
  simpa [nameQuotes] using quote

theorem separator_cases {mark : Char} (divides : mark ∈ nameSeparators) :
    mark = '.' ∨ mark = '-' := by
  simpa [nameSeparators] using divides

theorem plain_segment_iff (name : String) :
    IsPlainSegment name ↔ FreeOf nameSeparators name ∧ FreeOf nameQuotes name :=
  List.forall_mem_append

namespace Blueprint

theorem index_name_separator_free (blueprint : Blueprint) (kindWord : String)
    (columns : List String) : FreeOf nameSeparators (blueprint.indexName kindWord columns) := by
  obtain ⟨hyphen, dot⟩ := blueprint.separator_not_mem_index_name kindWord columns
  intro mark divides
  rcases separator_cases divides with rfl | rfl
  · exact dot
  · exact hyphen

theorem mem_index_name_iff (blueprint : Blueprint) {mark : Char} (quote : mark ∈ nameQuotes)
    (kind : IndexKind) (columns : List String) :
    mark ∈ (blueprint.indexName kind.word columns).toList ↔
      ∃ part ∈ blueprint.tablePrefix :: blueprint.table :: columns, mark ∈ part.toList := by
  obtain ⟨sign, joined, hyphen, dot, glue, wordless⟩ : IsSign mark ∧ mark ≠ '_' ∧ mark ≠ '-' ∧
      mark ≠ '.' ∧ mark ∉ "_".toList ∧ mark ∉ kind.word.toList := by
    rcases quote_cases quote with rfl | rfl | rfl <;> cases kind <;> decide
  have whole : mark ∈ (blueprint.tablePrefix ++ blueprint.table ++ "_" ++ "_".intercalate columns
      ++ "_" ++ kind.word).toList ↔
        ∃ part ∈ blueprint.tablePrefix :: blueprint.table :: columns, mark ∈ part.toList := by
    simp only [String.toList_append, List.mem_append, mem_intercalate_iff, glue, wordless, false_and,
      or_false, or_assoc, List.mem_cons, exists_eq_or_imp]
  rw [indexName, String.toList_ofList, List.mem_map, ← whole]
  simp only [plain_name_char_eq_iff joined]
  constructor
  · rintro ⟨c, written, rfl, _⟩
    exact (lower_chars_sign_iff sign).mp written
  · intro written
    exact ⟨mark, (lower_chars_sign_iff sign).mpr written, rfl, hyphen, dot⟩

theorem index_name_quote_free_iff (blueprint : Blueprint) (kind : IndexKind)
    (columns : List String) :
    FreeOf nameQuotes (blueprint.indexName kind.word columns) ↔
      FreeOf nameQuotes blueprint.tablePrefix ∧ FreeOf nameQuotes blueprint.table ∧
        ∀ name ∈ columns, FreeOf nameQuotes name := by
  rw [free_of_parts_iff fun mark quote => blueprint.mem_index_name_iff quote kind columns,
    List.forall_mem_cons, List.forall_mem_cons]

end Blueprint

theorem mem_unquoted_lower_iff {mark : Char} (is : IsSign mark) (text : String) :
    mark ∈ unquotedLower text ↔ mark ∈ text.toList ∧ mark ∉ nameQuotes := by
  rw [unquotedLower, List.mem_filter, lower_chars_sign_iff is]
  simp [nameQuotes, and_assoc]

namespace Grammar

theorem enum_constraint_quote_free (grammar : Grammar) (table column : String) :
    FreeOf nameQuotes (grammar.enumConstraint table column) := by
  intro mark quote
  obtain ⟨sign, glue, ending⟩ : IsSign mark ∧ mark ∉ "_".toList ∧ mark ∉ "_enum".toList := by
    rcases quote_cases quote with rfl | rfl | rfl <;> decide
  simp only [enumConstraint, enumConstraintName, String.toList_append, String.toList_ofList,
    List.mem_append, mem_unquoted_lower_iff sign, quote, not_true_eq_false, and_false, glue, ending,
    or_self, not_false_eq_true]

theorem mem_enum_constraint_iff (grammar : Grammar) {mark : Char} (divides : mark ∈ nameSeparators)
    (table column : String) :
    mark ∈ (grammar.enumConstraint table column).toList ↔
      ∃ part ∈ [grammar.settings.tablePrefix, table, column], mark ∈ part.toList := by
  obtain ⟨is, unquoted, quoteless, glue, ending⟩ : IsMark mark ∧ mark ≠ '"' ∧
      mark ∉ nameQuotes ∧ mark ∉ "_".toList ∧ mark ∉ "_enum".toList := by
    rcases separator_cases divides with rfl | rfl <;> decide
  simp only [enumConstraint, enumConstraintName, prefixedTable, wrap, String.toList_append,
    String.toList_ofList, List.mem_append, mem_unquoted_lower_iff is.sign, quoteless, glue, ending,
    grammar.policy.mem_wrap_iff is unquoted, not_false_eq_true, and_true, or_false, or_assoc,
    List.mem_cons, List.not_mem_nil, exists_eq_or_imp, exists_eq_left]

theorem enum_constraint_separator_free_iff (grammar : Grammar) (table column : String) :
    FreeOf nameSeparators (grammar.enumConstraint table column) ↔
      FreeOf nameSeparators grammar.settings.tablePrefix ∧ FreeOf nameSeparators table ∧
        FreeOf nameSeparators column := by
  rw [free_of_parts_iff fun mark divides => grammar.mem_enum_constraint_iff divides table column]
  simp only [List.forall_mem_cons, List.not_mem_nil, false_imp_iff, implies_true, and_true]

/-- The generated name of a key or index has no separators, and no quotes exactly if the prefix, the
table and the columns have none. The name of a check has no quotes, and no separators exactly if the
prefix, the table and the column have none. -/
theorem generated_names_plain_iff (grammar : Grammar) (blueprint : Blueprint) :
    (∀ (kind : IndexKind) (columns : List String),
      FreeOf nameSeparators (blueprint.indexName kind.word columns) ∧
        (IsPlainSegment (blueprint.indexName kind.word columns) ↔
          FreeOf nameQuotes blueprint.tablePrefix ∧ FreeOf nameQuotes blueprint.table ∧
            ∀ name ∈ columns, FreeOf nameQuotes name)) ∧
      ∀ table column : String,
        FreeOf nameQuotes (grammar.enumConstraint table column) ∧
          (IsPlainSegment (grammar.enumConstraint table column) ↔
            FreeOf nameSeparators grammar.settings.tablePrefix ∧ FreeOf nameSeparators table ∧
              FreeOf nameSeparators column) := by
  constructor
  · intro kind columns
    have apart := blueprint.index_name_separator_free kind.word columns
    rw [plain_segment_iff, ← blueprint.index_name_quote_free_iff kind columns]
    exact ⟨apart, and_iff_right apart⟩
  · intro table column
    have unquoted := grammar.enum_constraint_quote_free table column
    rw [plain_segment_iff, ← grammar.enum_constraint_separator_free_iff table column]
    exact ⟨unquoted, and_iff_left unquoted⟩

def shopOrders : Blueprint :=
  { table := "shop.orders"
    columns := [{ name := "pay-state", type := .enum, allowed := ["open", "paid"] }] }

def quotedOrders : Blueprint := { table := "o`rder\"s" }

/-- The name of a check keeps dots and hyphens, and the name of an index keeps quotes. -/
theorem generated_names_not_plain :
    (toSql {} shopOrders).2 =
        .ok ["alter table shop.orders add pay-state varchar2(255 char) null constraint shop.orders_pay-state_enum check (pay-state in ('open', 'paid'))"] ∧
      enumConstraint {} shopOrders.table "pay-state" = "shop.orders_pay-state_enum" ∧
      ¬ IsPlainSegment (enumConstraint {} shopOrders.table "pay-state") ∧
      quotedOrders.indexName IndexKind.unique.word ["it's"] = "o`rder\"s_it's_unique" ∧
      ¬ IsPlainSegment (quotedOrders.indexName IndexKind.unique.word ["it's"]) := by
  decide +kernel

end Grammar

end SchemaBlueprint
