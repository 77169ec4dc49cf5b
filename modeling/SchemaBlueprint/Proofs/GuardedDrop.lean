import SchemaBlueprint.Proofs.LiteralData
import SchemaBlueprint.Proofs.PlainNames
import SchemaBlueprint.Proofs.WrittenIdentifier

/-!
A drop that is guarded by a look at the catalog. The block asks the catalog for the table as it is
configured, dots and all, while its statement drops the table as it is written, of which a dot makes
a name in a schema. So the guard asks for what is dropped exactly where the name has no dot.
-/

namespace SchemaBlueprint

set_option autoImplicit false

namespace Text

theorem split_append (front back : String) :
    splitAt '.' (front ++ "." ++ back) = splitAt '.' front ++ splitAt '.' back := by
  have dot : ".".toList = ['.'] := rfl
  rw [splitAt, String.toList_append, String.toList_append, dot, List.append_assoc,
    List.singleton_append, segments_append, List.map_append, ← splitAt, ← splitAt]

theorem split_of_not_mem {text : String} (whole : '.' ∉ text.toList) : splitAt '.' text = [text] := by
  rw [splitAt, segments_of_not_mem whole, List.map_singleton, String.ofList_toList]

theorem last_segment_of_not_mem {text segment : String} (whole : '.' ∉ text.toList)
    (last : (splitAt '.' text).getLast? = some segment) : text = segment := by
  rwa [split_of_not_mem whole, List.getLast?_singleton, Option.some_inj] at last

theorem exists_last_segment (text : String) :
    ∃ segment, (splitAt '.' text).getLast? = some segment := by
  have some_segment : splitAt '.' text ≠ [] := fun empty =>
    segments_ne_nil '.' text.toList (List.map_eq_nil_iff.mp empty)
  exact ⟨_, List.getLast?_eq_some_getLast some_segment⟩

end Text

structure GuardedDrop where
  probed : String
  dropped : String
  deriving DecidableEq

def droppedTable? (statement : String) : Option String :=
  ("drop table ".toList.isPrefixOf? statement.toList).map String.ofList

/-- A guarded drop as the server reads it, which decodes the literals of the block. -/
def guardedDrop? (block : String) : Option GuardedDrop :=
  match literals? block with
  | some [probed, statement] => (droppedTable? statement).map (GuardedDrop.mk probed)
  | _ => none

def lastName? (name : String) : Option String :=
  match (Text.splitAt '.' name).getLast?.bind Identifier.identifiers? with
  | some [identifier] => some identifier.denoted
  | _ => none

namespace Identifier.Policy

variable {policy : Policy} {name segment : String}

theorem wrap_segment_of_unreserved (bare : policy.isReserved segment = false) :
    policy.wrapSegment segment = segment := by
  rw [wrapSegment, bare, if_neg Bool.false_ne_true, ite_self]

theorem whole_of_denoted {identifier : Written}
    (last : (Text.splitAt '.' name).getLast? = some segment)
    (read : identifiers? (policy.wrapSegment segment) = some [identifier])
    (denoted : identifier.denoted = Text.upper name) :
    '.' ∉ name.toList ∧ ('"' ∉ name.toList ∨ policy.isReserved name = true) := by
  have cut : segment ∈ Text.splitAt '.' name := List.mem_of_getLast? last
  have apart : '.' ∉ (policy.wrapSegment segment).toList :=
    dot_not_mem_wrap_segment (Text.separator_not_mem_split cut)
  have forms := identifiers_of_dotless apart read
  have dotless : '.' ∉ name.toList := by
    -- No form of an identifier denotes a dot that it is not written with.
    rw [← Text.upper_chars_mark_iff (by decide), ← Text.toList_upper, ← denoted]
    rcases forms with ⟨same, -⟩ | ⟨content, same, text⟩
    · cases same
      rw [Written.denoted, Text.toList_upper]
      exact Text.upper_chars_mark (by decide) apart
    · cases same
      intro dot
      apply apart
      rw [text, String.toList_append, String.toList_append, Text.toList_double, List.mem_append,
        List.mem_append, Text.mem_doubled_iff]
      exact .inl (.inr dot)
  refine ⟨dotless, ?_⟩
  obtain rfl := Text.last_segment_of_not_mem dotless last
  cases reserved : policy.isReserved name with
  | true => exact .inr rfl
  | false =>
      rw [wrap_segment_of_unreserved reserved] at forms
      rcases forms with ⟨-, unquoted⟩ | ⟨content, same, text⟩
      · exact .inl unquoted
      · cases same
        have content_eq : content = Text.upper name := denoted
        rw [content_eq, ← quoted_form_eq] at text
        exact absurd text.symm (quoted_form_ne name)

end Identifier.Policy

namespace Grammar

theorem guarded_drop_of_block (grammar : Grammar) (table : String) :
    guardedDrop? (grammar.dropIfExistsBlock table) =
      some ⟨grammar.prefixedTable table, grammar.wrapTable table⟩ := by
  have dropped : droppedTable? (grammar.dropStatement table) = some (grammar.wrapTable table) := by
    have behind : "drop table ".toList.isPrefixOf? (grammar.dropStatement table).toList =
        some (grammar.wrapTable table).toList := by
      rw [List.isPrefixOf?_eq_some_iff_append_eq, dropStatement, String.toList_append]
    rw [droppedTable?, behind, Option.map_some, String.ofList_toList]
  simp only [guardedDrop?, drop_if_exists_literals, dropped, Option.map_some]

theorem last_segment_of_wrapped (grammar : Grammar) (table : String) :
    (Text.splitAt '.' (grammar.wrapTable table)).getLast? =
      (Text.splitAt '.' (grammar.prefixedTable table)).getLast?.map grammar.policy.wrapSegment := by
  have own : (Text.splitAt '.' (grammar.wrap (grammar.prefixedTable table))).getLast? =
      (Text.splitAt '.' (grammar.prefixedTable table)).getLast?.map grammar.policy.wrapSegment := by
    rw [wrap, Identifier.Policy.split_wrap, List.getLast?_map]
  obtain ⟨segment, last⟩ := Text.exists_last_segment (grammar.wrap (grammar.prefixedTable table))
  unfold wrapTable
  dsimp only
  split
  · exact own
  · rw [Text.split_append, List.getLast?_append, last, Option.some_or, ← last, own]

/-- The literals of the block are the table with its prefix and the drop of the table as it is
written. The catalog is asked for the table that is dropped exactly if the table with its prefix has
no dot, and no double quote unless it is reserved as a whole. -/
theorem guard_asks_for_dropped_table_iff (grammar : Grammar) (table : String) :
    ∃ guarded, guardedDrop? (grammar.dropIfExistsBlock table) = some guarded ∧
      guarded.probed = grammar.prefixedTable table ∧
      guarded.dropped = grammar.wrapTable table ∧
      (lastName? guarded.dropped = some (Text.upper guarded.probed) ↔
        '.' ∉ (grammar.prefixedTable table).toList ∧
          ('"' ∉ (grammar.prefixedTable table).toList ∨
            grammar.policy.isReserved (grammar.prefixedTable table) = true)) := by
  refine ⟨_, grammar.guarded_drop_of_block table, rfl, rfl, ?_⟩
  obtain ⟨segment, last⟩ := Text.exists_last_segment (grammar.prefixedTable table)
  have written := grammar.last_segment_of_wrapped table
  rw [last, Option.map_some] at written
  simp only [lastName?, written, Option.bind_some]
  constructor
  · intro named
    split at named
    · rename_i identifier read
      exact Identifier.Policy.whole_of_denoted last read (Option.some.inj named)
    · cases named
  · rintro ⟨dotless, readable⟩
    obtain rfl := Text.last_segment_of_not_mem dotless last
    have unquoted (bare : grammar.policy.isReserved (grammar.prefixedTable table) = false) :
        '"' ∉ (grammar.prefixedTable table).toList :=
      readable.resolve_right (by simp [bare])
    have reads := Identifier.Policy.reads_wrap_segment dotless unquoted
    rw [Identifier.identifiers_of_reads reads]
    exact congrArg some Identifier.Policy.denoted_written_segment

/-- The guard of a table in a schema asks the catalog for another name than that of the table. -/
theorem dotted_table_guarded_in_vain :
    Text.FreeOf nameQuotes "app.orders" ∧
      guardedDrop? (dropIfExistsBlock {} "app.orders") = some ⟨"app.orders", "app.orders"⟩ ∧
      lastName? "app.orders" = some "ORDERS" ∧
      Text.upper "app.orders" = "APP.ORDERS" := by
  have written : (⟨prefixedTable {} "app.orders", wrapTable {} "app.orders"⟩ : GuardedDrop) =
      ⟨"app.orders", "app.orders"⟩ := by
    decide +kernel
  refine ⟨by decide, ?_, by decide +kernel, by decide +kernel⟩
  rw [guarded_drop_of_block, written]

end Grammar

end SchemaBlueprint
