import SchemaBlueprint.Catalog.Listing
import SchemaBlueprint.Proofs.Literals
import SchemaBlueprint.Proofs.Trimming

/-!
Defaults as a column definition gives them and as the catalog tells them. The catalog stores the text
of a default, perhaps with white space around it. What is read from it has lost one pair of quotes,
so a value comes back as it stands inside its literal and an expression as it is, unless it begins
and ends with a quote of its own.
-/

namespace SchemaBlueprint

set_option autoImplicit false

open Catalog

theorem escape_literal_eq_self_iff {text : String} :
    escapeLiteral text = text ↔ QuoteFree text := by
  rw [← String.toList_inj, toList_escapeLiteral, Text.doubled_eq_self_iff, QuoteFree]

def EnclosedBy (text content : String) : Prop := text = "'" ++ content ++ "'"

namespace Catalog

theorem unquote_eq_some_iff {chars content : List Char} :
    unquote? chars = some content ↔ chars = '\'' :: content ++ ['\''] := by
  constructor
  · intro found
    unfold unquote? at found
    split at found
    · rename_i rest
      split at found
      · rename_i last
        cases found
        have ended : rest.getLast? = some '\'' := by simpa using last
        rw [List.cons_append, List.dropLast_append_getLast? _ ended]
      · cases found
    · cases found
  · rintro rfl
    simp [unquote?]

theorem enclosed_trim_iff {stored content : String} :
    EnclosedBy (Text.trim stored) content ↔
      unquote? (Text.trimChars stored.toList) = some content.toList := by
  rw [unquote_eq_some_iff, EnclosedBy, ← String.toList_inj, Text.toList_trim, String.toList_append,
    String.toList_append]
  rfl

theorem parse_default_of_enclosed {stored content : String}
    (enclosed : EnclosedBy (Text.trim stored) content) :
    parseDefault (some stored) = some content := by
  have inner := enclosed_trim_iff.mp enclosed
  simp only [parseDefault, Option.map_some, inner, Option.getD_some, String.ofList_toList]

theorem parse_default_of_not_enclosed {stored : String}
    (bare : ¬ ∃ content, EnclosedBy (Text.trim stored) content) :
    parseDefault (some stored) = some (Text.trim stored) := by
  have none : unquote? (Text.trimChars stored.toList) = none := by
    rw [Option.eq_none_iff_forall_not_mem]
    intro inner found
    refine bare ⟨String.ofList inner, enclosed_trim_iff.mpr ?_⟩
    rwa [String.toList_ofList]
  simp only [parseDefault, Option.map_some, none, Option.getD_none, Text.trim]

theorem parse_default_eq_trim_iff (stored : String) :
    parseDefault (some stored) = some (Text.trim stored) ↔
      ¬ ∃ content, EnclosedBy (Text.trim stored) content := by
  refine ⟨?_, parse_default_of_not_enclosed⟩
  rintro kept ⟨content, enclosed⟩
  rw [parse_default_of_enclosed enclosed, Option.some.injEq] at kept
  have lengths := congrArg String.length (kept.trans enclosed)
  simp only [String.length_append] at lengths
  have quote : "'".length = 1 := rfl
  omega

section Stored

variable {front back : String} (frontBlank : ∀ c ∈ front.toList, Text.isBlank c = true)
  (backBlank : ∀ c ∈ back.toList, Text.isBlank c = true)

include frontBlank backBlank

theorem trim_stored (text : String) : Text.trim (front ++ text ++ back) = Text.trim text := by
  rw [Text.trim, Text.trim, String.toList_append, String.toList_append,
    Text.trim_chars_around frontBlank backBlank]

theorem parse_default_quoted (content : String) :
    parseDefault (some (front ++ ("'" ++ content ++ "'") ++ back)) = some content := by
  apply parse_default_of_enclosed
  have quoted : ("'" ++ content ++ "'").toList = '\'' :: content.toList ++ ['\''] := by
    simp
  have settled : Text.trimChars ("'" ++ content ++ "'").toList = ("'" ++ content ++ "'").toList := by
    rw [quoted]
    apply Text.trim_chars_of_ends
    · rintro c first
      cases first
      decide
    · intro c last
      rw [List.cons_append, List.getLast?_cons, List.getLast?_concat] at last
      cases last
      decide
  rw [EnclosedBy, trim_stored frontBlank backBlank, Text.trim, settled, String.ofList_toList]

/-- A text comes back as it stands in its literal, where its quotes are doubled, and so it comes back
as it was just when it has none. Whole numbers and booleans come back as their digits. An expression
comes back without the white space around it just when it does not both begin and end with a
quote. -/
theorem stored_defaults_read :
    (∀ text, parseDefault (some (front ++ (DefaultValue.text text).literal ++ back)) =
      some (escapeLiteral text)) ∧
    (∀ text, parseDefault (some (front ++ (DefaultValue.text text).literal ++ back)) = some text ↔
      QuoteFree text) ∧
    (∀ number, parseDefault (some (front ++ (DefaultValue.int number).literal ++ back)) =
      some (Decimal.intText number.toInt)) ∧
    (∀ flag, parseDefault (some (front ++ (DefaultValue.bool flag).literal ++ back)) =
      some (if flag then "1" else "0")) ∧
    ∀ sql, parseDefault (some (front ++ (DefaultValue.expression sql).literal ++ back)) =
        some (Text.trim sql) ↔
      ¬ ∃ content, EnclosedBy (Text.trim sql) content := by
  have quoted := parse_default_quoted frontBlank backBlank
  have texts : ∀ text, parseDefault (some (front ++ (DefaultValue.text text).literal ++ back)) =
      some (escapeLiteral text) := fun text => quoted (escapeLiteral text)
  refine ⟨texts, ?_, fun number => quoted _, ?_, ?_⟩
  · intro text
    rw [texts, Option.some.injEq, escape_literal_eq_self_iff]
  · intro flag
    cases flag with
    | true => exact quoted "1"
    | false => exact quoted "0"
  · intro sql
    have trimmed := trim_stored frontBlank backBlank sql
    rw [DefaultValue.literal, ← trimmed]
    exact parse_default_eq_trim_iff _

end Stored

theorem stored_defaults_read_padded :
    parseDefault (some (" " ++ (DefaultValue.text "'tis").literal ++ "\n")) = some "''tis" ∧
      parseDefault (some (" " ++ (DefaultValue.int 7).literal ++ "\n")) = some "7" ∧
      parseDefault (some (" " ++ (DefaultValue.expression "x || 'y'").literal ++ "\n")) =
        some "x || 'y'" := by
  have frontBlank : ∀ c ∈ " ".toList, Text.isBlank c = true :=
    List.all_eq_true.mp (by decide)
  have backBlank : ∀ c ∈ "\n".toList, Text.isBlank c = true :=
    List.all_eq_true.mp (by decide)
  obtain ⟨texts, -, numbers, -, expressions⟩ := stored_defaults_read frontBlank backBlank
  refine ⟨texts "'tis", numbers 7, ?_⟩
  have settled : Text.trim "x || 'y'" = "x || 'y'" := by decide +kernel
  rw [expressions "x || 'y'" |>.mpr, settled]
  rintro ⟨content, enclosed⟩
  rw [settled, EnclosedBy, ← String.toList_inj, String.toList_append,
    String.toList_append] at enclosed
  cases enclosed

/-- The quotes of a text come back doubled, and an expression that begins and ends with a quote but
is no literal loses both. -/
theorem quotes_in_defaults_change :
    parseDefault (some (DefaultValue.text "it's").literal) = some "it''s" ∧
    "it''s" ≠ "it's" ∧
    (∀ content, Text.trim "'a' || 'b'" ≠ sqlLiteral content) ∧
    parseDefault (some (DefaultValue.expression "'a' || 'b'").literal) = some "a' || 'b" ∧
    "a' || 'b" ≠ Text.trim "'a' || 'b'" := by
  refine ⟨by decide +kernel, by decide, ?_, by decide +kernel, by decide +kernel⟩
  intro content same
  have one := literals_of_reads (reads_literal content)
  have two : literals? (Text.trim "'a' || 'b'") = some ["a", "b"] := by decide +kernel
  rw [← same, two] at one
  cases one

end Catalog

end SchemaBlueprint
