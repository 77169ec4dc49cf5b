import SchemaBlueprint.Identifier
import SchemaBlueprint.Proofs.Punctuation
import Mathlib.Data.List.Forall2

/-!
Names and how they are written. A written name has the same segments as the name itself, each of
them bare or between quotes, so what is written can be held against the name segment by segment.
-/

namespace SchemaBlueprint

set_option autoImplicit false

namespace Text

theorem intercalate_split {separator : Char} {glue : String} (single : glue.toList = [separator])
    (text : String) : glue.intercalate (splitAt separator text) = text := by
  obtain ⟨chars, rfl⟩ : ∃ chars, text = String.ofList chars := ⟨text.toList, by simp⟩
  rw [splitAt, String.toList_ofList]
  induction chars with
  | nil => rfl
  | cons c rest ih =>
      obtain ⟨segment, others, cut⟩ := List.exists_cons_of_ne_nil (segments_ne_nil separator rest)
      rw [segments, cut, ← String.toList_inj, String.toList_ofList]
      rw [cut, ← String.toList_inj, String.toList_ofList, List.map_cons] at ih
      dsimp only
      split
      · rename_i same
        rw [List.map_cons, List.map_cons, String.intercalate_cons_cons, String.toList_append,
          String.toList_append, ih, single, same]
        rfl
      · cases others with
        | nil => simpa using ih
        | cons next others =>
            simp only [List.map_cons, String.intercalate_cons_cons, String.toList_append,
              String.toList_ofList, List.cons_append] at ih ⊢
            rw [ih]

end Text

namespace Identifier.Policy

/-- A reserved word as it has to be written: in upper case between double quotes, with the quotes
in it doubled. -/
def quotedForm (segment : String) : String :=
  "\"" ++ Text.upper (Text.double '"' segment) ++ "\""

variable {policy : Policy} {name segment : String}

theorem upper_quoted (text : String) :
    Text.upper ("\"" ++ text ++ "\"") = "\"" ++ Text.upper text ++ "\"" := by
  have quote : Text.upperChars ['"'] = ['"'] := by decide
  rw [← String.toList_inj]
  simp only [Text.toList_upper, String.toList_append, Text.upperChars_append]
  rw [show "\"".toList = ['"'] from rfl, quote]

theorem wrap_segment_of_reserved (named : segment ≠ "*")
    (reserved : policy.isReserved segment = true) :
    policy.wrapSegment segment = quotedForm segment := by
  rw [wrapSegment, if_neg named, if_pos reserved, upper_quoted, quotedForm]

theorem quoted_form_ne (segment : String) : quotedForm segment ≠ segment := by
  intro same
  have lengths := congrArg (fun text => text.toList.length) same
  have doubled := Text.length_le_doubled '"' segment.toList
  have capital := Text.length_le_upper_chars (Text.doubled '"' segment.toList)
  simp only [quotedForm, String.toList_append, Text.toList_upper, Text.toList_double,
    List.length_append] at lengths
  have quote : "\"".toList.length = 1 := rfl
  omega

theorem dot_not_mem_wrap_segment (apart : '.' ∉ segment.toList) :
    '.' ∉ (policy.wrapSegment segment).toList := by
  unfold wrapSegment
  split
  · exact apart
  · split
    · rw [Text.toList_upper]
      apply Text.upper_chars_mark (by decide)
      simp only [String.toList_append, Text.toList_double, List.mem_append, not_or]
      exact ⟨⟨by decide, fun dot => apart (Text.mem_of_mem_doubled dot)⟩, by decide⟩
    · exact apart

theorem split_wrap (policy : Policy) (name : String) :
    Text.splitAt '.' (policy.wrap name) = (Text.splitAt '.' name).map policy.wrapSegment := by
  apply Text.split_intercalate rfl
  · exact fun empty => Text.segments_ne_nil '.' name.toList
      (List.map_eq_nil_iff.mp (List.map_eq_nil_iff.mp empty))
  · intro piece member
    obtain ⟨segment, cut, rfl⟩ := List.mem_map.mp member
    exact dot_not_mem_wrap_segment (Text.separator_not_mem_split cut)

theorem wrap_segment_eq_empty_iff :
    policy.wrapSegment segment = "" ↔ segment = "" ∧ policy.isReserved "" = false := by
  by_cases star : segment = "*"
  · subst star
    simp [wrapSegment]
  · by_cases reserved : policy.isReserved segment = true
    · rw [wrap_segment_of_reserved star reserved]
      simp only [quotedForm, String.append_eq_empty_iff]
      constructor
      · rintro ⟨⟨quote, _⟩, _⟩
        exact absurd quote (by decide)
      · rintro ⟨rfl, bare⟩
        rw [reserved] at bare
        cases bare
    · rw [wrapSegment, if_neg star, if_neg reserved]
      constructor
      · rintro rfl
        exact ⟨rfl, Bool.eq_false_iff.mpr reserved⟩
      · exact And.left

theorem wrap_eq_empty_iff :
    policy.wrap name = "" ↔ name = "" ∧ policy.isReserved "" = false := by
  constructor
  · intro nothing
    have pieces := split_wrap policy name
    rw [nothing] at pieces
    obtain ⟨segment, cut, bare⟩ := List.map_eq_singleton_iff.mp pieces.symm
    have whole : ".".intercalate (Text.splitAt '.' name) = name := Text.intercalate_split rfl name
    rw [cut, String.intercalate_singleton] at whole
    rw [← whole]
    exact wrap_segment_eq_empty_iff.mp bare
  · rintro ⟨rfl, bare⟩
    exact wrap_segment_eq_empty_iff.mpr ⟨rfl, bare⟩

/-- Whether every reserved segment of a name is quoted where the name is written. The star stands
for all columns and is no name. -/
def QuotesReserved (policy : Policy) (name written : String) : Prop :=
  List.Forall₂ (fun segment piece => segment ≠ "*" → policy.isReserved segment = true →
    piece = quotedForm segment) (Text.splitAt '.' name) (Text.splitAt '.' written)

def Unreserved (policy : Policy) (name : String) : Prop :=
  ∀ segment ∈ Text.splitAt '.' name, segment ≠ "*" → policy.isReserved segment = false

instance (policy : Policy) : DecidablePred policy.Unreserved := fun name =>
  inferInstanceAs (Decidable (∀ segment ∈ Text.splitAt '.' name,
    segment ≠ "*" → policy.isReserved segment = false))

theorem quotes_reserved_wrap (policy : Policy) (name : String) :
    policy.QuotesReserved name (policy.wrap name) := by
  rw [QuotesReserved, split_wrap, List.forall₂_map_right_iff, List.forall₂_same]
  intro segment _ named reserved
  exact wrap_segment_of_reserved named reserved

theorem quotes_reserved_bare_iff : policy.QuotesReserved name name ↔ policy.Unreserved name := by
  rw [QuotesReserved, List.forall₂_same]
  constructor
  · intro quoted segment cut named
    rw [← Bool.not_eq_true]
    exact fun reserved => quoted_form_ne segment (quoted segment cut named reserved).symm
  · intro free segment cut named reserved
    rw [free segment cut named] at reserved
    cases reserved

end Identifier.Policy

end SchemaBlueprint
