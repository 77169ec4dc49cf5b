import SchemaBlueprint.Blueprint.Basic
import SchemaBlueprint.Proofs.Punctuation

/-!
The names that keys and indexes get when they are given none.
-/

namespace SchemaBlueprint

set_option autoImplicit false

theorem Text.lower_chars_ne_nil {chars : List Char} (filled : chars ≠ []) :
    Text.lowerChars chars ≠ [] := by
  cases chars with
  | nil => exact absurd rfl filled
  | cons c rest =>
      simp only [Text.lowerChars, Text.lowerAfter]
      split
      · simp
      · exact List.append_ne_nil_of_left_ne_nil (Text.lower_char_ne_nil c) _

theorem Blueprint.plain_name_char_eq_iff {c mark : Char} (joined : mark ≠ '_') :
    plainNameChar c = mark ↔ c = mark ∧ c ≠ '-' ∧ c ≠ '.' := by
  unfold plainNameChar
  constructor
  · intro same
    split at same
    · exact absurd same.symm joined
    · rename_i kept
      simpa [same] using kept
  · rintro ⟨rfl, hyphen, dot⟩
    simp [hyphen, dot]

theorem Blueprint.separator_not_mem_index_name (blueprint : Blueprint) (kindWord : String)
    (columns : List String) :
    '-' ∉ (blueprint.indexName kindWord columns).toList ∧
      '.' ∉ (blueprint.indexName kindWord columns).toList := by
  rw [indexName, String.toList_ofList]
  constructor
  · intro hyphen
    obtain ⟨c, _, plain⟩ := List.mem_map.mp hyphen
    obtain ⟨same, apart, _⟩ := (plain_name_char_eq_iff (by decide)).mp plain
    exact apart same
  · intro dot
    obtain ⟨c, _, plain⟩ := List.mem_map.mp dot
    obtain ⟨same, _, apart⟩ := (plain_name_char_eq_iff (by decide)).mp plain
    exact apart same

theorem Blueprint.index_name_ne_empty (blueprint : Blueprint) (kindWord : String)
    (columns : List String) : blueprint.indexName kindWord columns ≠ "" := by
  intro empty
  have chars := congrArg String.toList empty
  simp only [Blueprint.indexName, String.toList_ofList, String.toList_empty,
    List.map_eq_nil_iff] at chars
  refine Text.lower_chars_ne_nil ?_ chars
  simp

end SchemaBlueprint
