import Mathlib.Data.List.Forall2
import SchemaBlueprint.Blueprint.Basic
import SchemaBlueprint.Grammar.Definition

/-!
Spellings of a name, which differ in the case of ASCII letters alone. Whatever is written from names
has the same spellings: cutting, wrapping and joining keep apart only what the names keep apart, and
a change of case takes all spellings to one text, whatever letters stand around.
-/

namespace SchemaBlueprint

set_option autoImplicit false

namespace Text

/-- Texts that differ in the case of ASCII letters alone. -/
def SpelledAlike (left right : String) : Prop := asciiFold left = asciiFold right

instance : DecidableRel SpelledAlike := fun left right =>
  inferInstanceAs (Decidable (asciiFold left = asciiFold right))

theorem to_lower_of_not_ascii {c : Char} (beyond : ¬ c.toNat < 128) : c.toLower = c := by
  have capital : ¬ (c.val ≥ 'A'.val ∧ c.val ≤ 'Z'.val) := by
    intro between
    have low : c.val.toNat ≤ 90 := between.2
    apply beyond
    change c.val.toNat < 128
    omega
  exact dif_neg capital

theorem read_to_lower {α : Type} (read : Char → α)
    (ascii : ∀ code : Fin 128, read (Char.ofNat code).toLower = read (Char.ofNat code)) (c : Char) :
    read c.toLower = read c := by
  by_cases low : c.toNat < 128
  · have own := ascii ⟨c.toNat, low⟩
    rwa [Char.ofNat_toNat] at own
  · rw [to_lower_of_not_ascii low]

theorem in_ranges_of_ascii (ranges : List CodeRange) {c : Char} (low : c.toNat < 128) :
    inRanges ranges c = inRanges (ranges.filter (·.1 < 128)) c := by
  rw [inRanges, inRanges, List.any_filter]
  congr 1
  funext range
  by_cases begins : range.1 < 128
  · simp [begins]
  · have beyond : ¬ range.1 ≤ c.toNat := by omega
    simp [begins, beyond]

theorem in_ranges_to_lower (ranges asciiRanges : List CodeRange)
    (cut : ranges.filter (·.1 < 128) = asciiRanges)
    (ascii : ∀ code : Fin 128, (Char.ofNat code).toLower.toNat < 128 ∧
      inRanges asciiRanges (Char.ofNat code).toLower = inRanges asciiRanges (Char.ofNat code))
    (c : Char) : inRanges ranges c.toLower = inRanges ranges c := by
  by_cases low : c.toNat < 128
  · have own := ascii ⟨c.toNat, low⟩
    rw [Char.ofNat_toNat] at own
    rw [in_ranges_of_ascii ranges low, in_ranges_of_ascii ranges own.1, cut, own.2]
  · rw [to_lower_of_not_ascii low]

theorem is_cased_to_lower (c : Char) : isCased c.toLower = isCased c :=
  in_ranges_to_lower casedRanges [(0x41, 0x5A), (0x61, 0x7A)] (by decide +kernel)
    (by decide +kernel) c

theorem is_case_ignorable_to_lower (c : Char) : isCaseIgnorable c.toLower = isCaseIgnorable c :=
  in_ranges_to_lower caseIgnorableRanges
    [(0x27, 0x27), (0x2E, 0x2E), (0x3A, 0x3A), (0x5E, 0x5E), (0x60, 0x60)] (by decide +kernel)
    (by decide +kernel) c

theorem upper_char_to_lower (c : Char) : upperChar c.toLower = upperChar c :=
  read_to_lower upperChar (by decide +kernel) c

theorem lower_char_to_lower (c : Char) : lowerChar c.toLower = lowerChar c :=
  read_to_lower lowerChar (by decide +kernel) c

theorem to_lower_eq_iff {mark : Char} (plain : mark.isAlpha = false) (c : Char) :
    c.toLower = mark ↔ c = mark := by
  have either : c.toLower = c ∨ c.isAlpha = true ∧ c.toLower.isAlpha = true := by
    by_cases low : c.toNat < 128
    · have ascii : ∀ code : Fin 128, (Char.ofNat code).toLower = Char.ofNat code ∨
          (Char.ofNat code).isAlpha = true ∧ (Char.ofNat code).toLower.isAlpha = true := by
        decide
      have own := ascii ⟨c.toNat, low⟩
      rwa [Char.ofNat_toNat] at own
    · exact .inl (to_lower_of_not_ascii low)
  obtain same | ⟨letter, small⟩ := either
  · rw [same]
  · constructor
    · intro same
      simp [same, plain] at small
    · intro same
      simp [same, plain] at letter

theorem starts_cased_fold (chars : List Char) :
    startsCased (chars.map Char.toLower) = startsCased chars := by
  induction chars with
  | nil => rfl
  | cons c rest ih =>
      simp only [startsCased] at ih ⊢
      rw [List.map_cons, List.dropWhile_cons, List.dropWhile_cons, is_case_ignorable_to_lower]
      cases isCaseIgnorable c with
      | true => exact ih
      | false => exact is_cased_to_lower c

theorem lower_after_fold (before chars : List Char) :
    lowerAfter (before.map Char.toLower) (chars.map Char.toLower) = lowerAfter before chars := by
  induction chars generalizing before with
  | nil => rfl
  | cons c rest ih =>
      -- What stands in front is folded along, since a sigma looks back at it.
      have sigma : c.toLower = 'Σ' ↔ c = 'Σ' := to_lower_eq_iff (by decide) c
      have next := ih (c :: before)
      rw [List.map_cons] at next ⊢
      simp only [lowerAfter, smallSigma, starts_cased_fold, lower_char_to_lower, sigma, next]

theorem lower_chars_fold (chars : List Char) :
    lowerChars (chars.map Char.toLower) = lowerChars chars := lower_after_fold [] chars

theorem upper_chars_fold (chars : List Char) :
    upperChars (chars.map Char.toLower) = upperChars chars := by
  simp only [upperChars, List.flatMap_map, upper_char_to_lower]

theorem doubled_fold {mark : Char} (plain : mark.isAlpha = false) (chars : List Char) :
    doubled mark (chars.map Char.toLower) = (doubled mark chars).map Char.toLower := by
  rw [doubled, doubled, List.flatMap_map, List.map_flatMap]
  congr 1
  funext c
  simp only [to_lower_eq_iff plain]
  split <;> rfl

theorem segments_fold {separator : Char} (plain : separator.isAlpha = false) (chars : List Char) :
    segments separator (chars.map Char.toLower) =
      (segments separator chars).map (List.map Char.toLower) := by
  induction chars with
  | nil => rfl
  | cons c rest ih =>
      simp only [List.map_cons, segments, to_lower_eq_iff plain, ih]
      split
      · rfl
      · cases segments separator rest <;> rfl

namespace SpelledAlike

variable {left right front back : String}

theorem refl (text : String) : SpelledAlike text text := rfl

theorem same_name (alike : SpelledAlike left right) (text : String) :
    sameName left text = sameName right text ∧ sameName text left = sameName text right := by
  rw [sameName, sameName, sameName, sameName, alike]
  exact ⟨rfl, rfl⟩

theorem lower_chars (alike : SpelledAlike left right) :
    lowerChars left.toList = lowerChars right.toList := by
  rw [← lower_chars_fold left.toList, ← lower_chars_fold right.toList]
  exact congrArg lowerChars alike

theorem upper_eq (alike : SpelledAlike left right) : upper left = upper right := by
  rw [upper, upper, ← upper_chars_fold left.toList, ← upper_chars_fold right.toList]
  exact congrArg (fun chars => String.ofList (upperChars chars)) alike

theorem append (first : SpelledAlike left right) (second : SpelledAlike front back) :
    SpelledAlike (left ++ front) (right ++ back) := by
  have joined := congr (congrArg HAppend.hAppend first) second
  simpa [SpelledAlike, asciiFold] using joined

theorem behind (text : String) (alike : SpelledAlike left right) :
    SpelledAlike (text ++ left) (text ++ right) := (refl text).append alike

theorem before (alike : SpelledAlike left right) (text : String) :
    SpelledAlike (left ++ text) (right ++ text) := alike.append (refl text)

theorem intercalate (separator : String) {texts others : List String}
    (alike : List.Forall₂ SpelledAlike texts others) :
    SpelledAlike (separator.intercalate texts) (separator.intercalate others) := by
  induction alike with
  | nil => exact refl _
  | cons head tail ih =>
      cases tail with
      | nil => simpa using head
      | cons next rest =>
          rw [String.intercalate_cons_cons, String.intercalate_cons_cons]
          exact (head.before separator).append ih

theorem join {texts others : List String} (alike : List.Forall₂ SpelledAlike texts others) :
    SpelledAlike (String.join texts) (String.join others) := by
  induction alike with
  | nil => exact refl _
  | cons head _ ih =>
      rw [String.join_cons, String.join_cons]
      exact head.append ih

theorem double {mark : Char} (plain : mark.isAlpha = false) (alike : SpelledAlike left right) :
    SpelledAlike (Text.double mark left) (Text.double mark right) := by
  have marked := congrArg (doubled mark) alike
  rw [asciiFold, asciiFold, doubled_fold plain, doubled_fold plain] at marked
  rwa [SpelledAlike, asciiFold, asciiFold, toList_double, toList_double]

theorem split_at {separator : Char} (plain : separator.isAlpha = false)
    (alike : SpelledAlike left right) :
    List.Forall₂ SpelledAlike (splitAt separator left) (splitAt separator right) := by
  have cut := congrArg (segments separator) alike
  rw [asciiFold, asciiFold, segments_fold plain, segments_fold plain] at cut
  have paired := List.forall₂_eq_eq_eq ▸ cut
  rw [List.forall₂_map_left_iff, List.forall₂_map_right_iff] at paired
  rw [splitAt, splitAt, List.forall₂_map_left_iff, List.forall₂_map_right_iff]
  refine paired.imp fun first second same => ?_
  simpa [SpelledAlike, asciiFold] using same

theorem star_iff (alike : SpelledAlike left right) : left = "*" ↔ right = "*" := by
  have star : ∀ text : String, text = "*" ↔ asciiFold text = ['*'] := by
    intro text
    rw [asciiFold, List.map_eq_singleton_iff]
    constructor
    · intro same
      exact ⟨'*', by simp [same], by decide⟩
    · intro shape
      obtain ⟨c, single, small⟩ := shape
      rw [to_lower_eq_iff (by decide)] at small
      rw [← String.toList_inj, single, small]
      rfl
  rw [star, star, alike]

end SpelledAlike

end Text

open Text

namespace Identifier.Policy

variable {left right : String}

theorem reserved_alike (policy : Policy) (alike : SpelledAlike left right) :
    policy.isReserved left = policy.isReserved right := by
  rw [isReserved, isReserved, alike.upper_eq]

theorem wrap_segment_alike (policy : Policy) (alike : SpelledAlike left right) :
    SpelledAlike (policy.wrapSegment left) (policy.wrapSegment right) := by
  have quoted : SpelledAlike ("\"" ++ double '"' left ++ "\"") ("\"" ++ double '"' right ++ "\"") :=
    ((alike.double (by decide)).behind "\"").before "\""
  unfold wrapSegment
  simp only [alike.star_iff, policy.reserved_alike alike, quoted.upper_eq]
  split
  · exact alike
  · split
    · exact .refl _
    · exact alike

theorem wrap_alike (policy : Policy) (alike : SpelledAlike left right) :
    SpelledAlike (policy.wrap left) (policy.wrap right) := by
  apply SpelledAlike.intercalate
  rw [List.forall₂_map_left_iff, List.forall₂_map_right_iff]
  exact (alike.split_at (by decide)).imp fun _ _ same => policy.wrap_segment_alike same

theorem columnize_alike (policy : Policy) {names others : List String}
    (alike : List.Forall₂ SpelledAlike names others) :
    SpelledAlike (policy.columnize names) (policy.columnize others) := by
  apply SpelledAlike.intercalate
  rw [List.forall₂_map_left_iff, List.forall₂_map_right_iff]
  exact alike.imp fun _ _ same => policy.wrap_alike same

end Identifier.Policy

theorem Blueprint.index_name_eq_of_alike (blueprint : Blueprint) (kindWord : String)
    {columns others : List String} (alike : List.Forall₂ SpelledAlike columns others) :
    blueprint.indexName kindWord columns = blueprint.indexName kindWord others := by
  have joined := SpelledAlike.intercalate "_" alike
  have whole := ((joined.behind (blueprint.tablePrefix ++ blueprint.table ++ "_")).before "_").before
    kindWord
  rw [indexName, indexName, whole.lower_chars]

theorem Grammar.enum_constraint_eq_of_alike (grammar : Grammar) (table : String)
    {column other : String} (alike : SpelledAlike column other) :
    grammar.enumConstraint table column = grammar.enumConstraint table other := by
  have wrapped := grammar.policy.wrap_alike alike
  rw [enumConstraint, enumConstraint, enumConstraintName, enumConstraintName, unquotedLower,
    unquotedLower, unquotedLower, wrap, wrap, wrapped.lower_chars]

end SchemaBlueprint
