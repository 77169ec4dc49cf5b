import SchemaBlueprint.Text.Blank

/-!
White space at the ends of a text. Adding some changes nothing of what trimming leaves, and a text
that has none at its ends is left as it is.
-/

namespace SchemaBlueprint.Text

set_option autoImplicit false

theorem dropWhile_blank {blank : List Char} (all : ∀ c ∈ blank, isBlank c = true)
    (rest : List Char) : (blank ++ rest).dropWhile isBlank = rest.dropWhile isBlank := by
  induction blank with
  | nil => rfl
  | cons c others ih =>
      obtain ⟨head, tail⟩ := List.forall_mem_cons.mp all
      rw [List.cons_append, List.dropWhile_cons_of_pos head]
      exact ih tail

theorem trim_chars_around {front back : List Char} (frontBlank : ∀ c ∈ front, isBlank c = true)
    (backBlank : ∀ c ∈ back, isBlank c = true) (chars : List Char) :
    trimChars (front ++ chars ++ back) = trimChars chars := by
  have backReversed : ∀ c ∈ back.reverse, isBlank c = true := fun c member =>
    backBlank c (List.mem_reverse.mp member)
  rw [trimChars, List.append_assoc, dropWhile_blank frontBlank, List.dropWhile_append]
  cases left : chars.dropWhile isBlank with
  | nil =>
      have nothing := dropWhile_blank backBlank []
      rw [List.append_nil, List.dropWhile_nil] at nothing
      simp [trimChars, left, nothing]
  | cons c rest =>
      rw [List.isEmpty_cons, if_neg Bool.false_ne_true, List.reverse_append,
        dropWhile_blank backReversed, trimChars, left]

theorem trim_chars_of_ends {chars : List Char}
    (head : ∀ c, chars.head? = some c → isBlank c = false)
    (last : ∀ c, chars.getLast? = some c → isBlank c = false) : trimChars chars = chars := by
  have kept : ∀ text : List Char, (∀ c, text.head? = some c → isBlank c = false) →
      text.dropWhile isBlank = text := by
    intro text first
    cases text with
    | nil => rfl
    | cons c rest => exact List.dropWhile_cons_of_neg (by simpa using first c rfl)
  have lastReversed : ∀ c, chars.reverse.head? = some c → isBlank c = false := by
    intro c first
    exact last c (List.head?_reverse ▸ first)
  rw [trimChars, kept chars head, kept _ lastReversed, List.reverse_reverse]

theorem trim_chars_of_no_blank {chars : List Char} (none : ∀ c ∈ chars, isBlank c = false) :
    trimChars chars = chars :=
  trim_chars_of_ends (fun c first => none c (List.mem_of_head? first))
    (fun c last => none c (List.mem_of_getLast? last))

theorem trim_chars_prefix (chars : List Char) : trimChars chars <+: chars.dropWhile isBlank := by
  have kept := List.reverse_prefix.mpr
    (List.dropWhile_suffix isBlank (l := (chars.dropWhile isBlank).reverse))
  rwa [List.reverse_reverse] at kept

theorem trim_chars_split (chars : List Char) :
    ∃ front back, chars = front ++ trimChars chars ++ back := by
  obtain ⟨back, kept⟩ := trim_chars_prefix chars
  refine ⟨chars.takeWhile isBlank, back, ?_⟩
  rw [List.append_assoc, kept, List.takeWhile_append_dropWhile]

theorem mem_of_mem_trim_chars {c : Char} {chars : List Char} (member : c ∈ trimChars chars) :
    c ∈ chars := by
  obtain ⟨front, back, split⟩ := trim_chars_split chars
  rw [split]
  exact List.mem_append_left _ (List.mem_append_right _ member)

theorem trim_chars_head_not_blank (chars : List Char) :
    ¬ ∃ c, (trimChars chars).head? = some c ∧ isBlank c = true := by
  rintro ⟨c, first, blank⟩
  obtain ⟨back, kept⟩ := trim_chars_prefix chars
  have own := List.head?_dropWhile_not isBlank chars
  rw [← kept, List.head?_append, first, Option.some_or] at own
  simp [blank] at own

theorem trim_chars_last_not_blank (chars : List Char) :
    ¬ ∃ c, (trimChars chars).getLast? = some c ∧ isBlank c = true := by
  rintro ⟨c, last, blank⟩
  have own := List.head?_dropWhile_not isBlank (chars.dropWhile isBlank).reverse
  rw [trimChars, List.getLast?_reverse] at last
  rw [last] at own
  simp [blank] at own

end SchemaBlueprint.Text
