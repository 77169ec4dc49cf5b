import SchemaBlueprint.Text.Case
import SchemaBlueprint.Text.Segment

/-!
Punctuation: the quotes around names, the dots within them and what joins their words. These marks
stand in front of the letters in the order of characters, so a change of case neither makes one nor
takes one away.
-/

namespace SchemaBlueprint.Text

set_option autoImplicit false

/-- A character in front of all letters that is not the null character. -/
def IsMark (mark : Char) : Prop := 0 < mark.toNat ∧ mark.toNat < 0x41

instance : DecidablePred IsMark := fun mark =>
  inferInstanceAs (Decidable (0 < mark.toNat ∧ mark.toNat < 0x41))

/-- A character in front of the small letters that is neither a capital nor the null character. -/
def IsSign (sign : Char) : Prop := 0 < sign.toNat ∧ sign.toNat < 0x61 ∧ sign.isAlpha = false

instance : DecidablePred IsSign := fun sign =>
  inferInstanceAs (Decidable (0 < sign.toNat ∧ sign.toNat < 0x61 ∧ sign.isAlpha = false))

theorem IsMark.sign {mark : Char} (is : IsMark mark) : IsSign mark := by
  have ascii : ∀ code : Fin 0x41, (Char.ofNat code).isAlpha = false := by decide
  have own := ascii ⟨mark.toNat, is.2⟩
  rw [Char.ofNat_toNat] at own
  have low := is.2
  exact ⟨is.1, by omega, own⟩

theorem code_of_char {code : Nat} {c : Char} (positive : 0 < c.toNat)
    (written : Char.ofNat code = c) : code = c.toNat := by
  by_cases valid : code.isValidChar
  · have spelled : Char.ofNat code = Char.ofNatAux code valid := dif_pos valid
    exact congrArg Char.toNat (spelled.symm.trans written)
  · -- What is no character at all is read as the null character.
    have null : Char.ofNat code = '\x00' := dif_neg valid
    rw [← written, null] at positive
    exact absurd positive (by decide)

theorem image_not_below {c : Char} (positive : 0 < c.toNat) {runs : List CaseRun}
    (behind : ∀ run ∈ runs, c.toNat < run.target) {code image : Nat}
    (found : imageIn? runs code = some image) : Char.ofNat image ≠ c := by
  -- A run sends its letters to its target and beyond.
  intro written
  obtain ⟨run, member, sent⟩ := List.exists_of_findSome?_eq_some found
  have letter := behind run member
  have number := code_of_char positive written
  simp only [CaseRun.image?, Option.ite_none_right_eq_some, Option.some.injEq] at sent
  omega

theorem ascii_case_low : ∀ code : Fin 128,
    ((Char.ofNat code).toUpper.toNat < 0x41 → (Char.ofNat code).toUpper = Char.ofNat code) ∧
      ((Char.ofNat code).toLower.toNat < 0x61 → (Char.ofNat code).toLower = Char.ofNat code) := by
  decide

theorem upper_char_mark {mark c : Char} (is : IsMark mark) (written : mark ∈ upperChar c) :
    c = mark := by
  unfold upperChar at written
  split at written
  · rename_i ascii
    have own := (ascii_case_low ⟨c.toNat, ascii⟩).1
    rw [Char.ofNat_toNat, ← List.mem_singleton.mp written] at own
    exact (own is.2).symm
  · split at written
    · rename_i codes found
      have letters : ∀ expansion ∈ capitalExpansions, ∀ code ∈ expansion.2, 0x41 ≤ code := by
        decide +kernel
      obtain ⟨code, member, same⟩ := List.mem_map.mp written
      obtain ⟨before, after, listed, _⟩ := List.lookup_eq_some_iff.mp found
      have here : (c.toNat, codes) ∈ capitalExpansions := by simp [listed]
      have letter := letters _ here code member
      have number := code_of_char is.1 same
      have low := is.2
      omega
    · split at written
      · rename_i image found
        have letters : ∀ run ∈ capitalRuns, 0x41 ≤ run.target := by decide +kernel
        have behind : ∀ run ∈ capitalRuns, mark.toNat < run.target := fun run member =>
          Nat.lt_of_lt_of_le is.2 (letters run member)
        exact absurd (List.mem_singleton.mp written).symm (image_not_below is.1 behind found)
      · exact (List.mem_singleton.mp written).symm

theorem lower_char_sign {sign c : Char} (is : IsSign sign) (written : sign ∈ lowerChar c) :
    c = sign := by
  unfold lowerChar at written
  split at written
  · rename_i ascii
    have own := (ascii_case_low ⟨c.toNat, ascii⟩).2
    rw [Char.ofNat_toNat, ← List.mem_singleton.mp written] at own
    exact (own is.2.1).symm
  · split at written
    · -- A small i or the dot above it, of which neither is a sign.
      rcases List.mem_cons.mp written with rfl | dot
      · exact absurd is (by decide)
      · rw [List.mem_singleton.mp dot] at is
        exact absurd is (by decide)
    · split at written
      · rename_i image found
        have letters : ∀ run ∈ smallRuns, 0x61 ≤ run.target := by decide +kernel
        have behind : ∀ run ∈ smallRuns, sign.toNat < run.target := fun run member =>
          Nat.lt_of_lt_of_le is.2.1 (letters run member)
        exact absurd (List.mem_singleton.mp written).symm (image_not_below is.1 behind found)
      · exact (List.mem_singleton.mp written).symm

theorem lower_char_of_sign {sign : Char} (is : IsSign sign) : lowerChar sign = [sign] := by
  have ascii : ∀ code : Fin 0x61, (Char.ofNat code).isAlpha = false →
      lowerChar (Char.ofNat code) = [Char.ofNat code] := by
    decide +kernel
  have own := ascii ⟨sign.toNat, is.2.1⟩
  rw [Char.ofNat_toNat] at own
  exact own is.2.2

theorem upper_char_of_mark {mark : Char} (is : IsMark mark) : upperChar mark = [mark] := by
  have ascii : ∀ code : Fin 0x41, upperChar (Char.ofNat code) = [Char.ofNat code] := by
    decide +kernel
  have own := ascii ⟨mark.toNat, is.2⟩
  rwa [Char.ofNat_toNat] at own

theorem upper_chars_mark {mark : Char} (is : IsMark mark) {chars : List Char}
    (absent : mark ∉ chars) : mark ∉ upperChars chars := by
  intro written
  obtain ⟨c, member, image⟩ := List.mem_flatMap.mp written
  exact absent (upper_char_mark is image ▸ member)

theorem lower_after_sign_iff {sign : Char} (is : IsSign sign) {before chars : List Char} :
    sign ∈ lowerAfter before chars ↔ sign ∈ chars := by
  induction chars generalizing before with
  | nil => exact .rfl
  | cons c rest ih =>
      rw [lowerAfter, List.mem_append, List.mem_cons, ih]
      refine or_congr_left ?_
      split
      · -- A sigma is no sign, and neither of its small forms is one.
        rename_i sigma
        have capital : sign ≠ c := by
          rintro rfl
          rw [sigma] at is
          exact absurd is (by decide)
        have small : sign ∉ [smallSigma before rest] := by
          intro written
          unfold smallSigma at written
          split at written <;> cases List.mem_singleton.mp written <;> exact absurd is (by decide)
        exact iff_of_false small capital
      · constructor
        · intro written
          exact (lower_char_sign is written).symm
        · rintro rfl
          rw [lower_char_of_sign is]
          exact List.mem_cons_self

theorem lower_chars_sign_iff {sign : Char} (is : IsSign sign) {chars : List Char} :
    sign ∈ lowerChars chars ↔ sign ∈ chars :=
  lower_after_sign_iff is

theorem lower_chars_mark {mark : Char} (is : IsMark mark) {chars : List Char}
    (absent : mark ∉ chars) : mark ∉ lowerChars chars := by
  rwa [lower_chars_sign_iff is.sign]

theorem lower_char_ne_nil (c : Char) : lowerChar c ≠ [] := by
  unfold lowerChar
  split
  · exact List.cons_ne_nil _ _
  · split
    · exact List.cons_ne_nil _ _
    · split <;> exact List.cons_ne_nil _ _

theorem upper_char_ne_nil (c : Char) : upperChar c ≠ [] := by
  unfold upperChar
  split
  · exact List.cons_ne_nil _ _
  · split
    · rename_i codes found
      have letters : ∀ expansion ∈ capitalExpansions, expansion.2 ≠ [] := by decide +kernel
      obtain ⟨before, after, listed, _⟩ := List.lookup_eq_some_iff.mp found
      have here : (c.toNat, codes) ∈ capitalExpansions := by simp [listed]
      exact fun empty => letters _ here (List.map_eq_nil_iff.mp empty)
    · split <;> exact List.cons_ne_nil _ _

theorem length_le_upper_chars (chars : List Char) : chars.length ≤ (upperChars chars).length := by
  induction chars with
  | nil => exact Nat.zero_le _
  | cons c rest ih =>
      have letter := List.length_pos_iff.mpr (upper_char_ne_nil c)
      rw [upperChars, List.flatMap_cons, ← upperChars, List.length_append, List.length_cons]
      omega

theorem mem_of_mem_doubled {mark c : Char} {chars : List Char} (member : c ∈ doubled mark chars) :
    c ∈ chars := by
  obtain ⟨own, there, written⟩ := List.mem_flatMap.mp member
  split at written <;> simp at written <;> exact written ▸ there

theorem length_le_doubled (mark : Char) (chars : List Char) :
    chars.length ≤ (doubled mark chars).length := by
  induction chars with
  | nil => exact Nat.zero_le _
  | cons c rest ih =>
      rw [doubled, List.flatMap_cons, ← doubled, List.length_append, List.length_cons]
      split <;> simp only [List.length_cons, List.length_nil] <;> omega

theorem doubled_eq_self_iff {mark : Char} {chars : List Char} :
    doubled mark chars = chars ↔ mark ∉ chars := by
  constructor
  · intro same member
    obtain ⟨front, back, rfl⟩ := List.append_of_mem member
    have longer : (doubled mark (front ++ mark :: back)).length =
        (doubled mark front).length + (2 + (doubled mark back).length) := by
      rw [doubled_append, List.length_append]
      simp only [doubled, List.flatMap_cons, if_true, List.length_append, List.length_cons,
        List.length_nil]
    have frontLength := length_le_doubled mark front
    have backLength := length_le_doubled mark back
    rw [same, List.length_append, List.length_cons] at longer
    omega
  · intro absent
    induction chars with
    | nil => rfl
    | cons c rest ih =>
        rw [List.mem_cons, not_or] at absent
        rw [doubled, List.flatMap_cons, if_neg (Ne.symm absent.1), ← doubled, ih absent.2]
        rfl

theorem upper_chars_doubled {mark : Char} (is : IsMark mark) (chars : List Char) :
    upperChars (doubled mark chars) = doubled mark (upperChars chars) := by
  induction chars with
  | nil => rfl
  | cons c rest ih =>
      have head : upperChars (if c = mark then [c, c] else [c]) = doubled mark (upperChar c) := by
        by_cases same : c = mark
        · simp [upperChars, doubled, same, upper_char_of_mark is]
        · have absent : mark ∉ upperChar c := fun written => same (upper_char_mark is written)
          rw [if_neg same, doubled_eq_self_iff.mpr absent, upperChars, List.flatMap_singleton]
      rw [doubled, List.flatMap_cons, ← doubled, upperChars_append, head, ih, ← doubled_append,
        upperChars, upperChars, List.flatMap_cons]

theorem mem_of_mem_segment {separator c : Char} {chars segment : List Char}
    (cut : segment ∈ segments separator chars) (member : c ∈ segment) : c ∈ chars := by
  induction chars generalizing segment with
  | nil =>
      rw [segments, List.mem_singleton] at cut
      rwa [cut] at member
  | cons first rest ih =>
      unfold segments at cut
      split at cut
      · rcases List.mem_cons.mp cut with rfl | later
        · cases member
        · exact List.mem_cons_of_mem _ (ih later member)
      · split at cut
        · rename_i none_left
          exact absurd none_left (segments_ne_nil separator rest)
        · -- The character joins the first segment of the rest.
          rename_i next others parts
          rw [parts] at ih
          rcases List.mem_cons.mp cut with rfl | later
          · rcases List.mem_cons.mp member with rfl | inside
            · exact List.mem_cons_self
            · exact List.mem_cons_of_mem _ (ih List.mem_cons_self inside)
          · exact List.mem_cons_of_mem _ (ih (List.mem_cons_of_mem _ later) member)

theorem separator_not_mem_segment {separator : Char} {chars segment : List Char}
    (cut : segment ∈ segments separator chars) : separator ∉ segment := by
  induction chars generalizing segment with
  | nil =>
      rw [segments, List.mem_singleton] at cut
      rw [cut]
      exact List.not_mem_nil
  | cons first rest ih =>
      unfold segments at cut
      split at cut
      · rcases List.mem_cons.mp cut with rfl | later
        · exact List.not_mem_nil
        · exact ih later
      · rename_i other
        split at cut
        · rename_i none_left
          exact absurd none_left (segments_ne_nil separator rest)
        · rename_i next others parts
          rw [parts] at ih
          rcases List.mem_cons.mp cut with rfl | later
          · rw [List.mem_cons, not_or]
            exact ⟨fun same => other same.symm, ih List.mem_cons_self⟩
          · exact ih (List.mem_cons_of_mem _ later)

theorem segments_of_not_mem {separator : Char} {chars : List Char} (whole : separator ∉ chars) :
    segments separator chars = [chars] := by
  induction chars with
  | nil => rfl
  | cons c rest ih =>
      obtain ⟨other, apart⟩ := List.ne_and_not_mem_of_not_mem_cons whole
      rw [segments, if_neg (Ne.symm other), ih apart]

theorem segments_append (separator : Char) (front back : List Char) :
    segments separator (front ++ separator :: back) =
      segments separator front ++ segments separator back := by
  induction front with
  | nil => simp [segments]
  | cons c rest ih =>
      rw [List.cons_append, segments, segments, ih]
      split
      · rw [List.cons_append]
      · obtain ⟨segment, others, cut⟩ := List.exists_cons_of_ne_nil (segments_ne_nil separator rest)
        rw [cut]
        rfl

theorem separator_not_mem_split {separator : Char} {text part : String}
    (cut : part ∈ splitAt separator text) : separator ∉ part.toList := by
  obtain ⟨segment, inside, rfl⟩ := List.mem_map.mp cut
  rw [String.toList_ofList]
  exact separator_not_mem_segment inside

theorem split_intercalate {separator : Char} {glue : String} (single : glue.toList = [separator])
    {parts : List String} (some_part : parts ≠ [])
    (whole : ∀ part ∈ parts, separator ∉ part.toList) :
    splitAt separator (glue.intercalate parts) = parts := by
  induction parts with
  | nil => exact absurd rfl some_part
  | cons part rest ih =>
      obtain ⟨own, others⟩ := List.forall_mem_cons.mp whole
      cases rest with
      | nil =>
          rw [String.intercalate_singleton, splitAt, segments_of_not_mem own, List.map_singleton,
            String.ofList_toList]
      | cons next rest =>
          rw [String.intercalate_cons_cons, splitAt, String.toList_append, String.toList_append,
            single, List.append_assoc, List.singleton_append, segments_append,
            segments_of_not_mem own, List.singleton_append, List.map_cons, String.ofList_toList,
            ← splitAt, ih (List.cons_ne_nil _ _) others]

end SchemaBlueprint.Text
