import SchemaBlueprint.Proofs.Punctuation
import SchemaBlueprint.Proofs.Spelling
import SchemaBlueprint.Proofs.Trimming

/-!
Small letters. What lower case leaves has no other small form, so a text in lower case is its own
lower case, and it is equal to another text up to ASCII case just when the letters of that other text
beyond ASCII are small. White space has no case, and nothing else becomes white space, so there is
nothing left to trim in the lower case of what has been trimmed.
-/

namespace SchemaBlueprint.Text

set_option autoImplicit false

def codeBits (codes : List Nat) : Nat := codes.foldr (fun code bits => 1 <<< code ||| bits) 0

/-- The code points of several lists as the bits of a number. That sets of hundreds of letters have
none in common is seen from their bits at once. -/
def setBits (lists : List (List Nat)) : Nat :=
  lists.foldr (fun codes bits => codeBits codes ||| bits) 0

theorem test_code_bits (codes : List Nat) (code : Nat) :
    (codeBits codes).testBit code = true ↔ code ∈ codes := by
  induction codes with
  | nil => simp [codeBits]
  | cons first rest ih =>
      have own : (1 <<< first).testBit code = true ↔ code = first := by
        rw [Nat.one_shiftLeft, Nat.testBit_two_pow, decide_eq_true_eq, eq_comm]
      rw [codeBits, List.foldr_cons, ← codeBits, Nat.testBit_or, Bool.or_eq_true, own, ih,
        List.mem_cons]

theorem test_set_bits (lists : List (List Nat)) (code : Nat) :
    (setBits lists).testBit code = true ↔ code ∈ lists.flatten := by
  induction lists with
  | nil => simp [setBits]
  | cons codes rest ih =>
      rw [setBits, List.foldr_cons, ← setBits, Nat.testBit_or, Bool.or_eq_true, test_code_bits, ih,
        List.flatten_cons, List.mem_append]

theorem not_mem_of_bits_apart {left right : List (List Nat)}
    (apart : setBits left &&& setBits right = 0) {code : Nat} (here : code ∈ left.flatten) :
    code ∉ right.flatten := by
  intro there
  rw [← test_set_bits] at here there
  have both : (setBits left &&& setBits right).testBit code = true := by
    rw [Nat.testBit_and, here, there, Bool.and_self]
  rw [apart, Nat.zero_testBit] at both
  cases both

def CaseRun.lettersFrom (run : CaseRun) (start : Nat) : List Nat :=
  (List.range ((run.last - run.first) / run.stride + 1)).map fun step => start + run.stride * step

theorem CaseRun.letters_of_image {run : CaseRun} {code image : Nat}
    (sent : run.image? code = some image) :
    code ∈ run.lettersFrom run.first ∧ image ∈ run.lettersFrom run.target := by
  simp only [image?, Option.ite_none_right_eq_some, Option.some.injEq, Bool.and_eq_true,
    decide_eq_true_eq, beq_iff_eq] at sent
  obtain ⟨⟨⟨low, high⟩, even⟩, rfl⟩ := sent
  have steps : run.stride * ((code - run.first) / run.stride) = code - run.first :=
    Nat.mul_div_cancel' (Nat.dvd_of_mod_eq_zero even)
  have within : (code - run.first) / run.stride < (run.last - run.first) / run.stride + 1 :=
    Nat.lt_succ_of_le (Nat.div_le_div_right (by omega))
  constructor
  · exact List.mem_map.mpr ⟨_, List.mem_range.mpr within, by omega⟩
  · exact List.mem_map.mpr ⟨_, List.mem_range.mpr within, by omega⟩

def capitalCodes : List (List Nat) :=
  [0x130] :: List.range' 0x41 26 :: smallRuns.map fun run => run.lettersFrom run.first

/-- The letters that are written as small forms of others. What would be no character is written as
the null character. -/
def smallCodes : List (List Nat) :=
  [0, 0x69, 0x307] :: List.range' 0x61 26 :: smallRuns.map fun run => run.lettersFrom run.target

def blankCodes : List (List Nat) :=
  blankRanges.map fun range => List.range' range.1 (range.2 + 1 - range.1)

theorem code_sets_apart :
    setBits smallCodes &&& setBits capitalCodes = 0 ∧
      setBits blankCodes &&& setBits capitalCodes = 0 ∧
      setBits blankCodes &&& setBits smallCodes = 0 := by
  decide +kernel

theorem ascii_forms : ∀ code : Fin 0x80, (Char.ofNat code).toLower = Char.ofNat code ∨
    (code.val ∈ List.range' 0x41 26 ∧ (Char.ofNat code).toLower.toNat ∈ List.range' 0x61 26) := by
  decide +kernel

theorem lower_char_of_not_capital {c : Char} (other : c.toNat ∉ capitalCodes.flatten) :
    lowerChar c = [c] := by
  simp only [capitalCodes, List.flatten_cons, List.mem_append, not_or, List.mem_singleton] at other
  obtain ⟨undotted, plain, unlisted⟩ := other
  by_cases ascii : c.toNat < 0x80
  · have own := ascii_forms ⟨c.toNat, ascii⟩
    rw [Char.ofNat_toNat] at own
    rw [lowerChar, if_pos ascii, own.resolve_right fun capital => plain capital.1]
  · have none : imageIn? smallRuns c.toNat = none := by
      rw [imageIn?, List.findSome?_eq_none_iff]
      intro run member
      rw [Option.eq_none_iff_forall_ne_some]
      intro image sent
      exact unlisted (List.mem_flatten_of_mem (List.mem_map_of_mem member)
        (CaseRun.letters_of_image sent).1)
    rw [lowerChar, if_neg ascii, if_neg undotted, none]

theorem code_of_image {code image : Nat} (found : imageIn? smallRuns code = some image) :
    (Char.ofNat image).toNat ∈ smallCodes.flatten := by
  obtain ⟨run, member, sent⟩ := List.exists_of_findSome?_eq_some found
  by_cases valid : image.isValidChar
  · have own : (Char.ofNat image).toNat = image := by
      rw [show Char.ofNat image = Char.ofNatAux image valid from dif_pos valid]
      rfl
    rw [own, smallCodes, List.flatten_cons, List.flatten_cons]
    exact List.mem_append_right _ (List.mem_append_right _
      (List.mem_flatten_of_mem (List.mem_map_of_mem member) (CaseRun.letters_of_image sent).2))
  · rw [show Char.ofNat image = '\x00' from dif_neg valid]
    exact List.mem_append_left _ List.mem_cons_self

theorem small_form_cases {c small : Char} (written : small ∈ lowerChar c) :
    lowerChar c = [c] ∨ small.toNat ∈ smallCodes.flatten := by
  unfold lowerChar at written ⊢
  split at written
  · rename_i ascii
    have own := ascii_forms ⟨c.toNat, ascii⟩
    rw [Char.ofNat_toNat, ← List.mem_singleton.mp written] at own
    rcases own with same | ⟨-, letter⟩
    · left
      rw [if_pos ascii, ← List.mem_singleton.mp written, same]
    · right
      exact List.mem_append_right _ (List.mem_append_left _ letter)
  · rename_i ascii
    split at written
    · -- A small i, or the dot above it.
      right
      rcases List.mem_cons.mp written with rfl | dot
      · exact List.mem_append_left _ (by decide)
      · rw [List.mem_singleton.mp dot]
        exact List.mem_append_left _ (by decide)
    · rename_i undotted
      split at written
      · rename_i found
        right
        rw [List.mem_singleton.mp written]
        exact code_of_image found
      · left
        rw [if_neg ascii, if_neg undotted]

theorem lower_char_of_small_form {c small : Char} (written : small ∈ lowerChar c) :
    lowerChar small = [small] := by
  rcases small_form_cases written with same | letter
  · rw [same, List.mem_singleton] at written
    rw [written, same]
  · exact lower_char_of_not_capital (not_mem_of_bits_apart code_sets_apart.1 letter)

theorem lower_char_of_mem_lower {before chars : List Char} {small : Char}
    (written : small ∈ lowerAfter before chars) : lowerChar small = [small] := by
  induction chars generalizing before with
  | nil => cases written
  | cons c rest ih =>
      rw [lowerAfter, List.mem_append] at written
      rcases written with own | later
      · split at own
        · -- Both small sigmas are small, whichever is written.
          rw [List.mem_singleton] at own
          rw [own, smallSigma]
          split <;> decide +kernel
        · exact lower_char_of_small_form own
      · exact ih later

theorem to_lower_of_small {c : Char} (small : lowerChar c = [c]) : c.toLower = c := by
  by_cases ascii : c.toNat < 0x80
  · rw [lowerChar, if_pos ascii] at small
    exact List.singleton_inj.mp small
  · exact to_lower_of_not_ascii ascii

/-- No letter of a name beyond ASCII has a small form other than itself. -/
def IsSmallBeyondAscii (name : String) : Prop :=
  ∀ c ∈ name.toList, lowerChar c = [c.toLower]

instance : DecidablePred IsSmallBeyondAscii := fun name =>
  List.decidableBAll (fun c => lowerChar c = [c.toLower]) name.toList

theorem lower_after_of_small {before chars : List Char}
    (small : ∀ c ∈ chars, lowerChar c = [c.toLower]) :
    lowerAfter before chars = chars.map Char.toLower := by
  induction chars generalizing before with
  | nil => rfl
  | cons c rest ih =>
      obtain ⟨own, others⟩ := List.forall_mem_cons.mp small
      have sigma : c ≠ 'Σ' := by
        rintro rfl
        exact absurd own (by decide +kernel)
      rw [lowerAfter, if_neg sigma, own, ih others]
      rfl

theorem fold_lower_chars (chars : List Char) :
    (lowerChars chars).map Char.toLower = lowerChars chars := by
  have folded : (lowerChars chars).map Char.toLower = (lowerChars chars).map id :=
    List.map_congr_left fun _ written => to_lower_of_small (lower_char_of_mem_lower written)
  rw [folded, List.map_id]

theorem ascii_fold_lower (name : String) : asciiFold (lower name) = lowerChars name.toList := by
  rw [asciiFold, toList_lower, fold_lower_chars]

theorem lower_chars_lower (chars : List Char) : lowerChars (lowerChars chars) = lowerChars chars := by
  have small : ∀ c ∈ lowerChars chars, lowerChar c = [c.toLower] := by
    intro c written
    have own := lower_char_of_mem_lower written
    rw [own, to_lower_of_small own]
  calc
    lowerChars (lowerChars chars) = (lowerChars chars).map Char.toLower := lower_after_of_small small
    _ = lowerChars chars := fold_lower_chars chars

theorem same_name_lower_iff (other name : String) :
    sameName (lower other) name = true ↔ IsSmallBeyondAscii name ∧ lower other = lower name := by
  rw [sameName_iff, ascii_fold_lower]
  constructor
  · intro same
    have small : IsSmallBeyondAscii name := by
      intro c member
      have written : c.toLower ∈ lowerChars other.toList := by
        rw [same]
        exact List.mem_map_of_mem member
      rw [← lower_char_to_lower]
      exact lower_char_of_mem_lower written
    refine ⟨small, ?_⟩
    rw [lower, lower, same, lowerChars, lower_after_of_small small]
    rfl
  · rintro ⟨small, same⟩
    rw [← toList_lower, same, toList_lower, lowerChars, lower_after_of_small small]
    rfl

/-- How long a text in lower case is depends on its characters one by one, since both small sigmas
have the same length. -/
theorem length_lower_after (before chars : List Char) :
    (lowerAfter before chars).length = (chars.flatMap lowerChar).length := by
  induction chars generalizing before with
  | nil => rfl
  | cons c rest ih =>
      rw [lowerAfter, List.flatMap_cons, List.length_append, List.length_append, ih]
      congr 1
      split
      · rename_i sigma
        have single : lowerChar 'Σ' = ['σ'] := by decide +kernel
        rw [sigma, single]
        rfl
      · rfl

theorem length_le_lower_after (before chars : List Char) :
    chars.length ≤ (lowerAfter before chars).length := by
  rw [length_lower_after]
  induction chars with
  | nil => exact Nat.zero_le _
  | cons c rest ih =>
      have letter := List.length_pos_iff.mpr (lower_char_ne_nil c)
      rw [List.flatMap_cons, List.length_append, List.length_cons]
      omega

theorem length_le_lower_chars (chars : List Char) : chars.length ≤ (lowerChars chars).length :=
  length_le_lower_after [] chars

theorem length_lower_chars_append (front chars back : List Char) :
    (lowerChars chars).length + front.length + back.length ≤
      (lowerChars (front ++ chars ++ back)).length := by
  have frontLength := length_le_lower_chars front
  have backLength := length_le_lower_chars back
  simp only [lowerChars, length_lower_after, List.flatMap_append, List.length_append] at *
  omega

theorem code_of_blank {c : Char} (blank : isBlank c = true) : c.toNat ∈ blankCodes.flatten := by
  obtain ⟨range, listed, inside⟩ := List.any_eq_true.mp blank
  rw [Bool.and_eq_true, decide_eq_true_eq, decide_eq_true_eq] at inside
  refine List.mem_flatten_of_mem (List.mem_map_of_mem listed) ?_
  rw [List.mem_range'_1]
  omega

theorem lower_char_of_blank {c : Char} (blank : isBlank c = true) : lowerChar c = [c] :=
  lower_char_of_not_capital (not_mem_of_bits_apart code_sets_apart.2.1 (code_of_blank blank))

theorem blank_of_small_form {c small : Char} (written : small ∈ lowerChar c)
    (blank : isBlank small = true) : small = c := by
  rcases small_form_cases written with same | letter
  · rwa [same, List.mem_singleton] at written
  · exact absurd letter (not_mem_of_bits_apart code_sets_apart.2.2 (code_of_blank blank))

theorem head_blank_lower_iff {chars : List Char} :
    (∃ c, (lowerChars chars).head? = some c ∧ isBlank c = true) ↔
      ∃ c, chars.head? = some c ∧ isBlank c = true := by
  cases chars with
  | nil => rfl
  | cons c rest =>
      have sigma : isBlank 'Σ' = false := by decide
      have smallSigmas : isBlank 'σ' = false ∧ isBlank 'ς' = false := by decide
      rw [lowerChars, lowerAfter]
      split
      · rename_i capital
        rw [capital, smallSigma]
        split <;> simp [sigma, smallSigmas]
      · obtain ⟨first, others, form⟩ := List.exists_cons_of_ne_nil (lower_char_ne_nil c)
        rw [form]
        simp only [List.cons_append, List.head?_cons, Option.some.injEq, exists_eq_left']
        constructor
        · intro blank
          have written : first ∈ lowerChar c := form ▸ List.mem_cons_self
          exact blank_of_small_form written blank ▸ blank
        · intro blank
          rw [lower_char_of_blank blank, List.cons.injEq] at form
          exact form.1 ▸ blank

theorem last_blank_of_lower {before chars : List Char} {small : Char}
    (last : (lowerAfter before chars).getLast? = some small) (blank : isBlank small = true) :
    chars.getLast? = some small := by
  induction chars generalizing before with
  | nil => cases last
  | cons c rest ih =>
      rw [lowerAfter, List.getLast?_append] at last
      cases later : (lowerAfter (c :: before) rest).getLast? with
      | some final =>
          rw [later, Option.some_or] at last
          rw [List.getLast?_cons, ih (later.trans last), Option.getD_some]
      | none =>
          have nothing : rest = [] := by
            have short := length_le_lower_after (c :: before) rest
            rw [List.getLast?_eq_none_iff.mp later] at short
            exact List.eq_nil_of_length_eq_zero (Nat.le_zero.mp short)
          rw [later, Option.none_or] at last
          rw [nothing, List.getLast?_singleton]
          have written := List.mem_of_getLast? last
          split at written
          · -- Neither small sigma is white space.
            rw [List.mem_singleton.mp written, smallSigma] at blank
            split at blank <;> cases blank
          · rw [blank_of_small_form written blank]

theorem is_blank_to_lower (c : Char) : isBlank c.toLower = isBlank c :=
  in_ranges_to_lower blankRanges [(0x9, 0xD), (0x20, 0x20)] (by decide +kernel)
    (by decide +kernel) c

theorem trim_chars_fold (chars : List Char) :
    trimChars (chars.map Char.toLower) = (trimChars chars).map Char.toLower := by
  have same : isBlank ∘ Char.toLower = isBlank := funext is_blank_to_lower
  rw [trimChars, trimChars, List.dropWhile_map, same, ← List.map_reverse, List.dropWhile_map, same,
    ← List.map_reverse]

theorem trim_lower_trim (chars : List Char) :
    trimChars (lowerChars (trimChars chars)) = lowerChars (trimChars chars) := by
  apply trim_chars_of_ends
  · intro c first
    rw [Bool.eq_false_iff]
    intro blank
    exact trim_chars_head_not_blank chars (head_blank_lower_iff.mp ⟨c, first, blank⟩)
  · intro c last
    rw [Bool.eq_false_iff]
    intro blank
    exact trim_chars_last_not_blank chars ⟨c, last_blank_of_lower last blank, blank⟩

end SchemaBlueprint.Text
