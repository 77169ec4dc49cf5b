import SchemaBlueprint.Decimal.Layout
import SchemaBlueprint.Decimal.Read
import SchemaBlueprint.Proofs.Trimming

/-!
Integers written in decimal digits and read again, also where white space may stand around them.
-/

namespace SchemaBlueprint.Decimal

set_option autoImplicit false

theorem code_of_is_digit {c : Char} (digit : c.isDigit = true) : 48 ≤ c.toNat ∧ c.toNat ≤ 57 :=
  Char.isDigit_iff_toNat.mp digit

theorem digit_value_of_is_digit {c : Char} (digit : c.isDigit = true) :
    digitValue? 10 c = some (c.toNat - '0'.toNat) := by
  have small : c.toNat - '0'.toNat < 10 := Nat.sub_lt_right_of_lt_add
    (code_of_is_digit digit).1 (Nat.lt_succ_of_le (code_of_is_digit digit).2)
  simp only [digitValue?, digit, if_true, if_pos small]

theorem read_digit_chars {digits : List Char} (all : ∀ c ∈ digits, c.isDigit = true) (total : Nat) :
    digits.foldlM (fun total c => (digitValue? 10 c).map (total * 10 + ·)) total =
      some (Nat.ofDigitChars 10 digits total) := by
  induction digits generalizing total with
  | nil => rfl
  | cons c rest ih =>
      obtain ⟨digit, others⟩ := List.forall_mem_cons.mp all
      rw [List.foldlM_cons, digit_value_of_is_digit digit, Nat.ofDigitChars_cons, Nat.mul_comm 10]
      exact ih others _

theorem whole_digits_are_digits {number : Nat} {c : Char} (member : c ∈ wholeDigits number) :
    c.isDigit = true :=
  Nat.isDigit_of_mem_toDigits (by decide) (by decide) member

theorem read_whole_digits (number : Nat) : readDigits? 10 (wholeDigits number) = some number := by
  have all : ∀ c ∈ wholeDigits number, c.isDigit = true := fun _ => whole_digits_are_digits
  have total := read_digit_chars all 0
  have value : Nat.ofDigitChars 10 (wholeDigits number) 0 = number :=
    Nat.ofDigitChars_toDigits (by decide) (by decide)
  rw [value] at total
  unfold readDigits?
  cases digits : wholeDigits number with
  | nil => exact absurd digits Nat.toDigits_ne_nil
  | cons c rest => rwa [digits] at total

theorem read_nat_text {greatest number : Nat} (bound : number ≤ greatest) :
    readNat? greatest (natText number).toList = some number := by
  have unsigned : ∀ rest, wholeDigits number ≠ '+' :: rest := by
    intro rest signed
    have sign : '+' ∈ wholeDigits number := signed ▸ List.mem_cons_self
    exact absurd (whole_digits_are_digits sign) (by decide)
  rw [natText, String.toList_ofList, readNat?]
  · simp only [read_whole_digits]
    exact if_pos bound
  · exact unsigned

theorem split_sign_of_digit {c : Char} (digit : c.isDigit = true) (rest : List Char) :
    splitSign (c :: rest) = (false, c :: rest) := by
  unfold splitSign
  split
  · rename_i same
    cases same
    exact absurd digit (by decide)
  · rename_i same
    cases same
    exact absurd digit (by decide)
  · rfl

theorem int_text_negative (number : Nat) :
    (intText (.negSucc number)).toList = '-' :: wholeDigits (number + 1) := by
  simp [intText, natText]

theorem read_int_text {least greatest value : Int} (above : least ≤ value)
    (below : value ≤ greatest) : readInt? least greatest (intText value).toList = some value := by
  have between : (least ≤ value && value ≤ greatest) = true :=
    Bool.and_eq_true_iff.mpr ⟨decide_eq_true above, decide_eq_true below⟩
  cases value with
  | ofNat number =>
      have unsigned : splitSign (wholeDigits number) = (false, wholeDigits number) := by
        cases digits : wholeDigits number with
        | nil => rfl
        | cons c rest =>
            have first : c ∈ wholeDigits number := digits ▸ List.mem_cons_self
            have digit := whole_digits_are_digits first
            exact split_sign_of_digit digit rest
      rw [intText, natText, String.toList_ofList, readInt?, unsigned]
      simp only [read_whole_digits]
      exact if_pos between
  | negSucc number =>
      rw [int_text_negative, readInt?]
      simp only [splitSign, read_whole_digits]
      exact if_pos between

theorem read_int64_text (value : Int64) :
    readInt64? (intText value.toInt).toList = some value.toInt :=
  read_int_text value.le_toInt (Int.le_of_lt_add_one value.toInt_lt)

theorem mem_int_text {value : Int} {c : Char} (member : c ∈ (intText value).toList) :
    c = '-' ∨ c.isDigit = true := by
  cases value with
  | ofNat number =>
      rw [intText, natText, String.toList_ofList] at member
      exact .inr (whole_digits_are_digits member)
  | negSucc number =>
      rw [int_text_negative] at member
      rcases List.mem_cons.mp member with sign | digit
      · exact .inl sign
      · exact .inr (whole_digits_are_digits digit)

theorem trim_int_text (value : Int) :
    Text.trimChars (intText value).toList = (intText value).toList := by
  apply Text.trim_chars_of_no_blank
  intro c member
  rcases mem_int_text member with rfl | digit
  · decide
  · have code := code_of_is_digit digit
    simp only [Text.isBlank, Text.blankRanges, Text.inRanges_cons, Text.inRanges_nil, Bool.or_false,
      Bool.or_eq_false_iff, Bool.and_eq_false_imp, decide_eq_true_eq, decide_eq_false_iff_not,
      Nat.not_le]
    omega

theorem trim_nat_text (number : Nat) :
    Text.trimChars (natText number).toList = (natText number).toList :=
  trim_int_text (.ofNat number)

end SchemaBlueprint.Decimal
