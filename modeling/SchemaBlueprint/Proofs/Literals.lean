import Mathlib.Data.List.Forall2
import SchemaBlueprint.Proofs.QuoteFree

/-!
Reading the single-quoted literals out of a statement, character by character. A quote in a literal
is known to end it only when something else follows, so a text that ends with a literal and one that
has gone on behind it are told apart; the second kind may be followed by anything.
-/

namespace SchemaBlueprint

set_option autoImplicit false

/-- How far a text has been read, with the contents of the literals that have ended. -/
inductive Scan where
  | outside (found : List String)
  | inside (found : List String) (content : List Char)
  /-- Behind a quote in a literal, which ends the literal unless a second quote follows. -/
  | closing (found : List String) (content : List Char)

namespace Scan

def step : Scan → Char → Scan
  | .outside found, c => if c = '\'' then .inside found [] else .outside found
  | .inside found content, c =>
      if c = '\'' then .closing found content else .inside found (content ++ [c])
  | .closing found content, c =>
      if c = '\'' then .inside found (content ++ [c])
      else .outside (found ++ [String.ofList content])

def read (state : Scan) (chars : List Char) : Scan := chars.foldl step state

def finish : Scan → Option (List String)
  | .outside found => some found
  | .inside _ _ => none
  | .closing found content => some (found ++ [String.ofList content])

theorem read_append (state : Scan) (front back : List Char) :
    state.read (front ++ back) = (state.read front).read back :=
  List.foldl_append

theorem read_cons (state : Scan) (c : Char) (rest : List Char) :
    state.read (c :: rest) = (state.step c).read rest := rfl

theorem read_outside {found : List String} {chars : List Char} (absent : '\'' ∉ chars) :
    (outside found).read chars = outside found := by
  induction chars with
  | nil => rfl
  | cons c rest ih =>
      rw [List.mem_cons, not_or] at absent
      rw [read_cons, step, if_neg (Ne.symm absent.1)]
      exact ih absent.2

theorem read_doubled (found : List String) (content chars : List Char) :
    (inside found content).read (Text.doubled '\'' chars) = inside found (content ++ chars) := by
  induction chars generalizing content with
  | nil =>
      rw [List.append_nil]
      rfl
  | cons c rest ih =>
      have next : (inside found content).read (if c = '\'' then [c, c] else [c]) =
          inside found (content ++ [c]) := by
        -- A doubled quote closes the literal for one character and then goes on inside it.
        by_cases quote : c = '\''
        · simp [quote, read, step]
        · simp [quote, read, step]
      rw [Text.doubled, List.flatMap_cons, read_append, next, ← Text.doubled, ih,
        List.append_assoc, List.singleton_append]

theorem read_literal (found : List String) (content : String) :
    (outside found).read (sqlLiteral content).toList = closing found content.toList := by
  rw [toList_sqlLiteral, List.cons_append, read_cons, read_append]
  have opened : (outside found).step '\'' = inside found [] := rfl
  rw [opened, read_doubled, List.nil_append]
  rfl

theorem read_closing {found : List String} {content : List Char} {c : Char} (other : c ≠ '\'')
    (rest : List Char) :
    (closing found content).read (c :: rest) =
      (outside (found ++ [String.ofList content])).read (c :: rest) := by
  simp only [read_cons, step, if_neg other]

end Scan

/-- The contents of the literals of a statement, in order, if all of them are closed. -/
def literals? (statement : String) : Option (List String) :=
  ((Scan.outside []).read statement.toList).finish

def Passes (text : String) (contents : List String) : Prop :=
  ∀ found, (Scan.outside found).read text.toList = .outside (found ++ contents)

/-- Reading the text gives these contents, the last of which may end with the text. -/
def Reads (text : String) (contents : List String) : Prop :=
  Passes text contents ∨ ∃ earlier last, contents = earlier ++ [String.ofList last] ∧
    ∀ found, (Scan.outside found).read text.toList = .closing (found ++ earlier) last

theorem literals_of_reads {text : String} {contents : List String} (reads : Reads text contents) :
    literals? text = some contents := by
  unfold literals?
  rcases reads with passes | ⟨earlier, last, rfl, ends⟩
  · rw [passes]
    rfl
  · rw [ends]
    rfl

example : literals? "note 'it''s', '' and '''" = none ∧
    literals? "note 'it''s', '' and ''''" = some ["it's", "", "'"] := by
  decide

theorem reads_literal (content : String) : Reads (sqlLiteral content) [content] := by
  refine .inr ⟨[], content.toList, by simp, ?_⟩
  intro found
  rw [Scan.read_literal, List.append_nil]

namespace Passes

variable {front back text : String} {first second : List String}

theorem of_quote_free (free : QuoteFree text) : Passes text [] := by
  intro found
  rw [Scan.read_outside free, List.append_nil]

theorem reads (passes : Passes text first) : Reads text first := .inl passes

theorem append (passes : Passes front first) (later : Passes back second) :
    Passes (front ++ back) (first ++ second) := by
  intro found
  rw [String.toList_append, Scan.read_append, passes, later, List.append_assoc]

theorem append_plain (passes : Passes front first) (free : QuoteFree back) :
    Passes (front ++ back) first := by
  have joined := passes.append (of_quote_free free)
  rwa [List.append_nil] at joined

theorem append_reads (passes : Passes front first) (later : Reads back second) :
    Reads (front ++ back) (first ++ second) := by
  rcases later with settled | ⟨earlier, last, rfl, ends⟩
  · exact .inl (passes.append settled)
  · refine .inr ⟨first ++ earlier, last, by rw [List.append_assoc], ?_⟩
    intro found
    rw [String.toList_append, Scan.read_append, passes, ends, List.append_assoc]

theorem intercalate {separator : String} (free : QuoteFree separator) {texts : List String}
    {contents : List (List String)} (each : List.Forall₂ Passes texts contents) :
    Passes (separator.intercalate texts) contents.flatten := by
  induction each with
  | nil => exact of_quote_free (QuoteFree.of_chars List.not_mem_nil)
  | @cons text own texts others head tail ih =>
      cases tail with
      | nil => simpa using head
      | cons next rest =>
          rw [String.intercalate_cons_cons]
          exact (head.append_plain free).append ih

end Passes

namespace Reads

variable {front back : String} {contents : List String}

theorem append_plain (reads : Reads front contents) (free : QuoteFree back)
    (some_there : back ≠ "") : Passes (front ++ back) contents := by
  rcases reads with passes | ⟨earlier, last, rfl, ends⟩
  · exact passes.append_plain free
  · -- The first character of the text that follows settles that the literal has ended.
    intro found
    rw [String.toList_append, Scan.read_append, ends]
    cases chars : back.toList with
    | nil => exact absurd (String.toList_eq_nil_iff.mp chars) some_there
    | cons c rest =>
        have absent : '\'' ∉ c :: rest := chars ▸ free
        have other : c ≠ '\'' := fun quote => absent (quote ▸ List.mem_cons_self)
        rw [Scan.read_closing other, Scan.read_outside absent, List.append_assoc]

end Reads

theorem Passes.around_two {opening between closing : String} (first second : String)
    (openingFree : QuoteFree opening) (betweenFree : QuoteFree between) (apart : between ≠ "")
    (closingFree : QuoteFree closing) (closed : closing ≠ "") :
    Passes (opening ++ sqlLiteral first ++ between ++ sqlLiteral second ++ closing)
      [first, second] := by
  have front := (Passes.of_quote_free openingFree).append_reads (reads_literal first)
  have both := (front.append_plain betweenFree apart).append_reads (reads_literal second)
  exact both.append_plain closingFree closed

theorem reads_enum_values (allowed : List String) : Reads (enumValues allowed) allowed := by
  unfold enumValues
  induction allowed with
  | nil => exact (Passes.of_quote_free (QuoteFree.of_chars List.not_mem_nil)).reads
  | cons value rest ih =>
      cases rest with
      | nil => simpa using reads_literal value
      | cons next others =>
          have head : Passes (sqlLiteral value ++ ", ") [value] :=
            (reads_literal value).append_plain (by decide) (by decide)
          rw [List.map_cons, List.map_cons, String.intercalate_cons_cons, ← List.map_cons]
          exact head.append_reads ih

end SchemaBlueprint
