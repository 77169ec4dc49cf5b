import SchemaBlueprint.Proofs.ReservedSegment

/-!
Written names as the server reads them: identifiers with dots between them, each of which stands bare
or between double quotes. A bare identifier folds to upper case and a quoted one is taken as it
stands. Reserved words are quoted in upper case, so a written name means what the name means bare.
-/

namespace SchemaBlueprint.Identifier

set_option autoImplicit false

/-- An identifier in a statement: its text, or what stands between its quotes. -/
inductive Written where
  | bare (text : String)
  | quoted (content : String)
  deriving DecidableEq

namespace Written

def denoted : Written → String
  | .bare text => Text.upper text
  | .quoted content => content

def isQuoted : Written → Bool
  | .bare _ => false
  | .quoted _ => true

end Written

/-- How far a name has been read, with the identifiers that a dot has ended. -/
inductive Reading where
  | bare (ended : List Written) (text : List Char)
  | quoted (ended : List Written) (content : List Char)
  /-- Behind a quote between quotes, which ends the identifier unless a second quote follows. -/
  | closing (ended : List Written) (content : List Char)

namespace Reading

/-- A quote opens an identifier only at its beginning, and only a dot follows the one that ends it. -/
def step : Reading → Char → Option Reading
  | .bare ended text, c =>
      if c = '.' then some (.bare (ended ++ [.bare (String.ofList text)]) [])
      else if c = '"' then if text.isEmpty then some (.quoted ended []) else none
      else some (.bare ended (text ++ [c]))
  | .quoted ended content, c =>
      if c = '"' then some (.closing ended content) else some (.quoted ended (content ++ [c]))
  | .closing ended content, c =>
      if c = '"' then some (.quoted ended (content ++ [c]))
      else if c = '.' then some (.bare (ended ++ [.quoted (String.ofList content)]) [])
      else none

def read (state : Reading) (chars : List Char) : Option Reading := chars.foldlM step state

def finish : Reading → Option (List Written)
  | .bare ended text => some (ended ++ [.bare (String.ofList text)])
  | .quoted _ _ => none
  | .closing ended content => some (ended ++ [.quoted (String.ofList content)])

theorem read_append (state : Reading) (front back : List Char) :
    state.read (front ++ back) = (state.read front).bind fun next => next.read back :=
  List.foldlM_append

theorem read_cons (state : Reading) (c : Char) (rest : List Char) :
    state.read (c :: rest) = (state.step c).bind fun next => next.read rest :=
  List.foldlM_cons

theorem read_bare (ended : List Written) (text : List Char) {chars : List Char}
    (dotless : '.' ∉ chars) (unquoted : '"' ∉ chars) :
    (bare ended text).read chars = some (bare ended (text ++ chars)) := by
  induction chars generalizing text with
  | nil => simp [read]
  | cons c rest ih =>
      rw [List.mem_cons, not_or] at dotless unquoted
      rw [read_cons, step, if_neg (Ne.symm dotless.1), if_neg (Ne.symm unquoted.1), Option.bind_some,
        ih _ dotless.2 unquoted.2, List.append_assoc, List.singleton_append]

theorem read_doubled (ended : List Written) (content chars : List Char) :
    (quoted ended content).read (Text.doubled '"' chars) = some (quoted ended (content ++ chars)) := by
  induction chars generalizing content with
  | nil => simp [read, Text.doubled]
  | cons c rest ih =>
      have next : (quoted ended content).read (if c = '"' then [c, c] else [c]) =
          some (quoted ended (content ++ [c])) := by
        -- A doubled quote ends the identifier for one character and then goes on inside it.
        by_cases quote : c = '"'
        · simp [quote, read, step]
        · simp [quote, read, step]
      rw [Text.doubled, List.flatMap_cons, read_append, next, Option.bind_some, ← Text.doubled, ih,
        List.append_assoc, List.singleton_append]

end Reading

/-- The identifiers of a written name, if it is put together as the server expects. -/
def identifiers? (name : String) : Option (List Written) :=
  ((Reading.bare [] []).read name.toList).bind Reading.finish

example : identifiers? "app.\"A\"\"B.C\".\"\"" =
      some [.bare "app", .quoted "A\"B.C", .quoted ""] ∧
    identifiers? "a\"b" = none ∧ identifiers? "\"a\"b" = none ∧ identifiers? "\"a" = none := by
  decide

/-- Where an identifier may begin, a text is read as this one, whether the name ends behind it or
goes on with a dot. -/
def ReadsAs (text : String) (identifier : Written) : Prop :=
  ∀ ended, ∃ state, (Reading.bare ended []).read text.toList = some state ∧
    state.finish = some (ended ++ [identifier]) ∧
    state.step '.' = some (.bare (ended ++ [identifier]) [])

theorem reads_bare {text : String} (dotless : '.' ∉ text.toList) (unquoted : '"' ∉ text.toList) :
    ReadsAs text (.bare text) := by
  intro ended
  refine ⟨_, Reading.read_bare ended [] dotless unquoted, ?_, ?_⟩ <;>
    simp [Reading.finish, Reading.step]

theorem reads_quoted (content : String) :
    ReadsAs ("\"" ++ Text.double '"' content ++ "\"") (.quoted content) := by
  intro ended
  have opened : (Reading.bare ended []).step '"' = some (.quoted ended []) := rfl
  have closed : (Reading.quoted ended content.toList).read ['"'] =
      some (.closing ended content.toList) := rfl
  have quote : "\"".toList = ['"'] := rfl
  refine ⟨.closing ended content.toList, ?_, ?_, ?_⟩
  · rw [String.toList_append, String.toList_append, quote, Text.toList_double,
      List.append_assoc, List.singleton_append, Reading.read_cons, opened, Option.bind_some,
      Reading.read_append, Reading.read_doubled, Option.bind_some, List.nil_append, closed]
  · simp [Reading.finish]
  · simp [Reading.step]

theorem identifiers_intercalate {texts : List String} {identifiers : List Written}
    (each : List.Forall₂ ReadsAs texts identifiers) (some_text : texts ≠ []) :
    identifiers? (".".intercalate texts) = some identifiers := by
  suffices any : ∀ ended, ((Reading.bare ended []).read (".".intercalate texts).toList).bind
      Reading.finish = some (ended ++ identifiers) from any []
  induction each with
  | nil => exact absurd rfl some_text
  | @cons text identifier texts identifiers head tail ih =>
      intro ended
      obtain ⟨state, read, finished, continued⟩ := head ended
      cases tail with
      | nil => rw [String.intercalate_singleton, read, Option.bind_some, finished]
      | cons next others =>
          have dot : ".".toList = ['.'] := rfl
          have later := ih (List.cons_ne_nil _ _) (ended ++ [identifier])
          rw [String.intercalate_cons_cons, String.toList_append, String.toList_append, dot,
            List.append_assoc, List.singleton_append, Reading.read_append, read, Option.bind_some,
            Reading.read_cons, continued, Option.bind_some, later, List.append_assoc,
            List.singleton_append]

theorem identifiers_of_reads {text : String} {identifier : Written}
    (reads : ReadsAs text identifier) : identifiers? text = some [identifier] := by
  have whole := identifiers_intercalate (.cons reads .nil) (List.cons_ne_nil text [])
  rwa [String.intercalate_singleton] at whole

namespace Reading

def Accounts (consumed : List Char) : Reading → Prop
  | .bare ended text => ended = [] ∧ consumed = text ∧ '"' ∉ text
  | .quoted ended content => ended = [] ∧ consumed = '"' :: Text.doubled '"' content
  | .closing ended content => ended = [] ∧ consumed = '"' :: Text.doubled '"' content ++ ['"']

theorem accounts_step {consumed : List Char} {state next : Reading} {c : Char}
    (accounts : Accounts consumed state) (other : c ≠ '.') (stepped : state.step c = some next) :
    Accounts (consumed ++ [c]) next := by
  cases state with
  | bare ended text =>
      obtain ⟨rfl, rfl, unquoted⟩ := accounts
      rw [step, if_neg other] at stepped
      split at stepped
      · rename_i quote
        split at stepped
        · rename_i empty
          cases stepped
          rw [List.isEmpty_iff.mp empty, quote]
          exact ⟨rfl, rfl⟩
        · cases stepped
      · rename_i plain
        cases stepped
        refine ⟨rfl, rfl, ?_⟩
        rw [List.mem_append, List.mem_singleton, not_or]
        exact ⟨unquoted, Ne.symm plain⟩
  | quoted ended content =>
      obtain ⟨rfl, rfl⟩ := accounts
      rw [step] at stepped
      split at stepped
      · rename_i quote
        cases stepped
        rw [quote]
        exact ⟨rfl, rfl⟩
      · rename_i plain
        cases stepped
        refine ⟨rfl, ?_⟩
        simp [Text.doubled, plain]
  | closing ended content =>
      obtain ⟨rfl, rfl⟩ := accounts
      rw [step, if_neg other] at stepped
      split at stepped
      · rename_i quote
        cases stepped
        refine ⟨rfl, ?_⟩
        simp [Text.doubled, quote]
      · cases stepped

theorem accounts_read {consumed chars : List Char} {state last : Reading}
    (accounts : Accounts consumed state) (dotless : '.' ∉ chars)
    (read : state.read chars = some last) : Accounts (consumed ++ chars) last := by
  induction chars generalizing consumed state with
  | nil =>
      cases read
      rwa [List.append_nil]
  | cons c rest ih =>
      rw [List.mem_cons, not_or] at dotless
      rw [read_cons, Option.bind_eq_some_iff] at read
      obtain ⟨next, stepped, later⟩ := read
      have onward := ih (accounts_step accounts (Ne.symm dotless.1) stepped) dotless.2 later
      rwa [List.append_assoc, List.singleton_append] at onward

end Reading

theorem identifiers_of_dotless {text : String} {identifiers : List Written}
    (dotless : '.' ∉ text.toList) (read : identifiers? text = some identifiers) :
    (identifiers = [.bare text] ∧ '"' ∉ text.toList) ∨
      ∃ content, identifiers = [.quoted content] ∧
        text = "\"" ++ Text.double '"' content ++ "\"" := by
  rw [identifiers?, Option.bind_eq_some_iff] at read
  obtain ⟨last, reached, finished⟩ := read
  have start : Reading.Accounts [] (.bare [] []) := ⟨rfl, rfl, List.not_mem_nil⟩
  have accounts := Reading.accounts_read start dotless reached
  rw [List.nil_append] at accounts
  cases last with
  | bare ended own =>
      obtain ⟨rfl, rfl, unquoted⟩ := accounts
      cases finished
      left
      rw [String.ofList_toList]
      exact ⟨rfl, unquoted⟩
  | quoted ended content => cases finished
  | closing ended content =>
      obtain ⟨rfl, whole⟩ := accounts
      cases finished
      right
      have quote : "\"".toList = ['"'] := rfl
      refine ⟨String.ofList content, rfl, ?_⟩
      rw [← String.toList_inj, whole, String.toList_append, String.toList_append, quote,
        Text.toList_double, String.toList_ofList, List.singleton_append]

namespace Policy

variable {policy : Policy} {segment : String}

theorem quoted_form_eq (segment : String) :
    quotedForm segment = "\"" ++ Text.double '"' (Text.upper segment) ++ "\"" := by
  have doubled : Text.upper (Text.double '"' segment) = Text.double '"' (Text.upper segment) := by
    rw [← String.toList_inj, Text.toList_upper, Text.toList_double, Text.toList_double,
      Text.toList_upper, Text.upper_chars_doubled (by decide)]
  rw [quotedForm, doubled]

def writtenSegment (policy : Policy) (segment : String) : Written :=
  if segment ≠ "*" ∧ policy.isReserved segment = true then .quoted (Text.upper segment)
  else .bare segment

theorem denoted_written_segment : (policy.writtenSegment segment).denoted = Text.upper segment := by
  unfold writtenSegment
  split <;> rfl

theorem quoted_written_segment_iff : (policy.writtenSegment segment).isQuoted = true ↔
    segment ≠ "*" ∧ policy.isReserved segment = true := by
  unfold writtenSegment
  split
  · rename_i quoted
    exact iff_of_true rfl quoted
  · rename_i plain
    exact iff_of_false Bool.false_ne_true plain

theorem reads_wrap_segment (dotless : '.' ∉ segment.toList)
    (readable : policy.isReserved segment = false → '"' ∉ segment.toList) :
    ReadsAs (policy.wrapSegment segment) (policy.writtenSegment segment) := by
  by_cases star : segment = "*"
  · subst star
    rw [wrapSegment, if_pos rfl, writtenSegment, if_neg fun named => named.1 rfl]
    exact reads_bare (by decide) (by decide)
  · cases reserved : policy.isReserved segment with
    | true =>
        rw [wrap_segment_of_reserved star reserved, quoted_form_eq, writtenSegment,
          if_pos ⟨star, reserved⟩]
        exact reads_quoted _
    | false =>
        have plain : ¬(segment ≠ "*" ∧ policy.isReserved segment = true) := by simp [reserved]
        rw [wrapSegment, if_neg star, reserved, if_neg Bool.false_ne_true, writtenSegment,
          if_neg plain]
        exact reads_bare dotless (readable reserved)

theorem identifiers_wrap {name : String}
    (readable : ∀ segment ∈ Text.splitAt '.' name,
      policy.isReserved segment = false → '"' ∉ segment.toList) :
    identifiers? (policy.wrap name) =
      some ((Text.splitAt '.' name).map policy.writtenSegment) := by
  apply identifiers_intercalate
  · rw [List.forall₂_map_left_iff, List.forall₂_map_right_iff, List.forall₂_same]
    intro segment cut
    exact reads_wrap_segment (Text.separator_not_mem_split cut) (readable segment cut)
  · exact fun empty => Text.segments_ne_nil '.' name.toList
      (List.map_eq_nil_iff.mp (List.map_eq_nil_iff.mp empty))

theorem reserved_of_words_iff {words : List String} : (ofWords words).isReserved segment = true ↔
    ∃ word ∈ words, Text.upper word = Text.upper segment := by
  simp [isReserved, ofWords]

end Policy

/-- An identifier that stands for a segment of a name as it should where `words` are reserved: it
denotes the segment in upper case, and it is quoted just when the segment is a reserved word. -/
structure Written.StandsFor (words : List String) (segment : String) (identifier : Written) :
    Prop where
  denotes : identifier.denoted = Text.upper segment
  quoted_iff : identifier.isQuoted = true ↔
    segment ≠ "*" ∧ ∃ word ∈ words, Text.upper word = Text.upper segment

/-- Whatever words are reserved, a written name is read as one identifier for each segment of the
name, in order, if no segment that is not reserved has double quotes. The names of a list are written
one by one. -/
theorem written_names_keep_meaning (words : List String) :
    (∀ name, (∀ segment ∈ Text.splitAt '.' name,
        (∀ word ∈ words, Text.upper word ≠ Text.upper segment) → '"' ∉ segment.toList) →
      ∃ identifiers, identifiers? ((Policy.ofWords words).wrap name) = some identifiers ∧
        List.Forall₂ (Written.StandsFor words) (Text.splitAt '.' name) identifiers) ∧
    ∀ names, (Policy.ofWords words).columnize names =
      ", ".intercalate (names.map (Policy.ofWords words).wrap) := by
  refine ⟨?_, fun _ => rfl⟩
  intro name readable
  refine ⟨(Text.splitAt '.' name).map (Policy.ofWords words).writtenSegment, ?_, ?_⟩
  · apply Policy.identifiers_wrap
    intro segment cut unreserved
    apply readable segment cut
    intro word listed same
    rw [Policy.reserved_of_words_iff.mpr ⟨word, listed, same⟩] at unreserved
    cases unreserved
  · rw [List.forall₂_map_right_iff, List.forall₂_same]
    intro segment _
    refine ⟨Policy.denoted_written_segment, ?_⟩
    rw [Policy.quoted_written_segment_iff, Policy.reserved_of_words_iff]

theorem written_names_keep_meaning_greeting :
    let words := ["say \"hi\"", "User", "*", ""]
    let name := "app..Say \"Hi\".*.user.straße"
    (∀ segment ∈ Text.splitAt '.' name,
      (∀ word ∈ words, Text.upper word ≠ Text.upper segment) → '"' ∉ segment.toList) ∧
    (Policy.ofWords words).wrap name = "app.\"\".\"SAY \"\"HI\"\"\".*.\"USER\".straße" ∧
    ∃ identifiers, identifiers? ((Policy.ofWords words).wrap name) = some identifiers ∧
      List.Forall₂ (Written.StandsFor words) (Text.splitAt '.' name) identifiers := by
  intro words name
  have readable : ∀ segment ∈ Text.splitAt '.' name,
      (∀ word ∈ words, Text.upper word ≠ Text.upper segment) → '"' ∉ segment.toList := by
    decide +kernel
  exact ⟨readable, by decide +kernel, (written_names_keep_meaning words).1 name readable⟩

end SchemaBlueprint.Identifier
