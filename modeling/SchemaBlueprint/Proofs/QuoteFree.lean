import SchemaBlueprint.Grammar.Definition
import SchemaBlueprint.Proofs.Punctuation

/-!
Texts without single quotes. Nothing that a statement is put together from brings a quote in by
itself: neither a change of case nor the writing of names, numbers and storage types.
-/

namespace SchemaBlueprint

set_option autoImplicit false

def QuoteFree (text : String) : Prop := '\'' ∉ text.toList

instance : DecidablePred QuoteFree := fun text => inferInstanceAs (Decidable ('\'' ∉ text.toList))

namespace QuoteFree

theorem append {front back : String} (first : QuoteFree front) (second : QuoteFree back) :
    QuoteFree (front ++ back) := by
  simp only [QuoteFree, String.toList_append, List.mem_append, not_or]
  exact ⟨first, second⟩

theorem of_chars {chars : List Char} (absent : '\'' ∉ chars) : QuoteFree (String.ofList chars) := by
  rwa [QuoteFree, String.toList_ofList]

theorem intercalate {separator : String} {texts : List String} (apart : QuoteFree separator)
    (free : ∀ text ∈ texts, QuoteFree text) : QuoteFree (separator.intercalate texts) := by
  induction texts with
  | nil => exact of_chars List.not_mem_nil
  | cons text texts ih =>
      have head := free text List.mem_cons_self
      cases texts with
      | nil => simpa using head
      | cons next rest =>
          have tail := ih fun other member => free other (List.mem_cons_of_mem _ member)
          rw [String.intercalate_cons_cons]
          exact (head.append apart).append tail

theorem join {texts : List String} (free : ∀ text ∈ texts, QuoteFree text) :
    QuoteFree (String.join texts) := by
  rw [QuoteFree, String.toList_join, List.mem_flatMap]
  rintro ⟨text, member, quote⟩
  exact free text member quote

theorem double_quotes {text : String} (free : QuoteFree text) : QuoteFree (Text.double '"' text) :=
  of_chars fun quote => free (Text.mem_of_mem_doubled quote)

theorem upper {text : String} (free : QuoteFree text) : QuoteFree (Text.upper text) :=
  of_chars (Text.upper_chars_mark (by decide) free)

theorem wrap_segment (policy : Identifier.Policy) {segment : String} (free : QuoteFree segment) :
    QuoteFree (policy.wrapSegment segment) := by
  have quoted : QuoteFree ("\"" ++ Text.double '"' segment ++ "\"") :=
    (append (by decide) free.double_quotes).append (by decide)
  unfold Identifier.Policy.wrapSegment
  split
  · exact free
  · split
    · exact quoted.upper
    · exact free

theorem wrap (grammar : Grammar) {name : String} (free : QuoteFree name) :
    QuoteFree (grammar.wrap name) := by
  apply intercalate (by decide)
  intro part member
  obtain ⟨segment, cut, rfl⟩ := List.mem_map.mp member
  obtain ⟨chars, inside, rfl⟩ := List.mem_map.mp cut
  apply wrap_segment
  exact of_chars fun quote => free (Text.mem_of_mem_segment inside quote)

theorem columnize (grammar : Grammar) {names : List String}
    (free : ∀ name ∈ names, QuoteFree name) : QuoteFree (grammar.columnize names) := by
  apply intercalate (by decide)
  intro part member
  obtain ⟨name, listed, rfl⟩ := List.mem_map.mp member
  exact wrap grammar (free name listed)

theorem index_name (blueprint : Blueprint) {kindWord : String} {columns : List String}
    (tablePrefix : QuoteFree blueprint.tablePrefix) (table : QuoteFree blueprint.table)
    (named : ∀ name ∈ columns, QuoteFree name) (word : QuoteFree kindWord) :
    QuoteFree (blueprint.indexName kindWord columns) := by
  have joined : QuoteFree (blueprint.tablePrefix ++ blueprint.table ++ "_" ++
      "_".intercalate columns ++ "_" ++ kindWord) :=
    ((((tablePrefix.append table).append (by decide)).append
      (intercalate (by decide) named)).append (by decide)).append word
  apply of_chars
  intro quote
  obtain ⟨c, member, plain⟩ := List.mem_map.mp quote
  unfold Blueprint.plainNameChar at plain
  split at plain
  · cases plain
  · exact Text.lower_chars_mark (by decide) joined (plain ▸ member)

theorem enum_constraint (grammar : Grammar) (table column : String) :
    QuoteFree (grammar.enumConstraint table column) := by
  -- Quotes are dropped when the name of a check is made, so nothing is asked of its parts.
  have unquoted : ∀ text, '\'' ∉ unquotedLower text := by
    intro text quote
    simpa using (List.mem_filter.mp quote).2
  exact (((of_chars (unquoted _)).append (by decide)).append (of_chars (unquoted _))).append
    (by decide)

theorem whole_digits (number : Nat) : '\'' ∉ Decimal.wholeDigits number := by
  intro quote
  have digit := Nat.isDigit_of_mem_toDigits (by decide) (by decide) quote
  exact absurd digit (by decide)

theorem nat_text (number : Nat) : QuoteFree (Decimal.natText number) :=
  of_chars (whole_digits number)

theorem int_text (number : Int) : QuoteFree (Decimal.intText number) := by
  cases number with
  | ofNat number => exact nat_text number
  | negSucc number => exact append (by decide) (nat_text (number + 1))

theorem positional (number : Decimal.Magnitude) : '\'' ∉ Decimal.positional number := by
  have digits := whole_digits number.digits
  have front : ∀ count, '\'' ∉ (Decimal.wholeDigits number.digits).take count :=
    fun count quote => digits (List.mem_of_mem_take quote)
  have back : ∀ count, '\'' ∉ (Decimal.wholeDigits number.digits).drop count :=
    fun count quote => digits (List.mem_of_mem_drop quote)
  unfold Decimal.positional
  dsimp only
  split
  · split <;> simp [digits]
  · split <;> simp [digits, front, back]

theorem float_text (value : Float) : QuoteFree (Decimal.floatText value) := by
  unfold Decimal.floatText Decimal.Binary.text
  cases Decimal.Binary.ofFloat value with
  | notANumber => decide
  | infinite negative => cases negative <;> decide
  | finite negative significand exponent =>
      have magnitude : QuoteFree (String.ofList (Decimal.positional
          (Decimal.shortest significand exponent))) := of_chars (positional _)
      cases negative with
      | true => exact append (by decide) magnitude
      | false => exact magnitude

theorem sized_text {keyword : String} (free : QuoteFree keyword) (length : UInt32)
    (lengthInChar : Bool) : QuoteFree (StorageType.sizedText keyword length lengthInChar) := by
  apply append
  · exact (free.append (by decide)).append (nat_text _)
  · cases lengthInChar <;> decide

theorem floating {keyword : String} (free : QuoteFree keyword) (total places : Option UInt32) :
    QuoteFree (StorageType.floating keyword total places) := by
  have whole : ∀ number : UInt32,
      QuoteFree ("numeric(" ++ Decimal.natText number.toNat ++ ")") :=
    fun number => (append (by decide) (nat_text _)).append (by decide)
  unfold StorageType.floating
  cases total with
  | none => exact free
  | some total =>
      dsimp only
      split
      · exact free
      · cases places with
        | none => exact whole total
        | some places =>
            dsimp only
            split
            · exact whole total
            · exact (((append (by decide) (nat_text _)).append (by decide)).append
                (nat_text _)).append (by decide)

theorem storage_type {grammar : Grammar} {column : Column} {type : String}
    (stored : grammar.storageType column = .ok type) : QuoteFree type := by
  unfold Grammar.storageType StorageType.ofColumn at stored
  cases kind : column.type <;> simp only [kind, Except.ok.injEq] at stored
  case char | string | enum | nvarchar2 | uuid | ipAddress | macAddress =>
    subst stored
    exact sized_text (by decide) _ _
  case float | double =>
    subst stored
    exact floating (by decide) _ _
  case decimal =>
    split at stored
    · cases stored
      exact (((append (by decide) (nat_text _)).append (by decide)).append
        (nat_text _)).append (by decide)
    · cases stored
  all_goals
    subst stored
    decide

end QuoteFree

end SchemaBlueprint
