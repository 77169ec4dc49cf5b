import SchemaBlueprint.Catalog.TypeRegistry
import SchemaBlueprint.Proofs.SmallLetters

/-!
The families of storage types. A storage type is a keyword, which may have parameters behind it, and
its base name is the keyword again, however long the column is and however many digits it has. So
the value that is made up for a column depends on its abstract type alone, and a catalog that
reports the storage type in any spelling gives it the meaning of the keyword.
-/

namespace SchemaBlueprint

set_option autoImplicit false

namespace StorageType

open Text (SpelledAlike)

theorem base_name_of_alike {left right : String} (alike : SpelledAlike left right) :
    baseName left = baseName right := by
  have folded : ∀ type : String, baseName type = String.ofList
      (Text.lowerChars (Text.trimChars ((Text.asciiFold type).takeWhile (· ≠ '(')))) := by
    intro type
    have open_alike : (fun c : Char => decide (c ≠ '(')) ∘ Char.toLower =
        fun c => decide (c ≠ '(') := by
      funext c
      simp [Text.to_lower_eq_iff]
    rw [Text.asciiFold, List.takeWhile_map, open_alike, Text.trim_chars_fold, Text.lower_chars_fold,
      baseName]
  rw [folded, folded, alike]

theorem base_name_of_parameters (keyword parameters : String) :
    baseName (keyword ++ "(" ++ parameters) = baseName keyword := by
  have cut : ∀ chars rest : List Char, (chars ++ '(' :: rest).takeWhile (· ≠ '(') =
      chars.takeWhile (· ≠ '(') := by
    intro chars rest
    induction chars with
    | nil => simp
    | cons c chars ih =>
        rw [List.cons_append, List.takeWhile_cons, List.takeWhile_cons, ih]
  have whole : (keyword ++ "(" ++ parameters).toList =
      keyword.toList ++ '(' :: parameters.toList := by
    simp
  rw [baseName, baseName, whole, cut]

theorem base_name_sized (keyword : String) (length : UInt32) (lengthInChar : Bool) :
    baseName (sizedText keyword length lengthInChar) = baseName keyword := by
  rw [sizedText, String.append_assoc, base_name_of_parameters]

theorem base_name_floating (keyword : String) (total places : Option UInt32) :
    baseName (floating keyword total places) =
      if total.getD 0 = 0 then baseName keyword else baseName "numeric" := by
  have exact : ∀ parameters, baseName ("numeric(" ++ parameters) = baseName "numeric" :=
    base_name_of_parameters "numeric"
  unfold floating
  cases total with
  | none => rfl
  | some total =>
      dsimp only [Option.getD_some]
      split
      · rfl
      · cases places with
        | none => rw [String.append_assoc, exact]
        | some places =>
            dsimp only
            split
            · rw [String.append_assoc, exact]
            · rw [String.append_assoc, String.append_assoc, String.append_assoc, exact]

def keyword (column : Column) : String :=
  match column.type with
  | .char | .string | .enum | .uuid | .ipAddress | .macAddress => "varchar2"
  | .nvarchar2 => "nvarchar2"
  | .text | .mediumText | .longText => "text"
  | .bigInteger => "bigint"
  | .integer | .mediumInteger => "int"
  | .smallInteger => "smallint"
  | .tinyInteger | .boolean => "tinyint"
  | .float => if column.total.getD 0 = 0 then "float" else "numeric"
  | .double => if column.total.getD 0 = 0 then "double" else "numeric"
  | .decimal => "decimal"
  | .date | .dateTime | .time => "date"
  | .timestamp => "timestamp"
  | .timestampTz => "timestamp with time zone"
  | .binary => "blob"
  | .json => "json"
  | .jsonb => "jsonb"

variable {lengthInChar : Bool} {column : Column} {type : String}

/-- What a catalog is taken to say about the storage type of a column. -/
def reportedMeaning (column : Column) : Option String :=
  match column.type with
  | .char | .string | .enum | .nvarchar2 | .uuid | .ipAddress | .macAddress => some "string"
  | .text | .mediumText | .longText => some "text"
  | .bigInteger => some "bigint"
  | .integer | .mediumInteger => some "integer"
  | .smallInteger | .tinyInteger | .boolean => some "smallint"
  | .float | .double => if column.total.getD 0 = 0 then some "float" else some "decimal"
  | .decimal => some "decimal"
  | .date | .dateTime | .time => some "date"
  | .timestamp | .timestampTz => some "datetime"
  | .binary => some "blob"
  | .json => some "json"
  | .jsonb => none

def keywordMeanings : List (String × Option String) :=
  [("varchar2", some "string"), ("nvarchar2", some "string"), ("text", some "text"),
   ("bigint", some "bigint"), ("int", some "integer"), ("smallint", some "smallint"),
   ("tinyint", some "smallint"), ("float", some "float"), ("double", some "float"),
   ("numeric", some "decimal"), ("decimal", some "decimal"), ("date", some "date"),
   ("timestamp", some "datetime"), ("timestamp with time zone", some "datetime"),
   ("blob", some "blob"), ("json", some "json"), ("jsonb", none)]

theorem keyword_listed (column : Column) :
    (keyword column, reportedMeaning column) ∈ keywordMeanings := by
  unfold keyword reportedMeaning
  cases column.type
  case float | double =>
    dsimp only
    split <;> decide
  all_goals
    dsimp only
    decide

theorem base_name_of_keyword (column : Column) : baseName (keyword column) = keyword column := by
  have own : ∀ entry ∈ keywordMeanings, baseName entry.1 = entry.1 := by decide +kernel
  exact own (keyword column, reportedMeaning column) (keyword_listed column)

theorem base_name_of_stored (stored : ofColumn lengthInChar column = .ok type) :
    baseName type = baseName (keyword column) := by
  unfold ofColumn at stored
  unfold keyword
  cases kind : column.type <;> simp only [kind, Except.ok.injEq] at stored ⊢
  case char | string | enum | nvarchar2 | uuid | ipAddress | macAddress =>
    rw [← stored, base_name_sized]
  case float | double =>
    rw [← stored, base_name_floating, apply_ite baseName]
  case decimal =>
    split at stored
    · rw [← Except.ok.inj stored, String.append_assoc, String.append_assoc, String.append_assoc]
      exact base_name_of_parameters "decimal" _
    · cases stored
  all_goals rw [← stored]

/-- The value that a column of this type gets when it may not be null and is given none. -/
def familyDefault : ColumnType → Option DefaultValue
  | .char | .string | .nvarchar2 | .enum | .text | .mediumText | .longText | .uuid | .ipAddress
  | .macAddress => some (.text "")
  | .bigInteger | .integer | .mediumInteger | .smallInteger | .tinyInteger | .boolean | .float
  | .double | .decimal => some (.int 0)
  | .date | .dateTime | .time => some (.text "1970-01-01")
  | .timestamp | .timestampTz => some (.text "1970-01-01 00:00:00")
  | .json | .jsonb => some (.text "\x7b\x7d")
  | .binary => none

theorem default_of_keyword (column : Column) :
    implicitDefaultOfBase (keyword column) = familyDefault column.type := by
  unfold keyword
  cases column.type
  case float | double =>
    dsimp only
    split <;> rfl
  case timestampTz | binary =>
    -- These are in none of the lists in front of the search for dates and times within the name.
    simp [implicitDefaultOfBase, textTypes, documentTypes, numericTypes, instantTypes, byteTypes,
      Text.isWithin, epochInstant, familyDefault]
  all_goals rfl

/-- Whatever its length and its digits are, a column is stored so that the value made up for it is
that of its abstract type. -/
theorem implicit_default_of_stored (lengthInChar : Bool) (column : Column) (type : String)
    (stored : ofColumn lengthInChar column = .ok type) :
    implicitDefault type = familyDefault column.type := by
  rw [implicitDefault, base_name_of_stored stored, base_name_of_keyword, default_of_keyword]

theorem implicit_default_of_stored_amount :
    ofColumn true { name := "amount", type := .double, total := some 12, places := some 4 } =
        .ok "numeric(12, 4)" ∧
      implicitDefault "numeric(12, 4)" = some (.int 0) ∧
    ofColumn true { name := "token", type := .uuid, length := some 0 } = .ok "varchar2(36 char)" ∧
      implicitDefault "varchar2(36 char)" = some (.text "") ∧
    ofColumn true { name := "paid", type := .timestampTz, length := some 6 } =
        .ok "timestamp with time zone" ∧
      implicitDefault "timestamp with time zone" = some (.text "1970-01-01 00:00:00") := by
  have amount : ofColumn true
      { name := "amount", type := .double, total := some 12, places := some 4 } =
        .ok "numeric(12, 4)" := by rfl
  have token : ofColumn true { name := "token", type := .uuid, length := some 0 } =
      .ok "varchar2(36 char)" := by rfl
  have paid : ofColumn true { name := "paid", type := .timestampTz, length := some 6 } =
      .ok "timestamp with time zone" := by rfl
  exact ⟨amount, implicit_default_of_stored _ _ _ amount, token,
    implicit_default_of_stored _ _ _ token, paid, implicit_default_of_stored _ _ _ paid⟩

end StorageType

namespace Catalog.TypeRegistry

open Text (SpelledAlike)
open StorageType (baseName keyword reportedMeaning keywordMeanings keyword_listed)

theorem meaning_of_same_base {registry : TypeRegistry} {type other : String}
    (same : baseName type = baseName other) : registry.meaning? type = registry.meaning? other := by
  rw [meaning?, meaning?, same]

theorem meaning_of_keyword (column : Column) :
    standard.meaning? (keyword column) = reportedMeaning column := by
  have known : ∀ entry ∈ keywordMeanings, standard.meaning? entry.1 = entry.2 := by decide +kernel
  exact known (keyword column, reportedMeaning column) (keyword_listed column)

/-- In whatever spelling the catalog reports the storage type of a column, the type has the meaning
of its keyword. Every column has a meaning there but one of binary documents, whose keyword is not
among the types that are known from the start. -/
theorem storage_type_known_iff (lengthInChar : Bool) (column : Column) (type reported : String)
    (stored : StorageType.ofColumn lengthInChar column = .ok type)
    (alike : SpelledAlike type reported) :
    standard.meaning? reported = reportedMeaning column ∧
      ((standard.meaning? reported).isSome = true ↔ column.type ≠ .jsonb) := by
  have base : baseName reported = baseName (keyword column) :=
    (StorageType.base_name_of_alike alike).symm.trans (StorageType.base_name_of_stored stored)
  have meaning : standard.meaning? reported = reportedMeaning column := by
    rw [meaning_of_same_base base, meaning_of_keyword]
  refine ⟨meaning, ?_⟩
  rw [meaning, reportedMeaning]
  cases column.type
  case float | double =>
    dsimp only
    split <;> simp
  all_goals simp

theorem storage_type_known_iff_price :
    StorageType.ofColumn false
        { name := "price", type := .float, total := some 8, places := some 2 } =
      .ok "numeric(8, 2)" ∧
    SpelledAlike "numeric(8, 2)" "NUMERIC(8, 2)" ∧
    standard.meaning? "NUMERIC(8, 2)" = some "decimal" := by
  have stored : StorageType.ofColumn false
      { name := "price", type := .float, total := some 8, places := some 2 } =
        .ok "numeric(8, 2)" := by rfl
  have alike : SpelledAlike "numeric(8, 2)" "NUMERIC(8, 2)" := by decide
  exact ⟨stored, alike, (storage_type_known_iff _ _ _ _ stored alike).1⟩

/-- A column of binary documents is stored as a type that the catalog then does not know. -/
theorem document_type_unknown :
    StorageType.ofColumn true { name := "payload", type := .jsonb } = .ok "jsonb" ∧
      standard.meaning? "jsonb" = none := by
  exact ⟨rfl, by decide +kernel⟩

end Catalog.TypeRegistry

end SchemaBlueprint
