import SchemaBlueprint.Config.Environment
import SchemaBlueprint.Proofs.IntegerText
import SchemaBlueprint.Proofs.SmallLetters

/-!
Configurations and the named texts that describe them. Each setting has a key of its own, under which
its value is written, and a key may be left out where the setting has its usual value. Whatever
describes a configuration so, that configuration is read from it, and what is wrong with it is what
validation finds.
-/

namespace SchemaBlueprint.Config

set_option autoImplicit false

open Text (SpelledAlike)

def Pads (inner text : String) : Prop :=
  ∃ front back : String, (∀ c ∈ front.toList, Text.isBlank c = true) ∧
    (∀ c ∈ back.toList, Text.isBlank c = true) ∧ text = front ++ inner ++ back

def WritesPort (port : UInt16) (text : String) : Prop :=
  Pads (Decimal.natText port.toNat) text

def flagWords : Bool → List String
  | true => ["true", "yes", "1", "on"]
  | false => ["false", "no", "0", "off", ""]

def WritesFlag (flag : Bool) (text : String) : Prop :=
  ∃ word ∈ flagWords flag, ∃ spelling, SpelledAlike spelling word ∧ Pads spelling text

variable {inner text : String}

theorem Pads.refl (text : String) : Pads text text :=
  ⟨"", "", by simp, by simp, by simp⟩

theorem Pads.trim_chars (pads : Pads inner text) :
    Text.trimChars text.toList = Text.trimChars inner.toList := by
  obtain ⟨front, back, frontBlank, backBlank, rfl⟩ := pads
  rw [String.toList_append, String.toList_append, Text.trim_chars_around frontBlank backBlank]

theorem port_of_written {port : UInt16} (written : WritesPort port text) :
    port? text = some port := by
  have bound : port.toNat ≤ 0xFFFF := Nat.le_of_lt_succ port.toNat_lt
  rw [port?, written.trim_chars, Decimal.trim_nat_text, Decimal.read_nat_text bound,
    Option.map_some, UInt16.ofNat_toNat]

theorem flag_of_alike {left right : String} (alike : SpelledAlike left right) :
    flag? left = flag? right := by
  have folded : ∀ word : String, Text.lowerChars (Text.trimChars word.toList) =
      Text.lowerChars (Text.trimChars (Text.asciiFold word)) := by
    intro word
    rw [Text.asciiFold, Text.trim_chars_fold, Text.lower_chars_fold]
  rw [flag?, flag?, folded left, folded right, alike]

theorem flag_of_word : ∀ flag, ∀ word ∈ flagWords flag, flag? word = some flag := by
  decide +kernel

theorem flag_of_written {flag : Bool} (written : WritesFlag flag text) :
    flag? text = some flag := by
  obtain ⟨word, listed, spelling, alike, pads⟩ := written
  have trimmed : flag? text = flag? spelling := by
    rw [flag?, flag?, pads.trim_chars]
  rw [trimmed, flag_of_alike alike, flag_of_word flag word listed]

variable {lookup : String → Option String} {config : Config}

/-- What is found under a key writes the value of a setting, or nothing is found there and the value
is the usual one. -/
def Tells {α : Type} (lookup : String → Option String) (key : String)
    (writes : α → String → Prop) (usual value : α) : Prop :=
  match lookup key with
  | some text => writes value text
  | none => value = usual

structure Describes (lookup : String → Option String) (config : Config) : Prop where
  tns : Tells lookup "DB_TNS" Eq ({} : ConnectionSettings).tns config.connection.tns
  host : Tells lookup "DB_HOST" Eq ({} : ConnectionSettings).host config.connection.host
  port : Tells lookup "DB_PORT" WritesPort ({} : ConnectionSettings).port config.connection.port
  database : Tells lookup "DB_DATABASE" Eq ({} : ConnectionSettings).database
    config.connection.database
  username : Tells lookup "DB_USERNAME" Eq ({} : ConnectionSettings).username
    config.connection.username
  password : Tells lookup "DB_PASSWORD" Eq ({} : ConnectionSettings).password
    config.connection.password
  charset : Tells lookup "DB_CHARSET" Eq ({} : ConnectionSettings).charset
    config.connection.charset
  odbcDriver : Tells lookup "DB_ODBC_DRIVER" Eq ({} : ConnectionSettings).odbcDriver
    config.connection.odbcDriver
  tablePrefix : Tells lookup "DB_PREFIX" Eq ({} : GrammarSettings).tablePrefix
    config.grammar.tablePrefix
  schemaPrefix : Tells lookup "DB_SCHEMA_PREFIX" Eq ({} : GrammarSettings).schemaPrefix
    config.grammar.schemaPrefix
  lengthInChar : Tells lookup "DB_LENGTH_IN_CHAR" WritesFlag ({} : GrammarSettings).lengthInChar
    config.grammar.lengthInChar
  strictMode : Tells lookup "DB_STRICT_MODE" WritesFlag ({} : GrammarSettings).strictMode
    config.grammar.strictMode

section Reading

variable {key : String}

theorem text_of_told {usual value : String} (told : Tells lookup key Eq usual value) :
    (lookup key).getD usual = value := by
  unfold Tells at told
  cases found : lookup key with
  | none =>
      rw [found] at told
      exact told.symm
  | some text =>
      rw [found] at told
      exact told.symm

theorem read_port_of_told {usual port : UInt16} (told : Tells lookup "DB_PORT" WritesPort usual port) :
    readPort lookup usual = .ok port := by
  unfold Tells at told
  unfold readPort
  cases found : lookup "DB_PORT" with
  | none =>
      rw [found] at told
      exact congrArg Except.ok told.symm
  | some text =>
      rw [found] at told
      simp only [port_of_written told]

theorem read_flag_of_told {usual flag : Bool} (told : Tells lookup key WritesFlag usual flag) :
    readFlag lookup key usual = .ok flag := by
  unfold Tells at told
  unfold readFlag
  cases found : lookup key with
  | none =>
      rw [found] at told
      exact congrArg Except.ok told.symm
  | some text =>
      rw [found] at told
      simp only [flag_of_written told]

end Reading

/-- No key names the driver, so what is described has to have the usual one. -/
theorem read_lookup_of_described (driver : config.connection.driver = "dm")
    (described : Describes lookup config) : readLookup lookup = .ok config := by
  have connection : config.connection =
      { driver := "dm"
        tns := config.connection.tns
        host := config.connection.host
        port := config.connection.port
        database := config.connection.database
        username := config.connection.username
        password := config.connection.password
        charset := config.connection.charset
        odbcDriver := config.connection.odbcDriver } := by
    rw [← driver]
  unfold readLookup
  simp only [read_port_of_told described.port, read_flag_of_told described.lengthInChar,
    read_flag_of_told described.strictMode, text_of_told described.tns, text_of_told described.host,
    text_of_told described.database, text_of_told described.username,
    text_of_told described.password, text_of_told described.charset,
    text_of_told described.odbcDriver, text_of_told described.tablePrefix,
    text_of_told described.schemaPrefix]
  exact congrArg (fun connection => Except.ok { config with connection := connection })
    connection.symm

def entries (config : Config) : List (String × String) :=
  [("DB_TNS", config.connection.tns), ("DB_HOST", config.connection.host),
   ("DB_PORT", Decimal.natText config.connection.port.toNat),
   ("DB_DATABASE", config.connection.database), ("DB_USERNAME", config.connection.username),
   ("DB_PASSWORD", config.connection.password), ("DB_CHARSET", config.connection.charset),
   ("DB_ODBC_DRIVER", config.connection.odbcDriver), ("DB_PREFIX", config.grammar.tablePrefix),
   ("DB_SCHEMA_PREFIX", config.grammar.schemaPrefix),
   ("DB_LENGTH_IN_CHAR", if config.grammar.lengthInChar then "true" else "false"),
   ("DB_STRICT_MODE", if config.grammar.strictMode then "true" else "false")]

theorem flag_word_written (flag : Bool) : WritesFlag flag (if flag then "true" else "false") := by
  cases flag with
  | true => exact ⟨"true", by decide, "true", Text.SpelledAlike.refl _, Pads.refl _⟩
  | false => exact ⟨"false", by decide, "false", Text.SpelledAlike.refl _, Pads.refl _⟩

theorem described_by_entries (config : Config) :
    Describes (fun key => config.entries.lookup key) config where
  tns := rfl
  host := rfl
  port := Pads.refl _
  database := rfl
  username := rfl
  password := rfl
  charset := rfl
  odbcDriver := rfl
  tablePrefix := rfl
  schemaPrefix := rfl
  lengthInChar := flag_word_written _
  strictMode := flag_word_written _

/-- A configuration with the usual driver is described by all its settings under their keys. From
whatever describes it, with some of the usual values left out, it is read if validation accepts it,
and what validation finds is reported if not. -/
theorem described_config_is_loaded (config : Config) (driver : config.connection.driver = "dm") :
    Describes (fun key => config.entries.lookup key) config ∧
    ∀ lookup, Describes lookup config →
      (∀ accepted, config.validate = .ok accepted → ofLookup lookup = .ok config) ∧
      ∀ error, config.validate = .error error → ofLookup lookup = .error error := by
  refine ⟨described_by_entries config, ?_⟩
  intro lookup described
  have loaded : ofLookup lookup = config.validate := by
    rw [ofLookup, read_lookup_of_described driver described]
    rfl
  have own : ∀ accepted, config.validate = .ok accepted → accepted = config := by
    intro accepted valid
    unfold validate at valid
    split at valid
    · cases valid
    · exact (Except.ok.inj valid).symm
  constructor
  · intro accepted valid
    rw [loaded, valid, own accepted valid]
  · intro error refused
    rw [loaded, refused]

def staging : Config where
  connection := { host := "db1", port := 5300, database := "APP", username := "SYSDBA" }
  grammar := { lengthInChar := false, strictMode := true }

def stagingEntries : List (String × String) :=
  [("DB_HOST", "db1"), ("DB_PORT", "5300"), ("DB_DATABASE", "APP"), ("DB_USERNAME", "SYSDBA"),
   ("DB_LENGTH_IN_CHAR", "\tOff"), ("DB_STRICT_MODE", " YES\n")]

theorem staging_described : Describes (fun key => stagingEntries.lookup key) staging where
  tns := rfl
  host := rfl
  port := Pads.refl "5300"
  database := rfl
  username := rfl
  password := rfl
  charset := rfl
  odbcDriver := rfl
  tablePrefix := rfl
  schemaPrefix := rfl
  lengthInChar := ⟨"off", by decide, "Off", by decide, "\t", "", List.all_eq_true.mp (by decide),
    List.all_eq_true.mp (by decide), rfl⟩
  strictMode := ⟨"yes", by decide, "YES", by decide, " ", "\n", List.all_eq_true.mp (by decide),
    List.all_eq_true.mp (by decide), rfl⟩

theorem described_config_is_loaded_staging :
    (staging.connection.driver = "dm" ∧
      Describes (fun key => stagingEntries.lookup key) staging ∧
      ofLookup (fun key => stagingEntries.lookup key) = .ok staging) ∧
    (Describes (fun _ => none) { connection := {} } ∧
      ofLookup (fun _ => none) = .error (.config .serverMissing)) := by
  have valid : staging.validate = .ok staging := by rfl
  obtain ⟨-, loaded⟩ := described_config_is_loaded staging rfl
  have usual : Describes (fun _ => none) { connection := {} } := by
    constructor <;> rfl
  have refused : validate { connection := {} } = .error (.config .serverMissing) := by rfl
  obtain ⟨-, reported⟩ := described_config_is_loaded { connection := {} } rfl
  exact ⟨⟨rfl, staging_described, (loaded _ staging_described).1 _ valid⟩, usual,
    (reported _ usual).2 _ refused⟩

end SchemaBlueprint.Config
