import SchemaBlueprint.Config.Validation
import SchemaBlueprint.Proofs.IntegerText

/-!
Connection strings read back. An attribute is a key and a value with an equals sign between them and
a semicolon behind. A value that begins with an opening brace runs to the closing one, and any other
value to the next semicolon. Settings are written without escapes, so they come back just when no
value runs into such a mark.
-/

namespace SchemaBlueprint.ConnectionSettings

set_option autoImplicit false

/-- Where a character of a connection string stands, with what has been read of its attribute. -/
inductive Place where
  | key (key : List Char)
  | opening (key : List Char)
  | bare (key value : List Char)
  | braced (key value : List Char)
  | closed (key value : List Char)

@[simp]
def readFrom : Place → List Char → Option (List (String × String))
  | .key key, [] => if key.isEmpty then some [] else none
  | .key key, c :: rest =>
      if c = '=' then readFrom (.opening key) rest
      else if c = ';' then none
      else readFrom (.key (key ++ [c])) rest
  | .opening _, [] => none
  | .opening key, c :: rest =>
      if c = '{' then readFrom (.braced key []) rest
      else if c = ';' then (readFrom (.key []) rest).map ((String.ofList key, "") :: ·)
      else readFrom (.bare key [c]) rest
  | .bare _ _, [] => none
  | .bare key value, c :: rest =>
      if c = ';' then
        (readFrom (.key []) rest).map ((String.ofList key, String.ofList value) :: ·)
      else readFrom (.bare key (value ++ [c])) rest
  | .braced _ _, [] => none
  | .braced key value, c :: rest =>
      if c = '}' then readFrom (.closed key value) rest
      else readFrom (.braced key (value ++ [c])) rest
  | .closed _ _, [] => none
  | .closed key value, c :: rest =>
      if c = ';' then
        (readFrom (.key []) rest).map ((String.ofList key, String.ofList value) :: ·)
      else none

def readAttributes? (text : String) : Option (List (String × String)) :=
  readFrom (.key []) text.toList

example :
    readAttributes? "A=\x7bx;y\x7d;B=;C==\x7b;" =
      some [("A", "x;y"), ("B", ""), ("C", "=\x7b")] ∧
    readAttributes? "A=x" = none ∧ readAttributes? "A=\x7bx;" = none ∧
    readAttributes? "A=\x7bx\x7dy;" = none := by
  decide

def StandsBare (value : List Char) : Prop := ';' ∉ value ∧ value.head? ≠ some '{'

instance : DecidablePred StandsBare := fun value =>
  inferInstanceAs (Decidable (';' ∉ value ∧ value.head? ≠ some '{'))

variable {key front value rest : List Char} {others : List (String × String)}

theorem read_collected (place : List Char → Place) (mark : Char → Prop)
    (collects : ∀ front c rest, ¬ mark c →
      readFrom (place front) (c :: rest) = readFrom (place (front ++ [c])) rest)
    (unmarked : ∀ c ∈ value, ¬ mark c) :
    readFrom (place front) (value ++ rest) = readFrom (place (front ++ value)) rest := by
  induction value generalizing front with
  | nil => rw [List.nil_append, List.append_nil]
  | cons c tail ih =>
      obtain ⟨first, others⟩ := List.forall_mem_cons.mp unmarked
      rw [List.cons_append, collects front c _ first, ih others, List.append_assoc,
        List.singleton_append]

theorem read_key (named : '=' ∉ value) (endless : ';' ∉ value) :
    readFrom (.key front) (value ++ '=' :: rest) = readFrom (.opening (front ++ value)) rest := by
  rw [read_collected .key (fun c => c = '=' ∨ c = ';'), readFrom, if_pos rfl]
  · intro front c rest other
    rw [not_or] at other
    rw [readFrom, if_neg other.1, if_neg other.2]
  · rintro c member (rfl | rfl)
    · exact named member
    · exact endless member

theorem read_bare (endless : ';' ∉ value) :
    readFrom (.bare key front) (value ++ ';' :: rest) =
      (readFrom (.key []) rest).map ((String.ofList key, String.ofList (front ++ value)) :: ·) := by
  rw [read_collected (.bare key) (· = ';'), readFrom, if_pos rfl]
  · intro front c rest other
    rw [readFrom, if_neg other]
  · rintro c member rfl
    exact endless member

theorem read_within_braces (unclosed : '}' ∉ value) :
    readFrom (.braced key front) (value ++ rest) =
      readFrom (.braced key (front ++ value)) rest := by
  apply read_collected (.braced key) (· = '}')
  · intro front c rest other
    rw [readFrom, if_neg other]
  · rintro c member rfl
    exact unclosed member

theorem read_braced (unclosed : '}' ∉ value) :
    readFrom (.braced key front) (value ++ '}' :: rest) =
      readFrom (.closed key (front ++ value)) rest := by
  rw [read_within_braces unclosed, readFrom, if_pos rfl]

theorem read_unclosed (unclosed : '}' ∉ value) : readFrom (.braced key front) value = none := by
  have read := @read_within_braces key front value [] unclosed
  rwa [List.append_nil, readFrom] at read

theorem read_opening (unbraced : value.head? ≠ some '{') :
    readFrom (.opening key) value = readFrom (.bare key []) value := by
  cases value with
  | nil => rfl
  | cons c tail =>
      have other : c ≠ '{' := by simpa using unbraced
      rw [readFrom, if_neg other, readFrom]
      rfl

theorem ended_iff {read : List Char} :
    (readFrom (.key []) rest).map ((String.ofList key, String.ofList read) :: ·) =
        some ((String.ofList key, String.ofList value) :: others) ↔
      read = value ∧ readFrom (.key []) rest = some others := by
  rw [Option.map_eq_some_iff]
  constructor
  · rintro ⟨found, later, same⟩
    obtain ⟨first, rfl⟩ := List.cons.inj same
    exact ⟨String.ofList_injective (Prod.mk.inj first).2, later⟩
  · rintro ⟨rfl, later⟩
    exact ⟨others, later, rfl⟩

theorem value_of_closed {read : List Char}
    (found : readFrom (.closed key read) rest =
      some ((String.ofList key, String.ofList value) :: others)) : read = value := by
  cases rest with
  | nil => cases found
  | cons c tail =>
      rw [readFrom] at found
      split at found
      · exact (ended_iff.mp found).1
      · cases found

/-- A value that begins with a brace is never read as it stands: it loses the brace, and what is
read instead would have to begin with one brace more than it does. -/
theorem not_read_of_braced {tail : List Char} :
    readFrom (.opening key) ('{' :: tail ++ ';' :: rest) ≠
      some ((String.ofList key, String.ofList ('{' :: tail)) :: others) := by
  intro found
  rw [List.cons_append, readFrom, if_pos rfl] at found
  by_cases closes : '}' ∈ tail ++ ';' :: rest
  · obtain ⟨inner, behind, split, unclosed⟩ := List.eq_append_cons_of_mem closes
    rw [split, read_braced unclosed, List.nil_append] at found
    -- The value that is read is cut out behind the first brace, so it begins what stands there.
    have longer : '{' :: tail <+: tail ++ ';' :: rest := by
      rw [split, ← value_of_closed found]
      exact List.prefix_append _ _
    have whole : tail ++ [';'] <+: tail ++ ';' :: rest := by
      rw [List.prefix_append_right_inj]
      exact ⟨rest, rfl⟩
    have within := List.prefix_of_prefix_length_le longer whole (by simp)
    have same := within.eq_of_length (by simp)
    have braces := congrArg (List.count '{') same
    simp at braces
  · rw [read_unclosed closes] at found
    cases found

theorem bare_value_iff :
    readFrom (.opening key) (value ++ ';' :: rest) =
        some ((String.ofList key, String.ofList value) :: others) ↔
      StandsBare value ∧ readFrom (.key []) rest = some others := by
  by_cases braced : value.head? = some '{'
  · obtain ⟨tail, rfl⟩ := List.head?_eq_some_iff.mp braced
    constructor
    · intro found
      exact absurd found not_read_of_braced
    · rintro ⟨bare, _⟩
      exact absurd braced bare.2
  · have unbraced : (value ++ ';' :: rest).head? ≠ some '{' := by
      cases value with
      | nil => simp
      | cons c tail => simpa using braced
    rw [read_opening unbraced]
    by_cases ends : ';' ∈ value
    · obtain ⟨front, back, rfl, endless⟩ := List.eq_append_cons_of_mem ends
      rw [List.append_assoc, List.cons_append, read_bare endless, ended_iff, List.nil_append]
      constructor
      · rintro ⟨same, _⟩
        have lengths := congrArg List.length same
        simp at lengths
      · rintro ⟨bare, _⟩
        exact absurd ends bare.1
    · rw [read_bare ends, List.nil_append, ended_iff]
      simp [StandsBare, ends, braced]

theorem braced_value_iff :
    readFrom (.opening key) ('{' :: (value ++ '}' :: ';' :: rest)) =
        some ((String.ofList key, String.ofList value) :: others) ↔
      '}' ∉ value ∧ readFrom (.key []) rest = some others := by
  rw [readFrom, if_pos rfl]
  by_cases closes : '}' ∈ value
  · obtain ⟨front, back, rfl, unclosed⟩ := List.eq_append_cons_of_mem closes
    rw [List.append_assoc, List.cons_append, read_braced unclosed, List.nil_append]
    constructor
    · intro found
      have lengths := congrArg List.length (value_of_closed found)
      simp at lengths
    · rintro ⟨absent, _⟩
      exact absurd closes absent
  · rw [read_braced closes, List.nil_append, readFrom, if_pos rfl, ended_iff]
    simp [closes]

def IsKey (key : String) : Prop := '=' ∉ key.toList ∧ ';' ∉ key.toList

instance : DecidablePred IsKey := fun key =>
  inferInstanceAs (Decidable ('=' ∉ key.toList ∧ ';' ∉ key.toList))

def bareText (key value : String) (rest : List Char) : List Char :=
  key.toList ++ '=' :: (value.toList ++ ';' :: rest)

def bracedText (key value : String) (rest : List Char) : List Char :=
  key.toList ++ '=' :: '{' :: (value.toList ++ '}' :: ';' :: rest)

theorem bare_text_iff {key value : String} (isKey : IsKey key) :
    readFrom (.key []) (bareText key value rest) = some ((key, value) :: others) ↔
      StandsBare value.toList ∧ readFrom (.key []) rest = some others := by
  rw [bareText, read_key isKey.1 isKey.2, List.nil_append]
  have read := @bare_value_iff key.toList value.toList rest others
  rwa [String.ofList_toList, String.ofList_toList] at read

theorem braced_text_iff {key value : String} (isKey : IsKey key) :
    readFrom (.key []) (bracedText key value rest) = some ((key, value) :: others) ↔
      '}' ∉ value.toList ∧ readFrom (.key []) rest = some others := by
  rw [bracedText, read_key isKey.1 isKey.2, List.nil_append]
  have read := @braced_value_iff key.toList value.toList rest others
  rwa [String.ofList_toList, String.ofList_toList] at read

def attributes (settings : ConnectionSettings) : List (String × String) :=
  [("Driver", settings.odbcDriver), ("Server", settings.server)] ++
    (if settings.tns.isEmpty then [("TCP_Port", Decimal.natText settings.port.toNat)] else []) ++
    [("UID", settings.username), ("PWD", settings.password), ("CHARSET", settings.charset)]

def portText (settings : ConnectionSettings) (rest : List Char) : List Char :=
  if settings.tns.isEmpty then bareText "TCP_Port" (Decimal.natText settings.port.toNat) rest
  else rest

theorem connection_string_chars (settings : ConnectionSettings) :
    settings.connectionString.toList =
      bracedText "Driver" settings.odbcDriver
        (bareText "Server" settings.server
          (settings.portText
            (bareText "UID" settings.username
              (bareText "PWD" settings.password (bareText "CHARSET" settings.charset []))))) := by
  have opening : "Driver=\x7b".toList = "Driver".toList ++ ['=', '{'] := by simp
  have closing : "\x7d;".toList = ['}', ';'] := by simp
  have named : "Server=".toList = "Server".toList ++ ['='] := by simp
  have reached : ";TCP_Port=".toList = ';' :: ("TCP_Port".toList ++ ['=']) := by simp
  have user : "UID=".toList = "UID".toList ++ ['='] := by simp
  have password : ";PWD=".toList = ';' :: ("PWD".toList ++ ['=']) := by simp
  have charset : ";CHARSET=".toList = ';' :: ("CHARSET".toList ++ ['=']) := by simp
  have ending : ";".toList = [';'] := by simp
  unfold connectionString serverAttributes server portText
  split
  · simp only [String.toList_append, opening, closing, named, reached, user, password, charset,
      ending, bracedText, bareText, List.append_assoc, List.cons_append, List.nil_append]
  · simp only [String.toList_append, opening, closing, named, user, password, charset,
      ending, bracedText, bareText, List.append_assoc, List.cons_append, List.nil_append]

theorem port_stands_bare (number : Nat) : StandsBare (Decimal.natText number).toList := by
  have digits : ∀ c ∈ (Decimal.natText number).toList, c.isDigit = true := by
    intro c member
    rw [Decimal.natText, String.toList_ofList] at member
    exact Decimal.whole_digits_are_digits member
  constructor
  · intro member
    exact absurd (digits _ member) (by decide)
  · intro first
    exact absurd (digits _ (List.mem_of_head? first)) (by decide)

/-- Settings are read back from their connection string just when the name of the driver has no
closing brace and no other value has a semicolon or begins with an opening brace. -/
theorem settings_read_back_iff (settings : ConnectionSettings) :
    readAttributes? settings.connectionString = some settings.attributes ↔
      '}' ∉ settings.odbcDriver.toList ∧
        ∀ value ∈ [settings.server, settings.username, settings.password, settings.charset],
          StandsBare value.toList := by
  have port := port_stands_bare settings.port.toNat
  have account : readFrom (.key []) (bareText "UID" settings.username
      (bareText "PWD" settings.password (bareText "CHARSET" settings.charset []))) =
        some [("UID", settings.username), ("PWD", settings.password),
          ("CHARSET", settings.charset)] ↔
      StandsBare settings.username.toList ∧ StandsBare settings.password.toList ∧
        StandsBare settings.charset.toList := by
    rw [bare_text_iff (by decide), bare_text_iff (by decide), bare_text_iff (by decide)]
    simp
  rw [readAttributes?, connection_string_chars, attributes, portText, List.cons_append,
    List.cons_append, List.cons_append, List.cons_append, braced_text_iff (by decide),
    List.nil_append, bare_text_iff (by decide)]
  split
  · rw [List.singleton_append, bare_text_iff (by decide), account]
    simp [port]
  · rw [List.nil_append, account]
    simp

def withSemicolon : ConnectionSettings :=
  { host := "localhost", database := "APP", username := "SYSDBA", password := "pw;UID=root" }

/-- A semicolon in a password ends it, and what stands behind is read as an attribute. -/
theorem password_brings_attribute :
    Config.fault? { connection := withSemicolon } = none ∧
    readAttributes? withSemicolon.connectionString =
      some [("Driver", "DM8 ODBC DRIVER"), ("Server", "localhost"), ("TCP_Port", "5237"),
        ("UID", "SYSDBA"), ("PWD", "pw"), ("UID", "root"), ("CHARSET", "UTF8")] ∧
    readAttributes? withSemicolon.connectionString ≠ some withSemicolon.attributes := by
  have accepted : Config.fault? { connection := withSemicolon } = none := by rfl
  have read : readAttributes? withSemicolon.connectionString =
      some [("Driver", "DM8 ODBC DRIVER"), ("Server", "localhost"), ("TCP_Port", "5237"),
        ("UID", "SYSDBA"), ("PWD", "pw"), ("UID", "root"), ("CHARSET", "UTF8")] := by
    decide +kernel
  refine ⟨accepted, read, ?_⟩
  rw [read]
  decide +kernel

end SchemaBlueprint.ConnectionSettings
