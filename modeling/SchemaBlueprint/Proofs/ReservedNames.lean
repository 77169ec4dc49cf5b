import SchemaBlueprint.Proofs.ReservedSegment
import SchemaBlueprint.Proofs.WrittenNames

/-!
Reserved words in statements. Tables and columns come out quoted wherever they have to be. The
schema and the names of indexes, keys and checks are written as they were given, so these must not
be reserved words themselves.
-/

namespace SchemaBlueprint

set_option autoImplicit false

def NameRole.isBare : NameRole → Bool
  | .schema | .key => true
  | .table | .column | .entry => false

namespace Grammar

/-- Whether a name is written with its reserved words quoted. What the catalog is asked for is a
literal and no identifier. -/
def WritesQuoted (grammar : Grammar) (named : RoledName) : Prop :=
  named.1 ≠ .entry →
    grammar.policy.QuotesReserved named.2 (grammar.writtenName named.1 named.2)

variable {grammar : Grammar} {blueprint : Blueprint}

theorem writes_quoted_iff {named : RoledName} :
    grammar.WritesQuoted named ↔ (named.1.isBare = true → grammar.policy.Unreserved named.2) := by
  obtain ⟨role, name⟩ := named
  cases role with
  | schema | key =>
      simp [WritesQuoted, NameRole.isBare, writtenName,
        Identifier.Policy.quotes_reserved_bare_iff]
  | table | column =>
      simp [WritesQuoted, NameRole.isBare, writtenName, wrap,
        Identifier.Policy.quotes_reserved_wrap]
  | entry => simp [WritesQuoted, NameRole.isBare]

/-- The tables and columns in the statements of a blueprint that compiles have their reserved words
quoted. All names have, exactly if no command writes a schema or the name of an index, a key or a
check with a reserved word in it. -/
theorem reserved_words_quoted_iff (grammar : Grammar) (blueprint : Blueprint)
    (statements : List String) (compiled : (grammar.toSql blueprint).2 = .ok statements) :
    let resolved := (grammar.toSql blueprint).1
    statements = (grammar.statementParts resolved).map grammar.spell ∧
      (∀ parts ∈ grammar.statementParts resolved, ∀ named ∈ namesIn parts,
        named.1.isBare = false → grammar.WritesQuoted named) ∧
      ((∀ parts ∈ grammar.statementParts resolved, ∀ named ∈ namesIn parts,
          grammar.WritesQuoted named) ↔
        ∀ command ∈ resolved.commands, ∀ named ∈ grammar.writtenNames resolved command,
          named.1.isBare = true → grammar.policy.Unreserved named.2) := by
  intro resolved
  refine ⟨spell_statements compiled, ?_, ?_⟩
  · intro parts _ named _ wrapped
    rw [writes_quoted_iff, wrapped]
    exact fun bare => absurd bare (by decide)
  · simp only [writes_quoted_iff]
    constructor
    · intro quoted command member named written
      obtain ⟨parts, row, inside⟩ := (mem_statement_names compiled).mpr ⟨command, member, written⟩
      exact quoted parts row named inside
    · intro free parts row named inside
      obtain ⟨command, member, written⟩ := (mem_statement_names compiled).mp ⟨parts, row, inside⟩
      exact free command member named written

def usersOfGroups : Blueprint :=
  { table := "user"
    columns := [{ name := "order", type := .integer, index := true }]
    commands := [.create,
      .foreign { columns := ["order"], table := "group", references := ["level"] }] }

theorem reserved_words_quoted_iff_users :
    let resolved := (toSql {} usersOfGroups).1
    ∃ statements, (toSql {} usersOfGroups).2 = .ok statements ∧
      statements = (statementParts {} resolved).map (spell {}) ∧
      ∀ parts ∈ statementParts {} resolved, ∀ named ∈ namesIn parts, WritesQuoted {} named := by
  have compiled : (toSql {} usersOfGroups).2 =
      .ok ["create table \"USER\" ( \"ORDER\" int null, constraint user_order_foreign foreign key ( \"ORDER\" ) references \"GROUP\" ( \"LEVEL\" ) )",
        "create index user_order_index on \"USER\" ( \"ORDER\" )"] := by
    decide +kernel
  have free : ∀ command ∈ (toSql {} usersOfGroups).1.commands,
      ∀ named ∈ writtenNames {} (toSql {} usersOfGroups).1 command,
        named.1.isBare = true → Identifier.Policy.server.Unreserved named.2 := by
    decide +kernel
  obtain ⟨spelled, _, quoted⟩ := reserved_words_quoted_iff {} usersOfGroups _ compiled
  exact ⟨_, compiled, spelled, quoted.mpr free⟩

def grammarOfUser : Grammar := { settings := { schemaPrefix := "user" } }

def ordersByOrder : Blueprint :=
  { table := "orders", commands := [.index { name := "order", columns := ["id"] }] }

/-- A reserved word stands bare where it is the schema and where it is the name of an index. -/
theorem reserved_words_stand_bare :
    (toSql grammarOfUser ordersByOrder).2 = .ok ["create index order on user.orders ( id )"] ∧
      ∃ parts ∈ statementParts grammarOfUser (toSql grammarOfUser ordersByOrder).1,
        ((.schema, "user") ∈ namesIn parts ∧ ¬ WritesQuoted grammarOfUser (.schema, "user")) ∧
        (.key, "order") ∈ namesIn parts ∧ ¬ WritesQuoted grammarOfUser (.key, "order") := by
  simp only [writes_quoted_iff]
  decide +kernel

end Grammar

end SchemaBlueprint
