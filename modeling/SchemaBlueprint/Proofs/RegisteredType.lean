import Mathlib.Data.List.TakeWhile
import SchemaBlueprint.Catalog.TypeRegistry
import SchemaBlueprint.Proofs.SmallLetters
import SchemaBlueprint.Proofs.Trimming

/-!
What the registration of a type reaches. A type is registered under its lower case as it stands, and
it is looked up by its base name, without parameters and without white space around it. So a type
that is given as its base name is found, and every other one is registered where no look-up of it
comes by.
-/

namespace SchemaBlueprint.Catalog.TypeRegistry

set_option autoImplicit false

open StorageType (baseName)

variable {registry : TypeRegistry} {type meaning other : String}

theorem longest_mem {entries : List (String × String)} {best : String × String}
    (longest : longest? entries = some best) : best ∈ entries := by
  induction entries generalizing best with
  | nil => cases longest
  | cons entry rest ih =>
      rw [longest?] at longest
      split at longest
      · cases longest
        exact List.mem_cons_self
      · rename_i later found
        split at longest
        · cases longest
          exact List.mem_cons_self
        · cases longest
          exact List.mem_cons_of_mem _ (ih found)

theorem longest_cons {entry : String × String} {rest : List (String × String)}
    (bounded : ∀ later ∈ rest, later.1.length ≤ entry.1.length) :
    longest? (entry :: rest) = some entry := by
  rw [longest?]
  split
  · rfl
  · rename_i later found
    rw [if_pos (bounded later (longest_mem found))]

theorem covers_iff {key name : List Char} :
    coversName key name = true ↔ name = key ∨ key ++ [' '] <+: name := by
  rw [coversName, Bool.or_eq_true, beq_iff_eq, List.isPrefixOf_iff_prefix]

theorem prefix_of_covers {key name : List Char} (covers : coversName key name = true) :
    key <+: name := by
  rcases covers_iff.mp covers with rfl | longer
  · exact List.prefix_rfl
  · exact (List.prefix_append _ _).trans longer

theorem meaning_of_not_covered
    (apart : coversName (Text.lower type).toList (baseName other).toList = false) :
    (registry.register type meaning).meaning? other = registry.meaning? other := by
  have passed : ((registry.register type meaning).entries.filter fun entry =>
      coversName entry.1.toList (baseName other).toList) =
      registry.entries.filter fun entry => coversName entry.1.toList (baseName other).toList := by
    rw [register, List.filter_cons, apart, if_neg Bool.false_ne_true]
  simp only [meaning?, passed]

theorem meaning_of_own_name (own : Text.lower type = baseName other) :
    (registry.register type meaning).meaning? other = some meaning := by
  have covers : coversName (baseName other).toList (baseName other).toList = true :=
    covers_iff.mpr (.inl rfl)
  have best : longest? ((registry.register type meaning).entries.filter fun entry =>
      coversName entry.1.toList (baseName other).toList) = some (baseName other, meaning) := by
    rw [register, own, List.filter_cons, if_pos covers]
    apply longest_cons
    intro later member
    have shorter := (prefix_of_covers (List.mem_filter.mp member).2).length_le
    rwa [String.length_toList, String.length_toList] at shorter
  simp only [meaning?, best, Option.map_some]

/-- A type that is given as its base name: without parameters, and without white space around it. -/
def IsBaseName (type : String) : Prop := '(' ∉ type.toList ∧ Text.trim type = type

instance : DecidablePred IsBaseName := fun type =>
  inferInstanceAs (Decidable ('(' ∉ type.toList ∧ Text.trim type = type))

def bareType (type : String) : List Char := Text.trimChars (type.toList.takeWhile (· ≠ '('))

theorem base_name_chars (type : String) :
    (baseName type).toList = Text.lowerChars (bareType type) := by
  rw [baseName, String.toList_ofList, bareType]

theorem bare_type_split (type : String) :
    ∃ front back, type.toList = front ++ bareType type ++ back := by
  obtain ⟨front, back, split⟩ := Text.trim_chars_split (type.toList.takeWhile (· ≠ '('))
  refine ⟨front, back ++ type.toList.dropWhile (· ≠ '('), ?_⟩
  rw [bareType, ← List.append_assoc, ← split, List.takeWhile_append_dropWhile]

theorem not_mem_bare_type (type : String) : '(' ∉ bareType type := by
  intro inside
  simpa using List.mem_takeWhile_imp (Text.mem_of_mem_trim_chars inside)

theorem bare_type_of_plain (plain : '(' ∉ type.toList) :
    bareType type = Text.trimChars type.toList := by
  have whole : type.toList.takeWhile (· ≠ '(') = type.toList := by
    rw [List.takeWhile_eq_self_iff]
    intro c member
    simpa using fun same : c = '(' => plain (same ▸ member)
  rw [bareType, whole]

theorem bare_type_eq_iff : bareType type = type.toList ↔ IsBaseName type := by
  constructor
  · intro same
    have plain := not_mem_bare_type type
    rw [same] at plain
    rw [bare_type_of_plain plain] at same
    refine ⟨plain, ?_⟩
    rw [Text.trim, same, String.ofList_toList]
  · rintro ⟨plain, trimmed⟩
    rw [bare_type_of_plain plain, ← Text.toList_trim, trimmed]

theorem lower_of_base_name (bare : IsBaseName type) : Text.lower type = baseName type := by
  rw [← String.toList_inj, Text.toList_lower, base_name_chars, bare_type_eq_iff.mpr bare]

theorem not_covers_own_name (other : ¬ IsBaseName type) :
    coversName (Text.lower type).toList (baseName type).toList = false := by
  rw [Bool.eq_false_iff]
  intro covers
  obtain ⟨front, back, split⟩ := bare_type_split type
  have longer := (prefix_of_covers covers).length_le
  have lengths := Text.length_lower_chars_append front (bareType type) back
  rw [← split] at lengths
  rw [Text.toList_lower, base_name_chars] at longer
  have nothing : front = [] ∧ back = [] := by
    rw [← List.length_eq_zero_iff, ← List.length_eq_zero_iff]
    omega
  rw [nothing.1, nothing.2, List.nil_append, List.append_nil] at split
  exact other (bare_type_eq_iff.mp split.symm)

theorem not_covers_of_unreachable
    (unreachable : '(' ∈ type.toList ∨ ∃ c, type.toList.head? = some c ∧ Text.isBlank c = true)
    (other : String) : coversName (Text.lower type).toList (baseName other).toList = false := by
  rw [Bool.eq_false_iff]
  intro covers
  have begins := prefix_of_covers covers
  rw [Text.toList_lower, base_name_chars] at begins
  rcases unreachable with parameters | blank
  · have opened : '(' ∈ Text.lowerChars type.toList :=
      (Text.lower_chars_sign_iff (by decide)).mpr parameters
    exact not_mem_bare_type other
      ((Text.lower_chars_sign_iff (by decide)).mp (begins.subset opened))
  · obtain ⟨c, first, space⟩ := Text.head_blank_lower_iff.mpr blank
    obtain ⟨rest, whole⟩ := begins
    apply Text.trim_chars_head_not_blank (other.toList.takeWhile (· ≠ '('))
    rw [← bareType, ← Text.head_blank_lower_iff, ← whole, List.head?_append, first]
    exact ⟨c, rfl, space⟩

/-- A registration is found by its own type exactly if that is given as its base name, and then for
every type of that base name. It leaves all types alone whose base name is neither its lower case nor
begins with that and a space; with parameters or with white space in front it leaves all types
alone. -/
theorem registered_type_found_iff (registry : TypeRegistry) (type meaning : String) :
    ((registry.register type meaning).meaning? type =
        if IsBaseName type then some meaning else registry.meaning? type) ∧
      (IsBaseName type → Text.lower type = baseName type) ∧
      (∀ other, baseName other = Text.lower type →
        (registry.register type meaning).meaning? other = some meaning) ∧
      (∀ other, baseName other ≠ Text.lower type →
        ¬ (Text.lower type).toList ++ [' '] <+: (baseName other).toList →
        (registry.register type meaning).meaning? other = registry.meaning? other) ∧
      (('(' ∈ type.toList ∨ ∃ c, type.toList.head? = some c ∧ Text.isBlank c = true) →
        ∀ other, (registry.register type meaning).meaning? other = registry.meaning? other) := by
  refine ⟨?_, lower_of_base_name, fun other own => meaning_of_own_name own.symm, ?_, ?_⟩
  · split
    · rename_i bare
      exact meaning_of_own_name (lower_of_base_name bare)
    · rename_i decorated
      exact meaning_of_not_covered (not_covers_own_name decorated)
  · intro other different notLonger
    apply meaning_of_not_covered
    rw [Bool.eq_false_iff]
    intro covers
    rcases covers_iff.mp covers with same | longer
    · exact different (String.toList_inj.mp same)
    · exact notLonger longer
  · exact fun unreachable other =>
      meaning_of_not_covered (not_covers_of_unreachable unreachable other)

theorem registered_type_found_iff_geometry :
    (IsBaseName "GEOMETRY" ∧
      (standard.register "GEOMETRY" "string").meaning? "GEOMETRY" = some "string" ∧
      (standard.register "GEOMETRY" "string").meaning? " Geometry(2)" = some "string" ∧
      (standard.register "GEOMETRY" "string").meaning? "varchar2(50)" =
        standard.meaning? "varchar2(50)") ∧
    ('(' ∈ "NUMBER(10)".toList ∧
      (standard.register "NUMBER(10)" "boolean").meaning? "NUMBER(10)" =
        standard.meaning? "NUMBER(10)") := by
  have bare : IsBaseName "GEOMETRY" := by decide +kernel
  obtain ⟨own, _, alike, others, _⟩ := registered_type_found_iff standard "GEOMETRY" "string"
  obtain ⟨_, _, _, _, unreachable⟩ := registered_type_found_iff standard "NUMBER(10)" "boolean"
  rw [if_pos bare] at own
  exact ⟨⟨bare, own, alike _ (by decide +kernel), others _ (by decide +kernel) (by decide +kernel)⟩,
    by decide +kernel, unreachable (.inl (by decide +kernel)) _⟩

/-- What is registered with its parameters is not found, and white space behind a type makes it
reach longer names than its base name does. -/
theorem decorated_type_misses_itself :
    (standard.register "NUMBER(10)" "boolean").meaning? "NUMBER(10)" = some "integer" ∧
      (standard.register "geometry\t" "string").meaning? "geometry\t" = none ∧
      baseName "geometry\t" = "geometry" ∧ baseName "geometry\t zm" = "geometry\t zm" ∧
      standard.meaning? "geometry\t zm" = none ∧
      (standard.register "geometry\t" "string").meaning? "geometry\t zm" = some "string" := by
  decide +kernel

end SchemaBlueprint.Catalog.TypeRegistry
