import SchemaBlueprint.Proofs.LongestEntry
import SchemaBlueprint.Proofs.StorageFamily

/-!
Base names as normal forms. The base name of a type has no parameters, no white space around it and
no letter that has a small form, and these are just the texts that are their own base names. It
depends only on what stands in front of the parameters, whatever white space is around that and in
whatever case its ASCII letters are, and the answers about a type depend only on its base name.
-/

namespace SchemaBlueprint.StorageType

set_option autoImplicit false

open Catalog (TypeRegistry)
open Catalog.TypeRegistry (IsBaseName bareType base_name_chars not_mem_bare_type lower_of_base_name
  meaning_of_same_base standard)

variable {type other : String}

theorem is_base_name_base_name (type : String) : IsBaseName (baseName type) := by
  constructor
  · rw [base_name_chars, Text.lower_chars_sign_iff (by decide)]
    exact not_mem_bare_type type
  · rw [← String.toList_inj, Text.toList_trim, base_name_chars, bareType, Text.trim_lower_trim]

theorem lower_base_name (type : String) : Text.lower (baseName type) = baseName type := by
  rw [← String.toList_inj, Text.toList_lower, base_name_chars, Text.lower_chars_lower]

/-- A type is its own base name just when it has no parameters, no white space around it and no
letter that has a small form. -/
theorem base_name_eq_self_iff :
    baseName type = type ↔ IsBaseName type ∧ Text.lower type = type := by
  constructor
  · intro same
    have bare := is_base_name_base_name type
    have small := lower_base_name type
    rw [same] at bare small
    exact ⟨bare, small⟩
  · intro normal
    rw [← lower_of_base_name normal.1]
    exact normal.2

theorem base_name_idempotent (type : String) : baseName (baseName type) = baseName type :=
  base_name_eq_self_iff.mpr ⟨is_base_name_base_name type, lower_base_name type⟩

/-- What stands in front of the parameters is the same for both types, apart from white space around
it and the case of ASCII letters. -/
def SameBase (type other : String) : Prop :=
  (bareType type).map Char.toLower = (bareType other).map Char.toLower

instance : DecidableRel SameBase := fun type other =>
  inferInstanceAs (Decidable ((bareType type).map Char.toLower = (bareType other).map Char.toLower))

theorem base_name_of_same_base (same : SameBase type other) : baseName type = baseName other := by
  rw [← String.toList_inj, base_name_chars, base_name_chars, ← Text.lower_chars_fold (bareType type),
    same, Text.lower_chars_fold]

theorem implicit_default_of_same_name (same : baseName type = baseName other) :
    implicitDefault type = implicitDefault other := by
  rw [implicitDefault, implicitDefault, same]

/-- The base name of a type is a normal form, and what is made up for the type and what the catalog
says of it, after any registrations, are what they are for the base name. Types of one base have one
base name, so they are given the same answers. -/
theorem classified_by_base_name (type : String) :
    baseName (baseName type) = baseName type ∧
    (baseName type = type ↔ IsBaseName type ∧ Text.lower type = type) ∧
    (implicitDefault (baseName type) = implicitDefault type ∧
      ∀ registrations, (standard.registerAll registrations).meaning? (baseName type) =
        (standard.registerAll registrations).meaning? type) ∧
    ∀ other, SameBase type other →
      baseName type = baseName other ∧ implicitDefault type = implicitDefault other ∧
      ∀ registrations, (standard.registerAll registrations).meaning? type =
        (standard.registerAll registrations).meaning? other := by
  have own := base_name_idempotent type
  refine ⟨own, base_name_eq_self_iff, ?_, ?_⟩
  · constructor
    · exact implicit_default_of_same_name own
    · intro registrations
      exact meaning_of_same_base own
  · intro other same
    have names := base_name_of_same_base same
    refine ⟨names, implicit_default_of_same_name names, ?_⟩
    intro registrations
    exact meaning_of_same_base names

theorem classified_by_base_name_distance :
    SameBase "\tΣΙΣ Distance(10, 2)" "ΣΙΣ DISTANCE (km" ∧
    baseName "\tΣΙΣ Distance(10, 2)" = "σις distance" ∧
    baseName "ΣΙΣ DISTANCE (km" = "σις distance" ∧
    (standard.registerAll [("ΣΙΣ", "float")]).meaning? "\tΣΙΣ Distance(10, 2)" = some "float" ∧
    (standard.registerAll [("ΣΙΣ", "float")]).meaning? "ΣΙΣ DISTANCE (km" = some "float" := by
  have same : SameBase "\tΣΙΣ Distance(10, 2)" "ΣΙΣ DISTANCE (km" := by decide +kernel
  have name : baseName "\tΣΙΣ Distance(10, 2)" = "σις distance" := by decide +kernel
  have meaning : (standard.registerAll [("ΣΙΣ", "float")]).meaning? "\tΣΙΣ Distance(10, 2)" =
      some "float" := by decide +kernel
  obtain ⟨-, -, -, alike⟩ := classified_by_base_name "\tΣΙΣ Distance(10, 2)"
  obtain ⟨names, -, meanings⟩ := alike _ same
  exact ⟨same, name, names ▸ name, meaning, (meanings _).symm.trans meaning⟩

end SchemaBlueprint.StorageType
