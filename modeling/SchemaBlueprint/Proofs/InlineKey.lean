import SchemaBlueprint.Grammar.Statement
import SchemaBlueprint.Proofs.Registration

/-!
The primary key that is declared along with its column: when there is one, which column it belongs
to and what is written for it.
-/

namespace SchemaBlueprint

set_option autoImplicit false

namespace Blueprint

/-- The primary key that is declared along with a column: the key over that one column, if the
column counts up. -/
def inlineKey? (blueprint : Blueprint) (column : Column) : Option IndexSpec :=
  blueprint.primary?.filter fun key =>
    column.autoIncrement && Text.sameNames key.columns [column.name]

end Blueprint

namespace Grammar

def keyClause : Option IndexSpec → String
  | some key => " constraint " ++ key.name ++ " primary key"
  | none => ""

variable {blueprint : Blueprint}

theorem inline_primary_iff {key : IndexSpec} {name : String} :
    inlinePrimary? blueprint = some (key, name) ↔ blueprint.primary? = some key ∧
      key.columns = [name] ∧ ∃ column, blueprint.column? name = some column ∧
        column.autoIncrement = true := by
  unfold inlinePrimary?
  cases blueprint.primary? with
  | none => simp
  | some declared =>
      simp only [Option.some.injEq]
      split
      · rename_i given columns
        cases found : blueprint.column? given with
        | none =>
            simp only [reduceCtorEq, false_iff]
            rintro ⟨rfl, sole, column, named, _⟩
            rw [columns] at sole
            cases sole
            simp [found] at named
        | some column =>
            constructor
            · intro inline
              by_cases counts : column.autoIncrement = true
              · simp only [counts, if_true, Option.some.injEq, Prod.mk.injEq] at inline
                obtain ⟨rfl, rfl⟩ := inline
                exact ⟨rfl, columns, column, found, counts⟩
              · simp [counts] at inline
            · rintro ⟨rfl, sole, other, named, counts⟩
              rw [columns] at sole
              cases sole
              rw [found] at named
              cases named
              simp [counts]
      · rename_i several
        simp only [reduceCtorEq, false_iff]
        rintro ⟨rfl, sole, _⟩
        exact several name sole

theorem inline_key_iff {column : Column} {key : IndexSpec} :
    blueprint.inlineKey? column = some key ↔ blueprint.primary? = some key ∧
      column.autoIncrement = true ∧ Text.sameNames key.columns [column.name] = true := by
  simp [Blueprint.inlineKey?, Option.filter_eq_some_iff]

theorem is_inlined_eq (blueprint : Blueprint) (key : IndexSpec) :
    isInlined blueprint key = match inlinePrimary? blueprint with
      | none => false
      | some (inline, name) => inline = key && Text.listsName blueprint.listedAdditions name := by
  unfold isInlined
  cases inlinePrimary? blueprint with
  | none => rfl
  | some inline => simp only [Text.listsName, Blueprint.listedAdditions, List.any_flatMap]

theorem same_names_singleton {columns : List String} {name : String} :
    Text.sameNames columns [name] = true ↔
      ∃ own, columns = [own] ∧ Text.sameName own name = true := by
  match columns with
  | [] => simp [Text.sameNames]
  | [own] => simp [Text.sameNames, Text.sameName]
  | _ :: _ :: _ => simp [Text.sameNames]

theorem inline_clause_eq (distinct : DistinctNames blueprint.columns) {column : Column}
    (member : column ∈ blueprint.columns) :
    inlineClause blueprint column = keyClause (blueprint.inlineKey? column) := by
  cases carried : blueprint.inlineKey? column with
  | some key =>
      obtain ⟨declared, counts, names⟩ := inline_key_iff.mp carried
      obtain ⟨own, columns, same⟩ := same_names_singleton.mp names
      have found := Blueprint.column_of_same_name distinct member
        (Text.sameName_comm own column.name ▸ same)
      have inline := inline_primary_iff.mpr ⟨declared, columns, column, found, counts⟩
      simp [inlineClause, inline, same, keyClause]
  | none =>
      unfold inlineClause
      split
      · rename_i key own inline
        obtain ⟨declared, columns, other, found, counts⟩ := inline_primary_iff.mp inline
        by_cases same : Text.sameName own column.name = true
        · have own_found := Blueprint.column_of_same_name distinct member
            (Text.sameName_comm own column.name ▸ same)
          rw [found, Option.some.injEq] at own_found
          subst own_found
          have key_found := inline_key_iff.mpr
            ⟨declared, counts, same_names_singleton.mpr ⟨own, columns, same⟩⟩
          simp [carried] at key_found
        · simp [same, keyClause]
      · rfl

end Grammar

end SchemaBlueprint
