import Mathlib.Data.List.Nodup
import SchemaBlueprint.Document.Blueprint
import SchemaBlueprint.Proofs.Outcome

/-!
Reading a record off an object that gives its fields in the order of their declaration. Any of the
fields may be left out, which leaves the draft as it is; the fields that are given fill the draft one
after the other.
-/

namespace SchemaBlueprint.Document

set_option autoImplicit false

variable {ρ α β : Type}

/-- The part of an object that belongs to one field, and what it makes of a draft. -/
inductive Field.Gives (field : Field Datum ρ) (draft : ρ) : List (String × Json) → ρ → Prop
  | leftOut : Gives field draft [] draft
  | stated {value : Json} {filled : ρ} (read : field.set draft (.ofJson value) = .ok filled) :
      Gives field draft [(field.name, value)] filled

/-- The entries of an object that give fields in their order, and what they make of a draft. -/
inductive Given : List (Field Datum ρ) → ρ → List (String × Json) → ρ → Prop
  | nil {draft : ρ} : Given [] draft [] draft
  | cons {field : Field Datum ρ} {fields : List (Field Datum ρ)} {draft between filled : ρ}
      {part entries : List (String × Json)} (head : field.Gives draft part between)
      (tail : Given fields between entries filled) :
      Given (field :: fields) draft (part ++ entries) filled

theorem Given.stated {field : Field Datum ρ} {fields : List (Field Datum ρ)}
    {draft between filled : ρ} {value : Json} {entries : List (String × Json)}
    (read : field.set draft (.ofJson value) = .ok between)
    (tail : Given fields between entries filled) :
    Given (field :: fields) draft ((field.name, value) :: entries) filled :=
  .cons (.stated read) tail

theorem Given.last {field : Field Datum ρ} {draft filled : ρ} {part : List (String × Json)}
    (gives : field.Gives draft part filled) : Given [field] draft part filled :=
  List.append_nil part ▸ .cons gives .nil

theorem Field.set_of {name : String} {read : Datum → Read α} {put : ρ → α → ρ} {draft : ρ}
    {node : Datum} {value : α} (reads : read node = .ok value) :
    (Field.of name read put).set draft node = .ok (put draft value) := by
  simp only [Field.of, reads, Except.map]

theorem Field.Gives.optional {name : String} {read : Datum → Read α} {put : ρ → Option α → ρ}
    {draft : ρ} {encode : α → Json} {value kept : Option α} (untouched : put draft none = draft)
    (absent : value = none → kept = none)
    (present : ∀ stated, value = some stated →
      datum.optional read (.ofJson (encode stated)) = .ok kept) :
    (Field.of name (datum.optional read) put).Gives draft (Json.optional name encode value)
      (put draft kept) := by
  cases value with
  | none =>
      rw [absent rfl, untouched]
      exact .leftOut
  | some stated => exact .stated (set_of (present stated rfl))

theorem Field.Gives.unless {name : String} {read : Datum → Read α} {put : ρ → α → ρ} {draft : ρ}
    {value : α} {written : Json} {usual : Bool} (untouched : usual = true → put draft value = draft)
    (reads : read (.ofJson written) = .ok value) :
    (Field.of name read put).Gives draft (if usual then [] else [(name, written)])
      (put draft value) := by
  cases usual with
  | true =>
      rw [untouched rfl]
      exact .leftOut
  | false => exact .stated (set_of reads)

theorem find_field {fields : List (Field Datum ρ)} (distinct : (fields.map (·.name)).Nodup)
    {field : Field Datum ρ} (member : field ∈ fields) :
    fields.find? (·.name == field.name) = some field := by
  obtain ⟨front, back, rfl⟩ := List.append_of_mem member
  rw [List.map_append, List.map_cons, List.nodup_middle, List.nodup_cons] at distinct
  rw [List.find?_eq_some_iff_append]
  refine ⟨beq_self_eq_true _, front, back, rfl, ?_⟩
  intro other before
  have elsewhere := fun same =>
    distinct.1 (List.mem_append_left _ (List.mem_map.mpr ⟨other, before, same⟩))
  simpa using elsewhere

theorem fill_keyed_of_given {all fields : List (Field Datum ρ)} {seen : List String}
    {draft filled : ρ} {entries : List (String × Json)}
    (distinct : (all.map (·.name)).Nodup) (part : fields.Sublist all)
    (fresh : ∀ field ∈ fields, field.name ∉ seen)
    (given : Given fields draft entries filled) :
    fillKeyed all seen draft (Datum.ofEntries entries) = .ok filled := by
  -- Fields still to come are not among the ones seen, so that none of them counts as given twice.
  induction given generalizing seen with
  | nil => rfl
  | @cons field fields draft between filled entry entries head tail ih =>
      have rest : fields.Sublist all := (List.sublist_cons_self field fields).trans part
      have freshRest := (List.forall_mem_cons.mp fresh).2
      cases head with
      | leftOut => exact ih rest freshRest
      | stated read =>
          have own : field.name ∉ seen := fresh field List.mem_cons_self
          have known := find_field distinct (part.subset List.mem_cons_self)
          have once : field.name ∉ fields.map (·.name) :=
            (List.nodup_cons.mp ((part.map _).nodup distinct)).1
          have still : ∀ later ∈ fields, later.name ∉ field.name :: seen := by
            intro later member again
            rcases List.mem_cons.mp again with same | old
            · exact once (same ▸ List.mem_map_of_mem member)
            · exact freshRest later member old
          have reached := ih rest still
          simp only [List.singleton_append, Datum.ofEntries, fillKeyed, fieldOf?, known,
            List.contains_eq_mem, own, decide_false, Bool.false_eq_true, if_false, read, reached]

theorem read_fields_of_given {fields : List (Field Datum ρ)} {start filled : ρ}
    {complete : ρ → Read α} {entries : List (String × Json)}
    (distinct : (fields.map (·.name)).Nodup) (given : Given fields start entries filled) :
    readFields fields start complete (.keyed (Datum.ofEntries entries)) = complete filled := by
  rw [readFields, fill_keyed_of_given distinct (List.Sublist.refl fields) (by simp) given]
  rfl

theorem mapM_written {read : Datum → Read β} {encode : α → Json} {kept : α → β}
    (each : ∀ value, read (.ofJson (encode value)) = .ok (kept value)) (values : List α) :
    (Datum.ofItems (values.map encode)).mapM read = .ok (values.map kept) := by
  rw [Datum.ofItems_eq_map, List.map_map, Outcome.mapM_eq_ok_iff, List.forall₂_map_left_iff,
    List.forall₂_map_right_iff]
  exact List.forall₂_same.mpr fun value _ => each value

theorem read_text (value : String) : datum.text (.ofJson (.text value)) = .ok value := rfl

theorem read_texts (values : List String) : datum.texts (.ofJson (.texts values)) = .ok values :=
  (mapM_written read_text values).trans (congrArg Except.ok (List.map_id' values))

theorem read_natural {number greatest : Nat} (bound : number ≤ greatest) :
    datum.natural greatest (.ofJson (.int (number : Int))) = .ok number := by
  have between : (0 ≤ (number : Int) && (number : Int) ≤ (greatest : Int)) = true := by
    simpa using bound
  change (if _ then Except.ok (number : Int).toNat else _) = _
  rw [if_pos between, Int.toNat_natCast]

theorem read_word32 (number : UInt32) :
    datum.word32 (.ofJson (.int (number.toNat : Int))) = .ok number := by
  rw [Format.word32, read_natural (Nat.le_of_lt_succ number.toNat_lt), Except.map,
    UInt32.ofNat_toNat]

theorem read_optional {read : Datum → Read α} {node : Datum} {value : α}
    (there : datum.isNull node = false) (reads : read node = .ok value) :
    datum.optional read node = .ok (some value) := by
  rw [Format.optional, there, if_neg Bool.false_ne_true, reads]
  rfl

end SchemaBlueprint.Document
