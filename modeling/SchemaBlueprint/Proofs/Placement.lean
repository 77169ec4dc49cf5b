import SchemaBlueprint.Blueprint.Implied

/-!
Where the implied commands are put. An insertion only adds the item, and behind a front of items
that all satisfy a test, before a back of which none does, it falls exactly between the two.
-/

namespace SchemaBlueprint

set_option autoImplicit false

variable {α β : Type}

theorem insertAt_perm (position : Nat) (item : α) (items : List α) :
    (insertAt position item items).Perm (item :: items) := by
  have moved : (items.take position ++ item :: items.drop position).Perm
      (item :: (items.take position ++ items.drop position)) := List.perm_middle
  rwa [List.take_append_drop] at moved

theorem map_insertAt (f : α → β) (position : Nat) (item : α) (items : List α) :
    (insertAt position item items).map f = insertAt position (f item) (items.map f) := by
  simp [insertAt, List.map_take, List.map_drop]

theorem filter_insertAt {keep : α → Bool} {item : α} (passed : keep item = false)
    (position : Nat) (items : List α) :
    (insertAt position item items).filter keep = items.filter keep := by
  have dropped : ¬ keep item = true := by simp [passed]
  rw [insertAt, List.filter_append, List.filter_cons_of_neg dropped, ← List.filter_append,
    List.take_append_drop]

theorem flatMap_insertAt {part : α → List β} {item : α} (passed : part item = [])
    (position : Nat) (items : List α) :
    (insertAt position item items).flatMap part = items.flatMap part := by
  rw [insertAt, List.flatMap_append, List.flatMap_cons, passed, List.nil_append,
    ← List.flatMap_append, List.take_append_drop]

theorem insertAt_between (item : α) (front back : List α) :
    insertAt front.length item (front ++ back) = front ++ item :: back := by
  simp [insertAt]

theorem afterLast_of_none {holds : α → Bool} {items : List α}
    (fails : ∀ item ∈ items, holds item = false) : afterLast holds items = 0 := by
  induction items with
  | nil => rfl
  | cons item items ih =>
      have rest := ih fun other member => fails other (List.mem_cons_of_mem item member)
      have head := fails item List.mem_cons_self
      simp [afterLast, rest, head]

theorem afterLast_between {holds : α → Bool} {front back : List α}
    (frontHolds : ∀ item ∈ front, holds item = true)
    (backFails : ∀ item ∈ back, holds item = false) :
    afterLast holds (front ++ back) = front.length := by
  induction front with
  | nil => exact afterLast_of_none backFails
  | cons item front ih =>
      have rest := ih fun other member => frontHolds other (List.mem_cons_of_mem item member)
      have head := frontHolds item List.mem_cons_self
      simp only [List.cons_append, afterLast, rest, head, List.length_cons]
      by_cases longer : 0 < front.length
      · rw [if_pos longer]
      · rw [if_neg longer, if_pos trivial]
        omega

end SchemaBlueprint
