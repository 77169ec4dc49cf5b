import SchemaBlueprint.Proofs.Outcome

/-!
Joining what a step gives on each of several items. The joined result does not depend on how the
items are cut into parts, and up to order not on their order; so whether two lists of items come to
the same can be told from the items that only one of them has.
-/

namespace SchemaBlueprint.Outcome

set_option autoImplicit false

variable {ε α β : Type}

def gather (step : α → Except ε (List β)) (items : List α) : Except ε (List β) := do
  let blocks ← items.mapM step
  return blocks.flatten

def given (step : α → Except ε (List β)) (item : α) : List β :=
  match step item with
  | .ok block => block
  | .error _ => []

def SameUpToOrder (left right : Except ε (List β)) : Prop :=
  Alike (fun _ _ => True) List.Perm left right

variable {step : α → Except ε (List β)} {items base extra : List α}

theorem each_ran_iff {blocks : List (List β)} :
    List.Forall₂ (fun item block => step item = .ok block) items blocks ↔
      (∀ item ∈ items, ∃ block, step item = .ok block) ∧ blocks = items.map (given step) := by
  constructor
  · intro paired
    induction paired with
    | nil => exact ⟨fun _ member => (by cases member), rfl⟩
    | cons head _ ih =>
        obtain ⟨each, rest⟩ := ih
        refine ⟨List.forall_mem_cons.mpr ⟨⟨_, head⟩, each⟩, ?_⟩
        rw [List.map_cons, rest, given, head]
  · rintro ⟨each, rfl⟩
    rw [List.forall₂_map_right_iff]
    apply List.forall₂_same.mpr
    intro item member
    obtain ⟨block, ran⟩ := each item member
    rw [given, ran]

theorem gather_eq_ok_iff {values : List β} :
    gather step items = .ok values ↔
      (∀ item ∈ items, ∃ block, step item = .ok block) ∧ values = items.flatMap (given step) := by
  rw [gather, bind_eq_ok_iff, List.flatMap]
  constructor
  · rintro ⟨blocks, ran, joined⟩
    obtain ⟨each, rfl⟩ := each_ran_iff.mp ((mapM_eq_ok_iff _ _ _).mp ran)
    cases joined
    exact ⟨each, rfl⟩
  · rintro ⟨each, rfl⟩
    exact ⟨_, (mapM_eq_ok_iff _ _ _).mpr (each_ran_iff.mpr ⟨each, rfl⟩), rfl⟩

theorem gather_cons (item : α) :
    gather step (item :: items) = do return (← step item) ++ (← gather step items) := by
  unfold gather
  rw [List.mapM_cons]
  cases step item with
  | error fault => rfl
  | ok block => cases items.mapM step <;> rfl

theorem gather_singleton (item : α) : gather step [item] = step item := by
  rw [gather_cons]
  cases step item with
  | error fault => rfl
  | ok block => exact congrArg Except.ok (List.append_nil block)

theorem gather_congr {other : α → Except ε (List β)}
    (same : ∀ item ∈ items, step item = other item) : gather step items = gather other items := by
  rw [gather, gather, mapM_congr same]

theorem gather_append (front back : List α) :
    gather step (front ++ back) = do return (← gather step front) ++ (← gather step back) := by
  induction front with
  | nil =>
      rw [List.nil_append]
      cases gather step back <;> rfl
  | cons item front ih =>
      rw [List.cons_append, gather_cons, gather_cons, ih]
      cases step item with
      | error fault => rfl
      | ok block =>
          cases gather step front with
          | error fault => rfl
          | ok first =>
              cases gather step back with
              | error fault => rfl
              | ok second => exact congrArg Except.ok (List.append_assoc _ _ _).symm

theorem gather_flatMap {parts : α → List α} (whole : ∀ item, gather step (parts item) = step item) :
    gather step (items.flatMap parts) = gather step items := by
  induction items with
  | nil => rfl
  | cons item items ih => rw [List.flatMap_cons, gather_append, whole, ih, gather_cons]

theorem eq_of_perm_of_single {left right : List α} (permuted : left.Perm right)
    (single : left.length ≤ 1) : left = right := by
  cases left with
  | nil => exact (List.nil_perm.mp permuted).symm
  | cons item items =>
      cases items with
      | nil => exact List.singleton_perm.mp permuted
      | cons other others => simp at single

theorem gather_of_perm (permuted : items.Perm base) {values : List β}
    (gathered : gather step base = .ok values) :
    gather step items = .ok (items.flatMap (given step)) := by
  obtain ⟨each, _⟩ := gather_eq_ok_iff.mp gathered
  exact gather_eq_ok_iff.mpr ⟨fun item member => each item (permuted.mem_iff.mp member), rfl⟩

theorem gather_perm (permuted : items.Perm base) :
    SameUpToOrder (gather step items) (gather step base) := by
  cases left : gather step items with
  | ok values =>
      obtain ⟨_, rfl⟩ := gather_eq_ok_iff.mp left
      rw [gather_of_perm permuted.symm left]
      exact .succeeded (permuted.flatMap_right _)
  | error fault =>
      cases right : gather step base with
      | error other => exact .failed trivial
      | ok values => simp [gather_of_perm permuted right] at left

theorem SameUpToOrder.count_eq {left right : Except ε (List β)} (same : SameUpToOrder left right) :
    left.toOption.map List.length = right.toOption.map List.length := by
  cases same with
  | failed _ => rfl
  | succeeded reordered => exact congrArg some reordered.length_eq

/-- Further items, none of which passes in silence, do no harm exactly where there is none of them
or the others fail already. -/
theorem gather_extra_iff (permuted : items.Perm (base ++ extra))
    (visible : ∀ item ∈ extra, step item ≠ .ok []) :
    SameUpToOrder (gather step items) (gather step base) ↔
      (∃ fault, gather step base = .error fault) ∨ extra = [] := by
  constructor
  · intro same
    cases right : gather step base with
    | error fault => exact .inl ⟨fault, rfl⟩
    | ok values =>
        right
        cases left : gather step items with
        | error fault =>
            rw [left, right] at same
            cases same
        | ok total =>
            rw [left, right] at same
            cases same with
            | succeeded reordered =>
                obtain ⟨each, rfl⟩ := gather_eq_ok_iff.mp left
                obtain ⟨_, rfl⟩ := gather_eq_ok_iff.mp right
                have count := (permuted.flatMap_right (given step)).length_eq
                rw [reordered.length_eq, List.flatMap_append, List.length_append] at count
                have silent : extra.flatMap (given step) = [] :=
                  List.eq_nil_of_length_eq_zero (by omega)
                apply List.eq_nil_iff_forall_not_mem.mpr
                intro item member
                have nothing := List.flatMap_eq_nil_iff.mp silent item member
                obtain ⟨block, ran⟩ :=
                  each item (permuted.mem_iff.mpr (List.mem_append_right _ member))
                rw [given, ran] at nothing
                exact visible item member (ran.trans (congrArg Except.ok nothing))
  · rintro (⟨fault, failed⟩ | none)
    · rw [failed]
      cases left : gather step items with
      | error other => exact .failed trivial
      | ok total =>
          obtain ⟨each, _⟩ := gather_eq_ok_iff.mp left
          have ran := gather_eq_ok_iff.mpr
            ⟨fun item member => each item (permuted.mem_iff.mpr (List.mem_append_left _ member)), rfl⟩
          simp [ran] at failed
    · rw [none, List.append_nil] at permuted
      exact gather_perm permuted

end SchemaBlueprint.Outcome
