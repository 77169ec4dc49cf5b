import Mathlib.Data.List.Forall2

/-!
Chains of steps that may fail: when a chain succeeds, and how two chains compare whose steps
correspond. Comparing two compilers then needs one statement for each of their steps.
-/

namespace SchemaBlueprint.Outcome

set_option autoImplicit false

variable {ε α β γ δ : Type}

theorem bind_eq_ok_iff {outcome : Except ε α} {next : α → Except ε β} {result : β} :
    (outcome >>= next) = .ok result ↔ ∃ value, outcome = .ok value ∧ next value = .ok result := by
  cases outcome <;> simp [bind, Except.bind]

theorem bind_pure_eq_ok_iff {outcome : Except ε α} {finish : α → β} {result : β} :
    (outcome >>= fun value => pure (finish value)) = .ok result ↔
      ∃ value, outcome = .ok value ∧ result = finish value := by
  cases outcome <;> simp [bind, Except.bind, pure, Except.pure, eq_comm]

theorem mapM_eq_ok_iff (step : α → Except ε β) (items : List α) (values : List β) :
    items.mapM step = .ok values ↔
      List.Forall₂ (fun item value => step item = .ok value) items values := by
  induction items generalizing values with
  | nil => simp [pure, Except.pure, eq_comm]
  | cons item items ih =>
      rw [List.mapM_cons, bind_eq_ok_iff]
      constructor
      · rintro ⟨value, first, rest⟩
        obtain ⟨others, done, same⟩ := bind_eq_ok_iff.mp rest
        cases same
        exact .cons first ((ih others).mp done)
      · intro related
        cases related with
        | cons first rest =>
            exact ⟨_, first, bind_eq_ok_iff.mpr ⟨_, (ih _).mpr rest, rfl⟩⟩

theorem mapM_congr {left right : α → Except ε β} {items : List α}
    (same : ∀ item ∈ items, left item = right item) : items.mapM left = items.mapM right := by
  induction items with
  | nil => rfl
  | cons item items ih =>
      obtain ⟨head, rest⟩ := List.forall_mem_cons.mp same
      rw [List.mapM_cons, List.mapM_cons, head, ih rest]

theorem mapM_append_eq_ok_iff (step : α → Except ε β) (front back : List α) (values : List β) :
    (front ++ back).mapM step = .ok values ↔ ∃ first second, front.mapM step = .ok first ∧
      back.mapM step = .ok second ∧ values = first ++ second := by
  rw [List.mapM_append, bind_eq_ok_iff]
  constructor
  · rintro ⟨first, ran, rest⟩
    obtain ⟨second, ranRest, joined⟩ := bind_eq_ok_iff.mp rest
    cases joined
    exact ⟨first, second, ran, ranRest, rfl⟩
  · rintro ⟨first, second, ran, ranRest, rfl⟩
    exact ⟨first, ran, bind_eq_ok_iff.mpr ⟨second, ranRest, rfl⟩⟩

theorem exists_left {Related : α → β → Prop} {items : List α} {values : List β}
    (paired : List.Forall₂ Related items values) {value : β} (member : value ∈ values) :
    ∃ item ∈ items, Related item value := by
  induction paired with
  | nil => cases member
  | cons head _ ih =>
      rcases List.mem_cons.mp member with rfl | later
      · exact ⟨_, List.mem_cons_self, head⟩
      · obtain ⟨item, there, related⟩ := ih later
        exact ⟨item, List.mem_cons_of_mem _ there, related⟩

theorem exists_right {Related : α → β → Prop} {items : List α} {values : List β}
    (paired : List.Forall₂ Related items values) {item : α} (member : item ∈ items) :
    ∃ value ∈ values, Related item value :=
  exists_left paired.flip member

theorem forall_imp_of_mem {Related Weaker : α → β → Prop} {items : List α} {values : List β}
    (paired : List.Forall₂ Related items values)
    (weaken : ∀ item ∈ items, ∀ value, Related item value → Weaker item value) :
    List.Forall₂ Weaker items values := by
  induction paired with
  | nil => exact .nil
  | cons head _ ih =>
      exact .cons (weaken _ List.mem_cons_self _ head)
        (ih fun item member => weaken item (List.mem_cons_of_mem _ member))

def fault? : Except ε α → Option ε
  | .error fault => some fault
  | .ok _ => none

@[simp] theorem fault_ok (value : α) : fault? (.ok value : Except ε α) = none := rfl

@[simp] theorem fault_error (fault : ε) : fault? (.error fault : Except ε α) = some fault := rfl

@[simp] theorem fault_pure (value : α) : fault? (pure value : Except ε α) = none := rfl

theorem fault_eq_some_iff {outcome : Except ε α} {fault : ε} :
    fault? outcome = some fault ↔ outcome = .error fault := by
  cases outcome <;> simp

theorem fault_bind {outcome : Except ε α} {next : α → Except ε β} {later : Option ε}
    (follows : ∀ value, outcome = .ok value → fault? (next value) = later) :
    fault? (outcome >>= next) = (fault? outcome).or later := by
  cases outcome with
  | error fault => rfl
  | ok value => exact follows value rfl

theorem fault_bind_pure (outcome : Except ε α) (finish : α → β) :
    fault? (outcome >>= fun value => pure (finish value)) = fault? outcome := by
  rw [fault_bind fun _ _ => fault_pure _, Option.or_none]

theorem fault_mapM (step : α → Except ε β) (items : List α) :
    fault? (items.mapM step) = items.findSome? fun item => fault? (step item) := by
  induction items with
  | nil => rfl
  | cons item items ih =>
      rw [List.mapM_cons, fault_bind fun _ _ => fault_bind_pure _ _, ih, List.findSome?_cons]
      cases step item <;> rfl

/-- Two outcomes that fail with related faults or succeed with related values. -/
inductive Alike (faults : ε → ε → Prop) (values : α → β → Prop) : Except ε α → Except ε β → Prop
  | failed {left right : ε} (related : faults left right) :
      Alike faults values (.error left) (.error right)
  | succeeded {left : α} {right : β} (related : values left right) :
      Alike faults values (.ok left) (.ok right)

namespace Alike

variable {faults : ε → ε → Prop} {values : α → β → Prop} {results : γ → δ → Prop}

theorem same (outcome : Except ε α) : Alike Eq Eq outcome outcome := by
  cases outcome with
  | error fault => exact .failed rfl
  | ok value => exact .succeeded rfl

theorem imp {weaker : α → β → Prop} {left : Except ε α} {right : Except ε β}
    (alike : Alike faults values left right)
    (weaken : ∀ first second, values first second → weaker first second) :
    Alike faults weaker left right := by
  cases alike with
  | failed related => exact .failed related
  | succeeded related => exact .succeeded (weaken _ _ related)

theorem map_eq {left : Except ε α} {right : Except ε β} (alike : Alike Eq values left right)
    {viewLeft : α → γ} {viewRight : β → γ}
    (views : ∀ first second, values first second → viewLeft first = viewRight second) :
    left.map viewLeft = right.map viewRight := by
  cases alike with
  | failed same => rw [same]; rfl
  | succeeded related => exact congrArg Except.ok (views _ _ related)

theorem bind {left : Except ε α} {right : Except ε β} {nextLeft : α → Except ε γ}
    {nextRight : β → Except ε δ} (alike : Alike faults values left right)
    (next : ∀ first second, values first second →
      Alike faults results (nextLeft first) (nextRight second)) :
    Alike faults results (left >>= nextLeft) (right >>= nextRight) := by
  cases alike with
  | failed related => exact .failed related
  | succeeded related => exact next _ _ related

theorem mapM {left : List α} {right : List β} {stepLeft : α → Except ε γ}
    {stepRight : β → Except ε δ}
    (steps : List.Forall₂ (fun first second =>
      Alike faults results (stepLeft first) (stepRight second)) left right) :
    Alike faults (List.Forall₂ results) (left.mapM stepLeft) (right.mapM stepRight) := by
  induction steps with
  | nil => exact .succeeded .nil
  | cons head _ ih =>
      rw [List.mapM_cons, List.mapM_cons]
      refine bind head fun first second related => bind ih fun others others' rest => ?_
      exact .succeeded (.cons related rest)

theorem mapM_same {items : List α} {stepLeft : α → Except ε γ} {stepRight : α → Except ε δ}
    (steps : ∀ item, Alike faults results (stepLeft item) (stepRight item)) :
    Alike faults (List.Forall₂ results) (items.mapM stepLeft) (items.mapM stepRight) :=
  mapM (List.forall₂_same.mpr fun item _ => steps item)

end Alike

end SchemaBlueprint.Outcome
