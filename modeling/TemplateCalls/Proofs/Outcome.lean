/-!
# Outcomes of computations that may fail

How an outcome is carried on: a result is handed to what follows, a fault ends the computation.
-/

namespace TemplateCalls.Outcome

variable {ε ε' α β : Type}

@[simp]
theorem ok_bind (value : α) (next : α → Except ε β) : (Except.ok value >>= next) = next value := rfl

@[simp]
theorem error_bind (fault : ε) (next : α → Except ε β) :
    (Except.error fault >>= next) = Except.error fault := rfl

@[simp]
theorem pure_eq_ok (value : α) : (pure value : Except ε α) = Except.ok value := rfl

/-- A computation in two steps gives a result exactly if both of them do. -/
theorem bind_eq_ok_iff {outcome : Except ε α} {next : α → Except ε β} {result : β} :
    (outcome >>= next) = .ok result ↔ ∃ value, outcome = .ok value ∧ next value = .ok result := by
  cases outcome with
  | error fault => simp only [error_bind, reduceCtorEq, false_and, exists_false]
  | ok value => simp only [ok_bind, Except.ok.injEq, exists_eq_left']

theorem mapError_eq_ok_iff {change : ε → ε'} {outcome : Except ε α} {value : α} :
    outcome.mapError change = .ok value ↔ outcome = .ok value := by
  cases outcome with
  | error fault => exact ⟨nofun, nofun⟩
  | ok other =>
    have hother : (Except.ok other : Except ε α).mapError change = .ok other := rfl
    rw [hother, Except.ok.injEq, Except.ok.injEq]

theorem exists_map_iff {outcome : Except ε α} {change : α → β} :
    (∃ result, outcome.map change = .ok result) ↔ ∃ value, outcome = .ok value := by
  cases outcome with
  | error fault => exact ⟨nofun, nofun⟩
  | ok value => exact ⟨fun _ ↦ ⟨value, rfl⟩, fun _ ↦ ⟨change value, rfl⟩⟩

theorem toOption_eq_some_iff {outcome : Except ε α} {value : α} :
    outcome.toOption = some value ↔ outcome = .ok value := by
  cases outcome with
  | error fault => exact ⟨nofun, nofun⟩
  | ok other => simp only [Except.toOption, Option.some.injEq, Except.ok.injEq]

/-! ## Computations on the items of a list -/

def fault? : Except ε α → Option ε
  | .ok _ => none
  | .error fault => some fault

/-- The first item that fails decides; without one there is a result for every item. -/
theorem mapM_eq (compute : α → Except ε β) (items : List α) :
    items.mapM compute =
      match items.findSome? fun item ↦ fault? (compute item) with
      | some fault => .error fault
      | none => .ok (items.filterMap fun item ↦ (compute item).toOption) := by
  induction items with
  | nil => rfl
  | cons item rest ih =>
    rw [List.mapM_cons, List.findSome?_cons]
    cases hitem : compute item with
    | error fault => rfl
    | ok result =>
      rw [ih, List.filterMap_cons, hitem]
      cases rest.findSome? fun item ↦ fault? (compute item) <;> rfl

/-! ## Bounds on faults -/

/-- Every fault that an outcome may be has a property. -/
def FailsOnly (property : ε → Prop) (outcome : Except ε α) : Prop :=
  ∀ fault, outcome = .error fault → property fault

variable {property : ε → Prop}

theorem failsOnly_ok (value : α) : FailsOnly property (.ok value : Except ε α) :=
  fun _ hfault ↦ nomatch hfault

theorem failsOnly_error {fault : ε} (hfault : property fault) :
    FailsOnly property (.error fault : Except ε α) := by
  intro other hother
  rw [← Except.error.inj hother]
  exact hfault

/-- A bound on the faults of two steps is a bound on those of both together. -/
theorem FailsOnly.bind {outcome : Except ε α} {next : α → Except ε β}
    (houtcome : FailsOnly property outcome)
    (hnext : ∀ value, outcome = .ok value → FailsOnly property (next value)) :
    FailsOnly property (outcome >>= next) := by
  cases outcome with
  | error fault => exact failsOnly_error (houtcome fault rfl)
  | ok value => exact hnext value rfl

end TemplateCalls.Outcome
