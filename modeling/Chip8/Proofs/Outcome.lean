import Mathlib.Data.List.Forall2

/-! # Outcomes of steps that can fail

What it means for steps in a row to go through, or to fail: two steps of which the second depends on
the first, and a row of steps that do not depend on each other.
-/

namespace Chip8.Outcome

variable {ε α β : Type}

/-- Two steps go through together exactly when the second goes through from what the first gives. -/
theorem bind_eq_ok {first : Except ε α} {second : α → Except ε β} {result : β} :
    first >>= second = .ok result ↔ ∃ middle, first = .ok middle ∧ second middle = .ok result := by
  cases first with
  | error failure =>
    constructor
    · intro went
      contradiction
    · rintro ⟨middle, went, _⟩
      contradiction
  | ok middle =>
    constructor
    · intro went
      exact ⟨middle, rfl, went⟩
    · rintro ⟨middle, same, went⟩
      cases same
      exact went

/-- A step whose result is changed goes through exactly when the step does. -/
theorem map_eq_ok {step : Except ε α} {change : α → β} {result : β} :
    step.map change = .ok result ↔ ∃ before, step = .ok before ∧ change before = result := by
  cases step <;> simp [Except.map]

/-- A failure that is told in other words is a failure, and nothing else changes. -/
theorem mapError_eq_ok {κ : Type} {step : Except ε α} {tell : ε → κ} {result : α} :
    step.mapError tell = .ok result ↔ step = .ok result := by
  cases step <;> simp [Except.mapError]

/-- A row of readings succeeds exactly when each of them does. -/
theorem mapM_eq_some {read : α → Option β} {xs : List α} {ys : List β} :
    xs.mapM read = some ys ↔ List.Forall₂ (fun x y => read x = some y) xs ys := by
  induction xs generalizing ys with
  | nil =>
    rw [List.mapM_nil, List.forall₂_nil_left_iff]
    constructor
    · rintro ⟨⟩
      rfl
    · rintro rfl
      rfl
  | cons x xs ih =>
    simp only [List.mapM_cons, Option.bind_eq_bind, Option.bind_eq_some_iff, Option.pure_def,
      Option.some.injEq]
    constructor
    · rintro ⟨y, first, rest, others, rfl⟩
      exact .cons first (ih.mp others)
    · rintro (_ | ⟨first, others⟩)
      exact ⟨_, first, _, ih.mpr others, rfl⟩

/-- A row of steps goes through exactly when each of them does. -/
theorem mapM_eq_ok {step : α → Except ε β} {xs : List α} {ys : List β} :
    xs.mapM step = .ok ys ↔ List.Forall₂ (fun x y => step x = .ok y) xs ys := by
  induction xs generalizing ys with
  | nil =>
    rw [List.mapM_nil, List.forall₂_nil_left_iff]
    constructor
    · rintro ⟨⟩
      rfl
    · rintro rfl
      rfl
  | cons x xs ih =>
    rw [List.mapM_cons, bind_eq_ok]
    constructor
    · rintro ⟨y, first, went⟩
      obtain ⟨rest, others, same⟩ := bind_eq_ok.mp went
      cases same
      exact .cons first (ih.mp others)
    · rintro (_ | ⟨first, others⟩)
      exact ⟨_, first, bind_eq_ok.mpr ⟨_, ih.mpr others, rfl⟩⟩

/-- Each step of a row that goes through does so. -/
theorem ok_of_mapM_eq_ok {step : α → Except ε β} {xs : List α} {ys : List β}
    (went : xs.mapM step = .ok ys) {x : α} (member : x ∈ xs) : ∃ y, step x = .ok y := by
  have pairs := mapM_eq_ok.mp went
  clear went
  induction pairs with
  | nil => contradiction
  | cons here _ ih =>
    rcases List.mem_cons.mp member with rfl | later
    · exact ⟨_, here⟩
    · exact ih later

/-- In a row of steps the first failure decides. -/
theorem mapM_of_first_error {step : α → Except ε β} {front back : List α} {x : α} {failure : ε}
    (through : ∀ earlier ∈ front, ∃ y, step earlier = .ok y) (fails : step x = .error failure) :
    (front ++ x :: back).mapM step = .error failure := by
  induction front with
  | nil =>
    rw [List.nil_append, List.mapM_cons, fails]
    rfl
  | cons first rest ih =>
    obtain ⟨y, went⟩ := through first (List.mem_cons_self ..)
    have later := ih fun earlier member => through earlier (List.mem_cons_of_mem _ member)
    rw [List.cons_append, List.mapM_cons, went, later]
    rfl

/-- What a row of readings gives comes from what was read. -/
theorem mem_of_mapM_eq_some {read : α → Option β} {xs : List α} {ys : List β}
    (each : xs.mapM read = some ys) {y : β} (member : y ∈ ys) : ∃ x ∈ xs, read x = some y := by
  have pairs := mapM_eq_some.mp each
  clear each
  induction pairs with
  | nil => contradiction
  | cons here _ ih =>
    rcases List.mem_cons.mp member with rfl | later
    · exact ⟨_, List.mem_cons_self .., here⟩
    · obtain ⟨x, source, reads⟩ := ih later
      exact ⟨x, List.mem_cons_of_mem _ source, reads⟩

/-- A row of readings succeeds if each of them does. -/
theorem exists_mapM_eq_some {read : α → Option β} {xs : List α}
    (each : ∀ x ∈ xs, ∃ y, read x = some y) : ∃ ys, xs.mapM read = some ys := by
  induction xs with
  | nil => exact ⟨[], rfl⟩
  | cons x xs ih =>
    obtain ⟨y, here⟩ := each x (List.mem_cons_self ..)
    obtain ⟨ys, others⟩ := ih fun other member => each other (List.mem_cons_of_mem _ member)
    exact ⟨y :: ys, mapM_eq_some.mpr (.cons here (mapM_eq_some.mp others))⟩

/-- A row of readings gives back what was written for each of them. -/
theorem mapM_map_eq_some {γ : Type} {write : γ → α} {read : α → Option β} {value : γ → β}
    {xs : List γ} (each : ∀ x ∈ xs, read (write x) = some (value x)) :
    (xs.map write).mapM read = some (xs.map value) := by
  apply mapM_eq_some.mpr
  rw [List.forall₂_map_left_iff, List.forall₂_map_right_iff, List.forall₂_same]
  exact each

/-- The failure if there is one, and the result otherwise. -/
def checked (failure : Option ε) (result : α) : Except ε α :=
  match failure with
  | some failure => .error failure
  | none => .ok result

theorem checked_eq_ok {failure : Option ε} {result value : α} :
    checked failure result = .ok value ↔ failure = none ∧ result = value := by
  cases failure <;> simp [checked]

theorem checked_eq_error {failure : Option ε} {result : α} {cause : ε} :
    checked failure result = .error cause ↔ failure = some cause := by
  cases failure <;> simp [checked]

/-- A step behind a checked one is taken from its result unless that failed. -/
theorem checked_bind (failure : Option ε) (result : α) (next : α → Except ε β) :
    checked failure result >>= next =
      match failure with
      | some failure => .error failure
      | none => next result := by
  cases failure <;> rfl

/-- In a row of checked steps the first failure decides. -/
theorem mapM_checked {step : α → Except ε β} (failure : α → Option ε) (result : α → β)
    {xs : List α} (each : ∀ x ∈ xs, step x = checked (failure x) (result x)) :
    xs.mapM step = checked (xs.findSome? failure) (xs.map result) := by
  induction xs with
  | nil => rfl
  | cons x xs ih =>
    have here := each x (List.mem_cons_self ..)
    have later := ih fun other member => each other (List.mem_cons_of_mem _ member)
    rw [List.mapM_cons, here, later, List.findSome?_cons, List.map_cons]
    cases failure x with
    | some first => rfl
    | none => cases xs.findSome? failure <;> rfl

/-- In a row of checked steps from one state to the next the first failure decides, provided that
no failure depends on the state. The states that are reached are those of `abs`. -/
theorem foldlM_checked {σ τ : Type} {step : σ → α → Except ε σ} (abs : τ → σ)
    (failure : α → Option ε) (next : τ → α → τ) {xs : List α}
    (each : ∀ x ∈ xs, ∀ t, step (abs t) x = checked (failure x) (abs (next t x))) (start : τ) :
    xs.foldlM step (abs start) = checked (xs.findSome? failure) (abs (xs.foldl next start)) := by
  induction xs generalizing start with
  | nil => rfl
  | cons x xs ih =>
    have here := each x (List.mem_cons_self ..) start
    have later := ih (fun other member => each other (List.mem_cons_of_mem _ member)) (next start x)
    rw [List.foldlM_cons, here, List.findSome?_cons, List.foldl_cons]
    cases failure x with
    | some first => rfl
    | none => exact later

end Chip8.Outcome
