import Chip8.Toml.Value

/-! # Equality of values

Whether two values of documents are the same is decided by going through both at once, and so it
can be evaluated what a given text reads as.
-/

namespace Chip8.Toml

mutual

def Value.agrees : Value → Value → Bool
  | .null, .null | .date, .date | .dateTime, .dateTime | .time, .time => true
  | .boolean one, .boolean other => one = other
  | .integer one, .integer other => one = other
  | .real one, .real other => one = other
  | .text one, .text other => one = other
  | .list one, .list other => allAgree one other
  | .table one, .table other => entriesAgree one other
  | _, _ => false
termination_by structural value => value

def allAgree : List Value → List Value → Bool
  | [], [] => true
  | one :: rest, other :: otherRest => one.agrees other && allAgree rest otherRest
  | _, _ => false
termination_by structural items => items

/-- Whether two tables hold the same entries in the same order. -/
def entriesAgree : List (String × Value) → List (String × Value) → Bool
  | [], [] => true
  | (name, one) :: rest, (otherName, other) :: otherRest =>
    name = otherName && one.agrees other && entriesAgree rest otherRest
  | _, _ => false
termination_by structural entries => entries

end

mutual

theorem Value.eq_of_agrees {one other : Value} (same : one.agrees other = true) :
    one = other := by
  unfold Value.agrees at same
  split at same
  · rfl
  · rfl
  · rfl
  · rfl
  · exact congrArg Value.boolean (of_decide_eq_true same)
  · exact congrArg Value.integer (of_decide_eq_true same)
  · exact congrArg Value.real (of_decide_eq_true same)
  · exact congrArg Value.text (of_decide_eq_true same)
  · exact congrArg Value.list (eq_of_allAgree same)
  · exact congrArg Value.table (eq_of_entriesAgree same)
  · contradiction

theorem eq_of_allAgree {items others : List Value} (same : allAgree items others = true) :
    items = others := by
  unfold allAgree at same
  split at same
  · rfl
  · obtain ⟨here, later⟩ := Bool.and_eq_true_iff.mp same
    rw [Value.eq_of_agrees here, eq_of_allAgree later]
  · contradiction

theorem eq_of_entriesAgree {entries others : List (String × Value)}
    (same : entriesAgree entries others = true) : entries = others := by
  unfold entriesAgree at same
  split at same
  · rfl
  · obtain ⟨here, later⟩ := Bool.and_eq_true_iff.mp same
    obtain ⟨name, value⟩ := Bool.and_eq_true_iff.mp here
    rw [of_decide_eq_true name, Value.eq_of_agrees value, eq_of_entriesAgree later]
  · contradiction

end

mutual

theorem Value.agrees_self (value : Value) : value.agrees value = true := by
  cases value with
  | list items => exact allAgree_self items
  | table entries => exact entriesAgree_self entries
  | null | date | dateTime | time => rfl
  | boolean | integer | real | text => exact decide_eq_true rfl
termination_by structural value

theorem allAgree_self (items : List Value) : allAgree items items = true := by
  cases items with
  | nil => rfl
  | cons value rest => exact Bool.and_eq_true_iff.mpr ⟨value.agrees_self, allAgree_self rest⟩
termination_by structural items

theorem entriesAgree_self (entries : List (String × Value)) :
    entriesAgree entries entries = true := by
  cases entries with
  | nil => rfl
  | cons entry rest =>
    obtain ⟨name, value⟩ := entry
    unfold entriesAgree
    rw [decide_eq_true rfl, value.agrees_self, entriesAgree_self rest]
    rfl
termination_by structural entries

end

instance : DecidableEq Value := fun one other =>
  decidable_of_iff (one.agrees other = true)
    ⟨Value.eq_of_agrees, fun same => same ▸ one.agrees_self⟩

end Chip8.Toml
