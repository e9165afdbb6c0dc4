import Mathlib.Data.List.Nodup

/-! # Looking up names

A list of named values in which the first value of a name counts. Where no name occurs twice, what
is found under a name is what is listed with it.
-/

namespace Chip8.Lookup

variable {α : Type} {pairs : List (String × α)} {name : String} {value : α}

theorem mem_of_find? (found : (pairs.find? fun pair => pair.1 == name).map (·.2) = some value) :
    (name, value) ∈ pairs := by
  obtain ⟨⟨written, _⟩, listed, rfl⟩ := Option.map_eq_some_iff.mp found
  obtain rfl : written = name := by simpa using List.find?_some listed
  exact List.mem_of_find?_eq_some listed

theorem find?_eq_none_iff :
    (pairs.find? fun pair => pair.1 == name).map (·.2) = none ↔ name ∉ pairs.map Prod.fst := by
  simp only [Option.map_eq_none_iff, List.find?_eq_none, beq_iff_eq, List.mem_map, not_exists,
    not_and]

theorem find?_eq_some_iff (names : (pairs.map Prod.fst).Nodup) :
    (pairs.find? fun pair => pair.1 == name).map (·.2) = some value ↔ (name, value) ∈ pairs := by
  refine ⟨mem_of_find?, fun member => ?_⟩
  cases found : (pairs.find? fun pair => pair.1 == name).map (·.2) with
  | none => exact absurd (List.mem_map_of_mem member) (find?_eq_none_iff.mp found)
  | some other =>
    have same := List.inj_on_of_nodup_map names (mem_of_find? found) member rfl
    exact congrArg (fun pair => some pair.2) same

end Chip8.Lookup
