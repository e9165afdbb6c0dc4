import Chip8.Registers

/-! # Reading registers after writing them

A register that was written holds what was written, and every other one what it held before. A row
of writes leaves the registers alone that it does not name.
-/

namespace Chip8.Registers

variable {x other : Register}

@[simp] theorem get_set_self (registers : Registers) (x : Register) (byte : UInt8) :
    (registers.set x byte).get x = byte := Vector.getElem_set_self _

theorem get_set_of_ne (registers : Registers) (byte : UInt8) (apart : other ≠ x) :
    (registers.set x byte).get other = registers.get other := by
  have numbers : x.val ≠ other.val := fun same => apart (Fin.ext same.symm)
  exact Vector.getElem_set_ne x.isLt other.isLt numbers

theorem get_setFlag_of_ne (registers : Registers) (condition : Bool) (apart : other ≠ .flag) :
    (registers.setFlag condition).get other = registers.get other := get_set_of_ne _ _ apart

/-- A row of writes leaves alone what it does not name. -/
theorem get_foldl_set {writes : List (Register × UInt8)} (registers : Registers)
    (unnamed : other ∉ writes.map Prod.fst) :
    (writes.foldl (fun registers (x, byte) => registers.set x byte) registers).get other =
      registers.get other := by
  induction writes generalizing registers with
  | nil => rfl
  | cons write rest ih =>
    rw [List.map_cons, List.mem_cons, not_or] at unnamed
    obtain ⟨here, later⟩ := unnamed
    rw [List.foldl_cons, ih _ later]
    exact get_set_of_ne registers write.2 here

/-- A row of writes to different registers puts into each what is written to it. -/
theorem get_foldl_set_of_mem {writes : List (Register × UInt8)} (registers : Registers)
    (distinct : (writes.map Prod.fst).Nodup) {x : Register} {byte : UInt8}
    (member : (x, byte) ∈ writes) :
    (writes.foldl (fun registers (x, byte) => registers.set x byte) registers).get x = byte := by
  induction writes generalizing registers with
  | nil => contradiction
  | cons write rest ih =>
    obtain ⟨unnamed, later⟩ := List.nodup_cons.mp distinct
    rw [List.foldl_cons]
    rcases List.mem_cons.mp member with rfl | behind
    · rw [get_foldl_set _ unnamed, get_set_self]
    · exact ih _ later behind

end Chip8.Registers
