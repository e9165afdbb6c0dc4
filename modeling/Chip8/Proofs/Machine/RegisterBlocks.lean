import Chip8.Proofs.Machine.Footprint

/-! # Storing and loading registers

A block of bytes at the index is no longer than the address space, so its places have cells of their
own wherever the block wraps around. So what is stored there is what a load from there finds
(`registers_come_back`).
-/

namespace Chip8

/-! ## Words of group F -/

/-- The word of group F with a register and a low byte. -/
def miscellanyWord (x : Register) (byte : UInt8) : Nat := 0xF000 + x.val * 0x100 + byte.toNat

theorem decode?_miscellanyWord (x : Register) (byte : UInt8) :
    Instruction.decode? (miscellanyWord x byte) = Instruction.ofMiscellany? x byte.toNat := by
  have small := byte.toNat_lt
  have group : Word.group (miscellanyWord x byte) = 0xF := by
    unfold Word.group miscellanyWord
    omega
  have register : Word.x (miscellanyWord x byte) = x := by
    have number : ((miscellanyWord x byte : Int) / 0x100 % 16).toNat % 16 = x.val := by
      unfold miscellanyWord
      omega
    exact Fin.ext number
  have low : Word.byte (miscellanyWord x byte) = byte := by
    unfold Word.byte miscellanyWord
    rw [← UInt8.toNat_inj, UInt8.toNat_ofNat']
    omega
  simp only [Instruction.decode?, group, register, low]

namespace Machine

variable {machine : Machine}

/-! ## Rows of registers -/

theorem mem_registersUpTo {x register : Register} : register ∈ registersUpTo x ↔ register ≤ x := by
  simp [registersUpTo]

theorem getElem?_registersUpTo {x register : Register} (among : register ≤ x) :
    (registersUpTo x)[register.val]? = some register := by
  revert x register
  decide

theorem nodup_registersUpTo (x : Register) : (registersUpTo x).Nodup :=
  (List.nodup_finRange 16).filter _

/-- A load puts the bytes from the index on into the registers up to `x`, and no other register
changes. -/
theorem get_loadedRegisters (machine : Machine) (x register : Register) :
    (machine.loadedRegisters x).get register =
      if register ≤ x then machine.memory.byteAt (machine.index + register.val)
      else machine.registers.get register := by
  have lengths : (registersUpTo x).length = (machine.bytesAtIndex (x + 1)).length := by
    rw [length_registersUpTo, length_bytesAtIndex]
  have named : ((registersUpTo x).zip (machine.bytesAtIndex (x + 1))).map Prod.fst =
      registersUpTo x := List.map_fst_zip (Nat.le_of_eq lengths)
  rw [loadedRegisters]
  split
  · rename_i among
    apply Registers.get_foldl_set_of_mem
    · rw [named]
      exact nodup_registersUpTo x
    · apply List.mem_of_getElem? (i := register.val)
      rw [List.getElem?_zip_eq_some]
      exact ⟨getElem?_registersUpTo among,
        getElem?_bytesAtIndex.mpr ⟨Nat.lt_succ_of_le among, rfl⟩⟩
  · rename_i apart
    apply Registers.get_foldl_set
    rw [named, mem_registersUpTo]
    exact apart

/-- Loaded registers hold the bytes that they were loaded from. -/
theorem map_get_loadedRegisters (machine : Machine) (x : Register) :
    (registersUpTo x).map (machine.loadedRegisters x).get = machine.bytesAtIndex (x + 1) := by
  apply List.ext_getElem?
  intro k
  rw [List.getElem?_map]
  by_cases inside : k < x.val + 1
  · have among : (⟨k, by omega⟩ : Register) ≤ x := Nat.le_of_lt_succ inside
    have held : (machine.bytesAtIndex (x + 1))[k]? =
        some (machine.memory.byteAt (machine.index + k)) :=
      getElem?_bytesAtIndex.mpr ⟨inside, rfl⟩
    rw [getElem?_registersUpTo among, held, Option.map_some, get_loadedRegisters, if_pos among]
  · have beyond : (registersUpTo x)[k]? = none :=
      List.getElem?_eq_none (by rw [length_registersUpTo]; omega)
    rw [beyond, Option.map_none, List.getElem?_eq_none]
    rw [length_bytesAtIndex]
    omega

/-! ## Stores and loads -/

theorem perform_miscellanyWord (machine : Machine) {x : Register} {byte : UInt8}
    {instruction : Instruction}
    (stands : Instruction.ofMiscellany? x byte.toNat = some instruction) :
    machine.perform (miscellanyWord x byte) = machine.execute instruction := by
  rw [perform, decode?_miscellanyWord, stands]

theorem WellFormed.perform_load (well : machine.WellFormed) (x : Register) :
    machine.perform (miscellanyWord x 0x65) =
      .ok { machine with registers := machine.loadedRegisters x } :=
  (machine.perform_miscellanyWord rfl).trans (well.execute_loadRegisters x)

theorem perform_store (machine : Machine) {x : Register} {memory : Memory}
    (wrote : machine.memory.writeBlock machine.index
      ((registersUpTo x).map machine.registers.get) = .ok memory) :
    machine.perform (miscellanyWord x 0x55) = .ok { machine with memory := memory } := by
  rw [machine.perform_miscellanyWord rfl]
  simp only [execute, wrote]
  rfl

/-- Stored registers stand at the index. -/
theorem WellFormed.exists_store (well : machine.WellFormed) (x : Register) :
    ∃ memory, machine.perform (miscellanyWord x 0x55) = .ok { machine with memory := memory } ∧
      memory.Full ∧ ∀ register ≤ x,
        memory.byteAt (machine.index + register.val) = machine.registers.get register := by
  have length : ((registersUpTo x).map machine.registers.get).length ≤ addressSpace := by
    rw [List.length_map, length_registersUpTo, addressSpace]
    omega
  obtain ⟨memory, wrote, full⟩ := well.memory.writeBlock machine.index _
  refine ⟨memory, perform_store machine wrote, full, fun register among => ?_⟩
  apply well.memory.byteAt_writeBlock length wrote
  rw [List.getElem?_map, getElem?_registersUpTo among, Option.map_some]

/-- Storing registers again where they were loaded from changes nothing. -/
theorem WellFormed.perform_store_loaded (well : machine.WellFormed) (x : Register) :
    { machine with registers := machine.loadedRegisters x }.perform (miscellanyWord x 0x55) =
      .ok { machine with registers := machine.loadedRegisters x } := by
  refine perform_store _ ?_
  rw [map_get_loadedRegisters]
  exact well.memory.writeBlock_self machine.index (x + 1)

/-- The decimal digits of a register stand at the index. -/
theorem WellFormed.exists_storeDecimal (well : machine.WellFormed) (x : Register) :
    ∃ memory, machine.perform (miscellanyWord x 0x33) = .ok { machine with memory := memory } ∧
      memory.Full ∧ ∀ (k : Nat) (digit : UInt8),
        (decimalDigits (machine.registers.get x))[k]? = some digit →
          memory.byteAt (machine.index + k) = digit := by
  have length : (decimalDigits (machine.registers.get x)).length ≤ addressSpace := by
    simp [decimalDigits, addressSpace]
  obtain ⟨memory, wrote, full⟩ := well.memory.writeBlock machine.index _
  refine ⟨memory, ?_, full, fun k digit => well.memory.byteAt_writeBlock length wrote⟩
  rw [machine.perform_miscellanyWord rfl]
  simp only [Machine.execute, wrote]
  rfl

/-- The three digits of a byte are its hundreds, tens and ones. -/
theorem decimalDigits_value (byte : UInt8) :
    ∃ hundreds tens ones, decimalDigits byte = [hundreds, tens, ones] ∧ hundreds.toNat ≤ 9 ∧
      tens.toNat ≤ 9 ∧ ones.toNat ≤ 9 ∧
        100 * hundreds.toNat + 10 * tens.toNat + ones.toNat = byte.toNat := by
  have small := byte.toNat_lt
  refine ⟨byte / 100 % 10, byte / 10 % 10, byte % 10, rfl, ?_⟩
  simp only [UInt8.toNat_mod, UInt8.toNat_div, UInt8.reduceToNat]
  omega

/-- Storing and loading are inverse wherever the index stands, also where the block passes the end
of memory or of the index's range. Registers that are stored come back with a load of the same
block, whatever the registers were in between, and no other register changes; storing a block that
was loaded leaves memory as it is; and the decimal digits that are stored of a register, loaded into
the first three registers, give back its value. The index stays where it is throughout. -/
theorem registers_come_back (well : machine.WellFormed) (x : Register) :
    (∃ stored, machine.perform (miscellanyWord x 0x55) = .ok stored ∧
      stored.index = machine.index ∧
      ∀ changed : Registers, ∃ loaded,
        { stored with registers := changed }.perform (miscellanyWord x 0x65) = .ok loaded ∧
        loaded.index = machine.index ∧
        ∀ register, loaded.registers.get register =
          if register ≤ x then machine.registers.get register else changed.get register) ∧
    (∃ loaded stored, machine.perform (miscellanyWord x 0x65) = .ok loaded ∧
      loaded.index = machine.index ∧ loaded.perform (miscellanyWord x 0x55) = .ok stored ∧
      stored.index = machine.index ∧ stored.memory = machine.memory) ∧
    ∃ stored loaded, machine.perform (miscellanyWord x 0x33) = .ok stored ∧
      stored.index = machine.index ∧ stored.perform (miscellanyWord 2 0x65) = .ok loaded ∧
      loaded.index = machine.index ∧
      (loaded.registers.get 0).toNat ≤ 9 ∧ (loaded.registers.get 1).toNat ≤ 9 ∧
      (loaded.registers.get 2).toNat ≤ 9 ∧
      100 * (loaded.registers.get 0).toNat + 10 * (loaded.registers.get 1).toNat +
        (loaded.registers.get 2).toNat = (machine.registers.get x).toNat := by
  refine ⟨?_, ?_, ?_⟩
  · obtain ⟨memory, stores, full, held⟩ := well.exists_store x
    refine ⟨_, stores, rfl, fun changed => ?_⟩
    have ready : { machine with memory := memory, registers := changed }.WellFormed :=
      (well.withMemory full).withRest changed _ _ _
    refine ⟨_, ready.perform_load x, rfl, fun register => ?_⟩
    rw [get_loadedRegisters]
    split
    · rename_i among
      exact held register among
    · rfl
  · exact ⟨_, _, well.perform_load x, rfl, well.perform_store_loaded x, rfl, rfl⟩
  · obtain ⟨memory, stores, full, held⟩ := well.exists_storeDecimal x
    have loads := (well.withMemory full).perform_load 2
    obtain ⟨hundreds, tens, ones, digits, value⟩ := decimalDigits_value (machine.registers.get x)
    rw [digits] at held
    have first : (Machine.loadedRegisters { machine with memory := memory } 2).get 0 = hundreds :=
      (get_loadedRegisters _ 2 0).trans (held 0 hundreds rfl)
    have second : (Machine.loadedRegisters { machine with memory := memory } 2).get 1 = tens :=
      (get_loadedRegisters _ 2 1).trans (held 1 tens rfl)
    have third : (Machine.loadedRegisters { machine with memory := memory } 2).get 2 = ones :=
      (get_loadedRegisters _ 2 2).trans (held 2 ones rfl)
    refine ⟨_, _, stores, rfl, loads, rfl, ?_⟩
    rw [first, second, third]
    exact value

/-- A machine whose index is so near the end of its range that a block passes it. -/
def endOfRange : Machine :=
  { start 500 .clip (.ofSeed 0) with index := 0xFFFE }.setRegister (.ofNumber 5) 217

theorem endOfRange_registers_come_back :
    endOfRange.WellFormed ∧
      (∃ stored loaded, endOfRange.perform 0xF555 = .ok stored ∧
        { stored with registers := .zero }.perform 0xF565 = .ok loaded ∧
        loaded.registers.get 5 = 217 ∧ loaded.index = 0xFFFE) ∧
      ∃ stored loaded, endOfRange.perform 0xF533 = .ok stored ∧
        stored.perform 0xF265 = .ok loaded ∧
        100 * (loaded.registers.get 0).toNat + 10 * (loaded.registers.get 1).toNat +
          (loaded.registers.get 2).toNat = 217 := by
  have placed : { start 500 .clip (.ofSeed 0) with index := 0xFFFE }.WellFormed :=
    (wellFormed_start 500 .clip (.ofSeed 0)).withIndex (isWord_natCast (by decide))
  have well : endOfRange.WellFormed := placed.setRegister (.ofNumber 5) 217
  obtain ⟨⟨stored, stores, _, comesBack⟩, _, digits, read, writes, _, reads, _, _, _, _, value⟩ :=
    registers_come_back well 5
  obtain ⟨loaded, loads, index, held⟩ := comesBack .zero
  refine ⟨well, ⟨stored, loaded, stores, loads, held 5, index⟩, digits, read, writes, reads, value⟩

end Machine

end Chip8
