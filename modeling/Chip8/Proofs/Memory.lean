import Chip8.Memory
import Chip8.Proofs.Outcome

/-! # Memory that covers the address space

As long as there is a cell for every address, no access can fail: an address of any size folds to
one of the cells. Accesses keep the number of cells, and so does loading what fits.
-/

namespace Chip8.Memory

/-- There is a cell for every address. -/
def Covers (memory : Memory) : Prop := addressSpace ≤ memory.cells.size

/-- There is exactly one cell for every address. -/
def Full (memory : Memory) : Prop := memory.cells.size = addressSpace

theorem Full.covers {memory : Memory} (full : memory.Full) : memory.Covers := Nat.le_of_eq full.symm

/-- The byte that an address of any size names. -/
def byteAt (memory : Memory) (address : Int) : UInt8 := memory.cells.getD (fold address) 0

/-- The memory with another byte where an address of any size points. -/
def put (memory : Memory) (address : Int) (byte : UInt8) : Memory :=
  ⟨memory.cells.setIfInBounds (fold address) byte⟩

theorem fold_lt (address : Int) : fold address < addressSpace := by
  have low := Int.emod_nonneg address (b := addressSpace) (by decide)
  have high := Int.emod_lt_of_pos address (b := addressSpace) (by decide)
  unfold fold
  omega

theorem Covers.fold_lt {memory : Memory} (covers : memory.Covers) (address : Int) :
    fold address < memory.cells.size := Nat.lt_of_lt_of_le (Memory.fold_lt address) covers

/-- The addresses of the address space name the cells in their order. -/
theorem fold_of_lt {address : Nat} (inside : address < addressSpace) : fold address = address := by
  unfold fold
  rw [Int.emod_eq_of_lt (by omega) (by omega), Int.toNat_natCast]

theorem size_put (memory : Memory) (address : Int) (byte : UInt8) :
    (memory.put address byte).cells.size = memory.cells.size := Array.size_setIfInBounds

theorem Full.put {memory : Memory} (full : memory.Full) (address : Int) (byte : UInt8) :
    (memory.put address byte).Full := (memory.size_put address byte).trans full

theorem Covers.put {memory : Memory} (covers : memory.Covers) (address : Int) (byte : UInt8) :
    (memory.put address byte).Covers :=
  Nat.le_trans covers (Nat.le_of_eq (memory.size_put address byte).symm)

/-- A read never fails. -/
theorem Covers.read {memory : Memory} (covers : memory.Covers) (address : Int) :
    memory.read address = .ok (memory.byteAt address) := by
  have inside := covers.fold_lt address
  simp only [Memory.read, byteAt, Array.getElem?_eq_getElem inside, Array.getD, inside, dif_pos]
  rfl

/-- A write never fails. -/
theorem Covers.write {memory : Memory} (covers : memory.Covers) (address : Int) (byte : UInt8) :
    memory.write address byte = .ok (memory.put address byte) := by
  have inside := covers.fold_lt address
  rw [Memory.write, dif_pos inside, Memory.put, Array.setIfInBounds, dif_pos inside]

/-- Reading a block never fails and gives as many bytes as were asked for. -/
theorem Covers.readBlock {memory : Memory} (covers : memory.Covers) (address : Int) (count : Nat) :
    memory.readBlock address count =
      .ok ((List.range count).map fun (k : Nat) => memory.byteAt (address + k)) := by
  have reads : (fun (k : Nat) => memory.read (address + k)) =
      fun (k : Nat) => (pure (memory.byteAt (address + k)) : Except Fault UInt8) := by
    funext k
    exact covers.read (address + k)
  rw [Memory.readBlock, reads, List.mapM_pure]
  rfl

/-- Writing a block never fails. -/
theorem Full.writeBlock {memory : Memory} (full : memory.Full) (address : Int)
    (bytes : List UInt8) :
    ∃ after, memory.writeBlock address bytes = .ok after ∧ after.Full := by
  induction bytes generalizing memory address with
  | nil => exact ⟨memory, rfl, full⟩
  | cons byte rest ih =>
    obtain ⟨after, wrote, afterFull⟩ := ih (full.put address byte) (address + 1)
    refine ⟨after, ?_, afterFull⟩
    rw [Memory.writeBlock, full.covers.write]
    exact wrote

/-- A write leaves every cell alone but the one that it names. -/
theorem getElem?_write {memory after : Memory} {address : Int} {byte : UInt8} {cell : Nat}
    (wrote : memory.write address byte = .ok after) (other : cell ≠ fold address) :
    after.cells[cell]? = memory.cells[cell]? := by
  unfold Memory.write at wrote
  split at wrote
  · rename_i inside
    cases wrote
    exact Array.getElem?_set_ne inside (Ne.symm other)
  · contradiction

/-- Writing a block leaves every cell alone but those of the addresses that it is written to. -/
theorem getElem?_writeBlock {memory after : Memory} {address : Int} {bytes : List UInt8}
    {cell : Nat} (wrote : memory.writeBlock address bytes = .ok after)
    (other : ∀ k : Nat, k < bytes.length → cell ≠ fold (address + k)) :
    after.cells[cell]? = memory.cells[cell]? := by
  induction bytes generalizing memory address with
  | nil =>
    cases wrote
    rfl
  | cons byte rest ih =>
    obtain ⟨middle, first, later⟩ := Outcome.bind_eq_ok.mp wrote
    have here : cell ≠ fold address := by simpa using other 0 (Nat.zero_lt_succ _)
    rw [ih later ?_, getElem?_write first here]
    intro k inside
    have place : address + 1 + (k : Int) = address + (k + 1 : Nat) := by omega
    rw [place]
    exact other (k + 1) (Nat.succ_lt_succ inside)

section Blocks

variable {memory after : Memory} {address : Int}

/-- Two places of a block that is no longer than the address space never share a cell. -/
theorem fold_add_inj {j k : Nat} (first : j < addressSpace) (second : k < addressSpace)
    (same : fold (address + j) = fold (address + k)) : j = k := by
  have low := Int.emod_nonneg (address + j) (b := addressSpace) (by decide)
  have lowOther := Int.emod_nonneg (address + k) (b := addressSpace) (by decide)
  unfold fold addressSpace at *
  omega

theorem byteAt_of_getElem? {byte : UInt8} (here : memory.cells[fold address]? = some byte) :
    memory.byteAt address = byte := by
  rw [byteAt, Array.getD_eq_getD_getElem?, here, Option.getD_some]

theorem Covers.getElem?_put (covers : memory.Covers) (address : Int) (byte : UInt8) :
    (memory.put address byte).cells[fold address]? = some byte := by
  rw [Memory.put, Array.getElem?_setIfInBounds_self_of_lt (covers.fold_lt address)]

/-- Putting back the byte that a cell holds changes nothing. -/
theorem Full.put_byteAt (full : memory.Full) (address : Int) :
    memory.put address (memory.byteAt address) = memory := by
  have inside := full.covers.fold_lt address
  have held : memory.byteAt address = memory.cells[fold address] :=
    byteAt_of_getElem? (Array.getElem?_eq_getElem inside)
  rw [Memory.put, Array.setIfInBounds, dif_pos inside, held, Array.set_getElem_self]

/-- A block that is no longer than the address space is read back as it was written. -/
theorem Full.byteAt_writeBlock (full : memory.Full) {bytes : List UInt8}
    (short : bytes.length ≤ addressSpace) (wrote : memory.writeBlock address bytes = .ok after)
    {k : Nat} {byte : UInt8} (here : bytes[k]? = some byte) :
    after.byteAt (address + k) = byte := by
  induction bytes generalizing memory address k with
  | nil => contradiction
  | cons first rest ih =>
    obtain ⟨middle, wroteFirst, wroteRest⟩ := Outcome.bind_eq_ok.mp wrote
    rw [full.covers.write] at wroteFirst
    cases wroteFirst
    rw [List.length_cons] at short
    cases k with
    | zero =>
      cases here
      apply byteAt_of_getElem?
      have start : address + (0 : Nat) = address := Int.add_zero address
      rw [start, ← full.covers.getElem?_put address byte]
      -- The places behind the first one are too few to come round to its cell.
      apply getElem?_writeBlock wroteRest
      intro k inside same
      have place : address + (k + 1 : Nat) = address + 1 + (k : Int) := by omega
      have round : fold (address + (0 : Nat)) = fold (address + (k + 1 : Nat)) := by
        rw [start, place, same]
      exact Nat.succ_ne_zero k (fold_add_inj (by decide) (by omega) round).symm
    | succ k =>
      have place : address + (k + 1 : Nat) = address + 1 + (k : Int) := by omega
      rw [place]
      exact ih (full.put address first) (by omega) wroteRest here

/-- Writing back the bytes that a block holds changes nothing. -/
theorem Full.writeBlock_self (full : memory.Full) (address : Int) (count : Nat) :
    memory.writeBlock address
      ((List.range count).map fun (k : Nat) => memory.byteAt (address + k)) = .ok memory := by
  induction count generalizing address with
  | zero => rfl
  | succ count ih =>
    have rest : (fun (k : Nat) => memory.byteAt (address + (k.succ : Nat))) =
        fun (k : Nat) => memory.byteAt (address + 1 + k) := by
      funext k
      have place : address + (k + 1 : Nat) = address + 1 + (k : Int) := by omega
      rw [Nat.succ_eq_add_one, place]
    have start : address + (0 : Nat) = address := Int.add_zero address
    rw [List.range_succ_eq_map, List.map_cons, List.map_map, Function.comp_def, rest, start,
      Memory.writeBlock, full.covers.write, full.put_byteAt]
    exact ih (address + 1)

end Blocks

/-! ## Loading -/

section Loading

variable (memory : Memory) {offset : Nat} {data : List UInt8}

theorem load_eq (offset : Nat) (data : List UInt8) :
    memory.load offset data = memory.splice offset (offset + data.length) data := by
  have start : memory.place (offset : Int) = offset := by
    rw [place, if_neg (by omega), Int.toNat_natCast]
  have stop : memory.place ((offset : Int) + data.length) = offset + data.length := by
    rw [place, if_neg (by omega)]
    omega
  rw [load, start, stop]

/-- Loading keeps all cells that it does not replace. -/
theorem size_load (offset : Nat) (data : List UInt8) :
    (memory.load offset data).cells.size = min offset memory.cells.size + data.length +
      (memory.cells.size - (offset + data.length)) := by
  rw [load_eq, splice, List.size_toArray, List.length_append, List.length_append, List.length_take,
    List.length_drop, Array.length_toList, Nat.max_eq_right (Nat.le_add_right ..)]

/-- Loading what ends within the row of cells keeps their number. -/
theorem size_load_of_le (fits : offset + data.length ≤ memory.cells.size) :
    (memory.load offset data).cells.size = memory.cells.size := by
  rw [size_load]
  omega

/-- What was loaded stands from the offset on. -/
theorem getElem?_load (fits : offset + data.length ≤ memory.cells.size) {k : Nat}
    (inside : k < data.length) : (memory.load offset data).cells[offset + k]? = data[k]? := by
  have front : (memory.cells.toList.take offset).length = offset := by
    rw [List.length_take, Array.length_toList]
    omega
  rw [load_eq, splice, List.getElem?_toArray, List.append_assoc,
    List.getElem?_append_right (by omega), front, Nat.add_sub_cancel_left,
    List.getElem?_append_left inside]

/-- The cells before the offset and those behind what was loaded are left alone. -/
theorem getElem?_load_of_outside (fits : offset + data.length ≤ memory.cells.size) {cell : Nat}
    (outside : cell < offset ∨ offset + data.length ≤ cell) :
    (memory.load offset data).cells[cell]? = memory.cells[cell]? := by
  have front : (memory.cells.toList.take offset).length = offset := by
    rw [List.length_take, Array.length_toList]
    omega
  rw [load_eq, splice, List.getElem?_toArray, ← Array.getElem?_toList]
  rcases outside with before | behind
  · rw [List.append_assoc, List.getElem?_append_left (by omega), List.getElem?_take_of_lt before]
  · rw [List.getElem?_append_right (by rw [List.length_append]; omega), List.getElem?_drop,
      List.length_append, front, Nat.max_eq_right (Nat.le_add_right ..),
      Nat.add_sub_cancel' behind]

end Loading

/-- Loading what ends within the address space keeps the number of cells. -/
theorem Full.load {memory : Memory} (full : memory.Full) (offset : Nat) (data : List UInt8)
    (fits : offset + data.length ≤ addressSpace) : (memory.load offset data).Full :=
  (memory.size_load_of_le (full.symm ▸ fits)).trans full

/-- What was loaded stands at the offset that it was loaded at. -/
theorem Covers.byteAt_load {memory : Memory} (covers : memory.Covers) {offset k : Nat}
    {data : List UInt8} (fits : offset + data.length ≤ addressSpace) {byte : UInt8}
    (here : data[k]? = some byte) : (memory.load offset data).byteAt (offset + k) = byte := by
  obtain ⟨inside, _⟩ := List.getElem?_eq_some_iff.mp here
  have place : (offset : Int) + k = (offset + k : Nat) := Int.natCast_add ..
  apply byteAt_of_getElem?
  rw [place, fold_of_lt (by omega), memory.getElem?_load (Nat.le_trans fits covers) inside, here]

theorem full_zero : zero.Full := Array.size_replicate

/-- The memory of a machine that has just been started covers the address space. -/
theorem full_fresh : fresh.Full := full_zero.load fontStart font (by decide)

/-- What a memory held before it was reset does not matter, nor how many cells it had. -/
theorem reset_eq (memory : Memory) : memory.reset = fresh := by
  have all : memory.cells.toList.drop (max 0 memory.cells.size) = [] := by
    rw [Nat.zero_max, ← Array.length_toList, List.drop_length]
  have zeros : memory.splice 0 memory.cells.size (List.replicate addressSpace 0) = zero := by
    rw [splice, all, List.take_zero, List.nil_append, List.append_nil, List.toArray_replicate, zero]
  rw [reset, zeros, fresh]

theorem full_reset (memory : Memory) : memory.reset.Full := memory.reset_eq.symm ▸ full_fresh

/-! ## Addresses of one cell -/

/-- Two addresses that name the same cell. -/
def SameCell (one other : Int) : Prop := one % addressSpace = other % addressSpace

instance (one other : Int) : Decidable (SameCell one other) :=
  inferInstanceAs (Decidable (one % addressSpace = other % addressSpace))

variable {one other : Int}

theorem SameCell.add (same : SameCell one other) (distance : Int) :
    SameCell (one + distance) (other + distance) := by
  unfold SameCell addressSpace at *
  omega

/-- Keeping sixteen bits of two addresses of a cell gives two addresses of that cell. -/
theorem SameCell.lowWord (same : SameCell one other) :
    SameCell (Chip8.lowWord one) (Chip8.lowWord other) := by
  unfold SameCell Chip8.lowWord addressSpace at *
  omega

theorem SameCell.byteAt (same : SameCell one other) (memory : Memory) :
    memory.byteAt one = memory.byteAt other := by
  have folds : fold one = fold other := congrArg Int.toNat same
  rw [Memory.byteAt, Memory.byteAt, folds]

theorem SameCell.read (same : SameCell one other) (memory : Memory) :
    memory.read one = memory.read other := by
  have folds : fold one = fold other := congrArg Int.toNat same
  rw [Memory.read, Memory.read, folds]

theorem SameCell.write (same : SameCell one other) (memory : Memory) (byte : UInt8) :
    memory.write one byte = memory.write other byte := by
  have folds : fold one = fold other := congrArg Int.toNat same
  simp only [Memory.write, folds]

theorem SameCell.readBlock (same : SameCell one other) (memory : Memory) (count : Nat) :
    memory.readBlock one count = memory.readBlock other count := by
  have reads : (fun (k : Nat) => memory.read (one + k)) =
      fun (k : Nat) => memory.read (other + k) :=
    funext fun k => (same.add k).read memory
  rw [Memory.readBlock, Memory.readBlock, reads]

theorem SameCell.writeBlock (same : SameCell one other) (memory : Memory) (bytes : List UInt8) :
    memory.writeBlock one bytes = memory.writeBlock other bytes := by
  induction bytes generalizing memory one other with
  | nil => rfl
  | cons byte rest ih =>
    have later : (fun stored : Memory => stored.writeBlock (one + 1) rest) =
        fun stored => stored.writeBlock (other + 1) rest :=
      funext fun stored => ih (same.add 1) stored
    simp only [Memory.writeBlock, same.write, later]

end Chip8.Memory
