import Chip8.Proofs.Memory

/-! # A memory of as many cells as there are addresses

However a memory is read, written, loaded into and reset, it keeps a cell for every address
(`Covers.serveAll`). Loads past the end may add cells, but no address names them. So every access
goes through, and a memory that has been used for long is as good as a fresh one: what is written is
read back by all addresses of the cell and by no other, what is loaded into the address space
replaces the cells that it is meant for, and a reset leaves nothing behind.
-/

namespace Chip8.Memory

/-! ## Requests -/

inductive Request where
  | read (address : Int)
  | write (address value : Int)
  | readBlock (address count : Int)
  | load (offset : Nat) (data : List UInt8)
  | reset
deriving DecidableEq, Repr

/-- The memory after a request, if it goes through. Of a value that is written, eight bits are kept;
a block of fewer than no bytes is empty. -/
def serve (memory : Memory) : Request → Except Fault Memory
  | .read address => do
    let _ ← memory.read address
    return memory
  | .write address value => memory.write address (UInt8.ofInt value)
  | .readBlock address count => do
    let _ ← memory.readBlock address count.toNat
    return memory
  | .load offset data => return memory.load offset data
  | .reset => return memory.reset

/-- The memory after requests in a row, if all of them go through. -/
def serveAll (memory : Memory) (requests : List Request) : Except Fault Memory :=
  requests.foldlM serve memory

variable {memory : Memory}

/-! ## A cell for every address -/

theorem Covers.load (covers : memory.Covers) (offset : Nat) (data : List UInt8) :
    (memory.load offset data).Covers := by
  unfold Covers at *
  rw [size_load]
  omega

/-- A memory with a cell for every address serves every request and still has a cell for every
address. -/
theorem Covers.serve (covers : memory.Covers) (request : Request) :
    ∃ after, memory.serve request = .ok after ∧ after.Covers := by
  cases request with
  | read address =>
    refine ⟨memory, ?_, covers⟩
    rw [Memory.serve, covers.read]
    rfl
  | write address value => exact ⟨_, covers.write address _, covers.put address _⟩
  | readBlock address count =>
    refine ⟨memory, ?_, covers⟩
    rw [Memory.serve, covers.readBlock]
    rfl
  | load offset data => exact ⟨_, rfl, covers.load offset data⟩
  | reset => exact ⟨_, rfl, memory.full_reset.covers⟩

/-- So it does with requests in a row. -/
theorem Covers.serveAll (covers : memory.Covers) (requests : List Request) :
    ∃ after, memory.serveAll requests = .ok after ∧ after.Covers := by
  induction requests generalizing memory with
  | nil => exact ⟨memory, rfl, covers⟩
  | cons request rest ih =>
    obtain ⟨next, served, nextCovers⟩ := covers.serve request
    obtain ⟨after, servedRest, afterCovers⟩ := ih nextCovers
    refine ⟨after, ?_, afterCovers⟩
    rw [Memory.serveAll, List.foldlM_cons, served]
    exact servedRest

/-! ## What is read after a write or a load -/

/-- Two addresses fold to one cell exactly if they differ by a multiple of the address space. -/
theorem fold_eq_fold_iff {one other : Int} : fold one = fold other ↔ SameCell one other := by
  have low := Int.emod_nonneg one (b := addressSpace) (by decide)
  have lowOther := Int.emod_nonneg other (b := addressSpace) (by decide)
  unfold fold SameCell
  omega

theorem Covers.read_put_of_sameCell (covers : memory.Covers) {one other : Int}
    (same : SameCell one other) (byte : UInt8) : (memory.put other byte).read one = .ok byte := by
  rw [(covers.put other byte).read, same.byteAt,
    byteAt_of_getElem? (covers.getElem?_put other byte)]

theorem read_put_of_not_sameCell {one other : Int} (apart : ¬SameCell one other) (byte : UInt8) :
    (memory.put other byte).read one = memory.read one := by
  have cells : fold other ≠ fold one := fun same => apart (fold_eq_fold_iff.mp same.symm)
  rw [Memory.read, Memory.read, Memory.put, Array.getElem?_setIfInBounds_ne cells]

theorem toNat_ofInt (value : Int) : ((UInt8.ofInt value).toNat : Int) = value % 0x100 := by
  simp only [UInt8.ofInt, UInt8.toNat_ofNat']
  omega

/-- What was loaded into the address space is read back as a block. -/
theorem Covers.readBlock_load (covers : memory.Covers) {offset : Nat} {data : List UInt8}
    (fits : offset + data.length ≤ addressSpace) :
    (memory.load offset data).readBlock offset data.length = .ok data := by
  rw [(covers.load offset data).readBlock]
  congr 1
  apply List.ext_getElem
  · rw [List.length_map, List.length_range]
  · intro k _ inside
    rw [List.getElem_map, List.getElem_range]
    exact covers.byteAt_load fits (List.getElem?_eq_getElem inside)

/-! ## A memory that has been used -/

/-- A fresh memory serves all requests, and always has a cell for every address. Then every address
can be read and written. A written value, of which eight bits are kept, is read by the addresses of
its cell, and nothing else is read differently. Data that is loaded within the address space is read
back from where it was loaded, and neither the number of cells nor any other cell has changed. Once
reset, the memory is as it was when it was fresh. -/
theorem serves_as_address_space (requests : List Request) :
    ∃ memory, fresh.serveAll requests = .ok memory ∧ addressSpace ≤ memory.cells.size ∧
      (∀ address, ∃ byte, memory.read address = .ok byte) ∧
      (∀ address value : Int, ∃ after, memory.write address (UInt8.ofInt value) = .ok after ∧
        (∀ other, SameCell other address →
          ∃ byte, after.read other = .ok byte ∧ (byte.toNat : Int) = value % 0x100) ∧
        ∀ other, ¬SameCell other address → after.read other = memory.read other) ∧
      (∀ (offset : Nat) (data : List UInt8), offset + data.length ≤ addressSpace →
        (memory.load offset data).cells.size = memory.cells.size ∧
        (memory.load offset data).readBlock offset data.length = .ok data ∧
        ∀ cell, cell < offset ∨ offset + data.length ≤ cell →
          (memory.load offset data).cells[cell]? = memory.cells[cell]?) ∧
      memory.reset = fresh := by
  obtain ⟨memory, served, covers⟩ := full_fresh.covers.serveAll requests
  refine ⟨memory, served, covers, fun address => ⟨_, covers.read address⟩, ?_, ?_,
    memory.reset_eq⟩
  · intro address value
    refine ⟨_, covers.write address _, fun other same => ?_, fun other apart => ?_⟩
    · exact ⟨_, covers.read_put_of_sameCell same _, toNat_ofInt value⟩
    · exact read_put_of_not_sameCell apart _
  · intro offset data fits
    have inside : offset + data.length ≤ memory.cells.size := Nat.le_trans fits covers
    exact ⟨memory.size_load_of_le inside, covers.readBlock_load fits,
      fun cell => memory.getElem?_load_of_outside inside⟩

/-- A memory that was loaded past its end and written at an address below zero. -/
theorem grown_serves_as_address_space :
    ∃ memory, fresh.serveAll [.load 0xFFE [1, 2, 3, 4], .write (-1) 300, .readBlock 0 (-2)] =
        .ok memory ∧
      (∃ after, memory.write (-3) 0x1FF = .ok after ∧
        (∃ byte, after.read 0xFFD = .ok byte ∧ (byte.toNat : Int) = 0x1FF % 0x100) ∧
        after.read 0xFFC = memory.read 0xFFC) ∧
      (memory.load 0xFFF [7]).readBlock 0xFFF 1 = .ok [7] ∧
      (memory.load 0xFFF [7]).cells[0x1000]? = memory.cells[0x1000]? ∧ memory.reset = fresh := by
  obtain ⟨memory, served, -, -, write, load, reset⟩ :=
    serves_as_address_space [.load 0xFFE [1, 2, 3, 4], .write (-1) 300, .readBlock 0 (-2)]
  obtain ⟨after, wrote, same, apart⟩ := write (-3) 0x1FF
  obtain ⟨-, block, others⟩ := load 0xFFF [7] (by decide)
  exact ⟨memory, served, ⟨after, wrote, same 0xFFD (by decide), apart 0xFFC (by decide)⟩, block,
    others 0x1000 (by decide), reset⟩

end Chip8.Memory
