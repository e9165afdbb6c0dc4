import Chip8.Fault
import Chip8.Hardware

/-! # Memory

A row of byte cells that addresses of any size fold into. Reading and writing select the cell by
the low twelve bits of the address; loading places bytes at an offset and may run past the end, in
which case the row of cells grows.
-/

namespace Chip8

/-- The byte cells of the machine, lowest address first. -/
structure Memory where
  cells : Array UInt8
deriving DecidableEq, Repr

namespace Memory

/-- The cell that an address of any size names: its low twelve bits. -/
def fold (address : Int) : Nat := (address % addressSpace).toNat

def zero : Memory := ⟨Array.replicate addressSpace 0⟩

/-- The place in the row of cells that an offset means: counted from the first cell, or, when
negative, back from the end of the row, though never to before the first cell. -/
def place (memory : Memory) (offset : Int) : Nat :=
  (if offset < 0 then offset + memory.cells.size else offset).toNat

/-- Puts bytes, however many, in place of the cells from one place up to another. -/
def splice (memory : Memory) (start stop : Nat) (data : List UInt8) : Memory :=
  let old := memory.cells.toList
  ⟨(old.take start ++ data ++ old.drop (max start stop)).toArray⟩

/-- Puts bytes in place of the cells from an offset up to the offset behind them. Bytes past the
last cell make the row longer, and so do those that start at a negative offset and do not end there;
an offset past the last cell appends. -/
def load (memory : Memory) (offset : Int) (data : List UInt8) : Memory :=
  memory.splice (memory.place offset) (memory.place (offset + data.length)) data

/-- The memory of a machine that has just been started: zero but for the glyphs. -/
def fresh : Memory := zero.load fontStart font

/-- Puts as many zeros as there are addresses in place of all cells, and the glyphs over them. -/
def reset (memory : Memory) : Memory :=
  (memory.splice 0 memory.cells.size (List.replicate addressSpace 0)).load fontStart font

/-- The byte in the cell that an address folds to. -/
def read (memory : Memory) (address : Int) : Except Fault UInt8 :=
  match memory.cells[fold address]? with
  | some byte => .ok byte
  | none => .error .indexOutOfRange

/-- Stores a byte in the cell that an address folds to. -/
def write (memory : Memory) (address : Int) (byte : UInt8) : Except Fault Memory :=
  if inside : fold address < memory.cells.size then
    .ok ⟨memory.cells.set (fold address) byte inside⟩
  else .error .indexOutOfRange

/-- The bytes of `count` consecutive addresses, each folded on its own. -/
def readBlock (memory : Memory) (address : Int) (count : Nat) : Except Fault (List UInt8) :=
  (List.range count).mapM fun (k : Nat) => memory.read (address + k)

/-- Stores bytes at consecutive addresses, each folded on its own, first to last. -/
def writeBlock (memory : Memory) (address : Int) : List UInt8 → Except Fault Memory
  | [] => .ok memory
  | byte :: rest => do (← memory.write address byte).writeBlock (address + 1) rest

end Memory

end Chip8
