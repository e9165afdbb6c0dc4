import Chip8.Fault
import Chip8.Notice
import Chip8.Text.Hexadecimal

/-! # Stack

The return addresses of the calls that are under way. A full stack refuses a push and an empty one
a pop; neither changes it. Slots at and above the depth keep old addresses that nothing reads.
-/

namespace Chip8

/-- A fixed row of slots, of which the lowest `depth` hold live return addresses. -/
structure Stack where
  slots : Array UInt16
  depth : Nat
  depth_le : depth ≤ slots.size
deriving DecidableEq, Repr

namespace Stack

def ofCapacity (capacity : Nat) : Stack where
  slots := Array.replicate capacity 0
  depth := 0
  depth_le := Nat.zero_le _

/-- An empty stack for a number of slots that was asked for; below zero there are none. -/
def ofSlots (count : Int) : Except Fault Stack := do
  return ofCapacity (← cellCount count).toNat

def capacity (stack : Stack) : Nat := stack.slots.size

/-- The live return addresses, oldest first. -/
def live (stack : Stack) : List UInt16 := stack.slots.toList.take stack.depth

def isFull (stack : Stack) : Bool := stack.slots.size ≤ stack.depth

def isEmpty (stack : Stack) : Bool := stack.depth == 0

/-- Puts an address on top, unless the stack is full. -/
def push? (stack : Stack) (address : UInt16) : Option Stack :=
  if room : stack.depth < stack.slots.size then
    some {
      slots := stack.slots.set stack.depth address
      depth := stack.depth + 1
      depth_le := Nat.succ_le_of_lt (by simpa using room) }
  else none

/-- Takes the address on top off, unless the stack is empty. -/
def pop? (stack : Stack) : Option (UInt16 × Stack) :=
  match stack with
  | ⟨_, 0, _⟩ => none
  | ⟨slots, depth + 1, bound⟩ => some (slots[depth], ⟨slots, depth, Nat.le_of_succ_le bound⟩)

def pushNotices (stack : Stack) (address : Int) : List Notice :=
  if stack.isFull then
    [⟨.debug, s!"Stack overflow, dropping return address {Text.upperHex 3 address}"⟩]
  else []

def popNotices (stack : Stack) : List Notice :=
  if stack.isEmpty then [⟨.debug, "Stack underflow"⟩] else []

def cleared (stack : Stack) : Stack := ofCapacity stack.capacity

end Stack

end Chip8
