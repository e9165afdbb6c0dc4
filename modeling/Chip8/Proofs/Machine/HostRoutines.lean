import Chip8.Machine
import Chip8.Proofs.Stack

/-! # Host routines

The words of group 0 are calls to routines of a host that this machine does not have, and they are
ignored, but for two words: one clears the screen and one returns from a call. The machine tells
these two by the low byte of a word alone, so the digit in front of that byte does not keep a call
from being taken for one of them (`perform_lowByte`). A word of group 0 is ignored by every machine
exactly if its low byte is neither of the two; otherwise a machine ignores it only if it has no lit
pixel to clear or no call to return from (`hostRoutine_ignored_iff`).
-/

namespace Chip8

theorem Instruction.decode?_of_group_zero {word : Int} (group : Word.group word = 0) :
    decode? word =
      if Word.byte word = 0xE0 then some .clear
      else if Word.byte word = 0xEE then some .ret
      else some (.hostRoutine (Word.address word)) := by
  have clears : Word.byte word = 0xE0 ↔ (Word.byte word).toNat = 0xE0 := UInt8.toNat_inj.symm
  have returns : Word.byte word = 0xEE ↔ (Word.byte word).toNat = 0xEE := UInt8.toNat_inj.symm
  simp only [decode?, group, clears, returns]
  split
  · rename_i byte
    rw [if_pos byte]
  · rename_i byte
    rw [if_neg (by omega), if_pos byte]
  · rename_i noClear noReturn
    rw [if_neg noClear, if_neg noReturn]

/-- A picture stays as it is when it is cleared exactly if no pixel is lit. -/
theorem Display.cleared_eq_self_iff {display : Display} :
    display.cleared = display ↔ true ∉ display.pixels := by
  obtain ⟨edge, width, height, pixels⟩ := display
  simp only [cleared, mk.injEq, true_and]
  rw [eq_comm, Array.eq_replicate_iff]
  constructor
  · rintro ⟨-, dark⟩ lit
    cases dark true lit
  · intro unlit
    refine ⟨rfl, ?_⟩
    intro pixel member
    cases pixel with
    | false => rfl
    | true => exact absurd member unlit

namespace Machine

variable {machine : Machine} {word : Int}

/-- What a word of group 0 does is a matter of its low byte. -/
theorem perform_of_group_zero (machine : Machine) (group : Word.group word = 0) :
    machine.perform word =
      if Word.byte word = 0xE0 then .ok { machine with display := machine.display.cleared }
      else if Word.byte word = 0xEE then machine.execute .ret
      else .ok machine := by
  rw [perform, Instruction.decode?_of_group_zero group]
  by_cases clears : Word.byte word = 0xE0
  · rw [if_pos clears, if_pos clears]
    rfl
  · rw [if_neg clears, if_neg clears]
    by_cases returns : Word.byte word = 0xEE
    · rw [if_pos returns, if_pos returns]
    · rw [if_neg returns, if_neg returns]
      rfl

theorem perform_lowByte (machine : Machine) (group : Word.group word = 0) :
    machine.perform word = machine.perform (Word.byte word).toNat := by
  have small := (Word.byte word).toNat_lt
  have lowGroup : Word.group (Word.byte word).toNat = 0 := by
    unfold Word.group
    omega
  have lowByte : Word.byte (Word.byte word).toNat = Word.byte word := by
    apply UInt8.toNat_inj.mp
    rw [Word.byte, UInt8.toNat_ofNat']
    omega
  rw [perform_of_group_zero machine group, perform_of_group_zero machine lowGroup, lowByte]

theorem cleared_eq_self_iff :
    ({ machine with display := machine.display.cleared } : Machine) = machine ↔
      true ∉ machine.display.pixels := by
  rw [← Display.cleared_eq_self_iff]
  constructor
  · exact congrArg Machine.display
  · intro same
    rw [same]

/-- A return changes something unless there is no call to return from. -/
theorem execute_ret_eq_self_iff :
    machine.execute .ret = .ok machine ↔ machine.stack.live = [] := by
  cases popped : machine.stack.pop? with
  | none => simp only [execute, popped, Stack.live_of_pop?_eq_none popped]
  | some top =>
    obtain ⟨caller, stack⟩ := top
    have live := Stack.live_pop? popped
    simp only [execute, popped, Except.ok.injEq]
    constructor
    · intro same
      have shorter : stack = machine.stack := congrArg Machine.stack same
      have lengths := congrArg List.length live
      rw [shorter, List.length_append, List.length_singleton] at lengths
      omega
    · intro empty
      rw [empty] at live
      simp at live

/-- Every machine goes through every word of group 0, and only the low byte of the word counts. The
machine stays as it is unless that byte is the one that clears the screen and a pixel is lit, or the
one that returns and there is a call to return from. -/
theorem hostRoutine_ignored_iff (machine : Machine) {word : Int} (group : Word.group word = 0) :
    (∃ after, machine.perform word = .ok after) ∧
      machine.perform word = machine.perform (Word.byte word).toNat ∧
      (machine.perform word = .ok machine ↔
        (Word.byte word = 0xE0 → true ∉ machine.display.pixels) ∧
          (Word.byte word = 0xEE → machine.stack.live = [])) := by
  refine ⟨?_, perform_lowByte machine group, ?_⟩
  · rw [perform_of_group_zero machine group]
    split
    · exact ⟨_, rfl⟩
    · split
      · rw [execute]
        split <;> exact ⟨_, rfl⟩
      · exact ⟨_, rfl⟩
  · rw [perform_of_group_zero machine group]
    split
    · rename_i clears
      rw [Except.ok.injEq, cleared_eq_self_iff]
      simp [clears]
    · rename_i noClear
      split
      · rename_i returns
        rw [execute_ret_eq_self_iff]
        simp [returns]
      · rename_i noReturn
        simp [noClear, noReturn]

/-- A machine that has drawn a glyph, and is in no call. -/
def drawn : Machine :=
  { start 500 .clip (.ofSeed 0) with display := ((Display.dark .clip).draw 0 0 [0xFF]).display }

theorem drawn_ignores_other_bytes :
    Word.group 0x0EE1 = 0 ∧ drawn.perform 0x0EE1 = .ok drawn ∧
      Word.group 0x01EE = 0 ∧ drawn.perform 0x01EE = .ok drawn := by
  have other : Word.group 0x0EE1 = 0 := by decide
  have back : Word.group 0x01EE = 0 := by decide
  obtain ⟨_, _, ignoredOther⟩ := hostRoutine_ignored_iff drawn other
  obtain ⟨_, _, ignoredBack⟩ := hostRoutine_ignored_iff drawn back
  refine ⟨other, ignoredOther.mpr ⟨?_, ?_⟩, back, ignoredBack.mpr ⟨?_, ?_⟩⟩
  · intro byte
    exact absurd byte (by decide)
  · intro byte
    exact absurd byte (by decide)
  · intro byte
    exact absurd byte (by decide)
  · intro _
    rfl

/-- The call of the host routine at 1E0 is not the word that clears the screen, and yet it does. -/
theorem drawn_cleared_by_call :
    Word.group 0x01E0 = 0 ∧ (Word.address 0x01E0).val = 0x1E0 ∧
      drawn.perform 0x01E0 ≠ .ok drawn := by
  refine ⟨by decide, by decide, ?_⟩
  rw [perform_of_group_zero drawn (by decide), if_pos (by decide)]
  intro same
  have display := congrArg Machine.display (Except.ok.inj same)
  have corner := congrArg (Display.pixel · 0 0) display
  revert corner
  decide +kernel

end Machine

end Chip8
