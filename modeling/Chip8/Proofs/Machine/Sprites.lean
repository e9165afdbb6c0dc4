import Chip8.Proofs.Display.Screen
import Chip8.Proofs.Machine.HostCalls

/-! # Drawing a sprite from memory

A word of group D draws the bytes at the index as the lines of a sprite. Its effect is one formula
for every pixel of the screen (`WellFormed.pixel_drawing`): the pixel is inverted if the sprite has
a set bit there. No two bits of a sprite come to lie on one pixel, since it has at most fifteen
lines of eight bits (`Covers.unique`).
-/

namespace Chip8.Machine

variable {machine : Machine} {x y : Register} {lines k c px py : Nat}

/-- The bit in line `k` and column `c` of the sprite at the index. -/
def spriteBit (machine : Machine) (k c : Nat) : Bool :=
  (machine.memory.byteAt (machine.index + k)).toNat.testBit (7 - c)

/-- The bit in line `k` and column `c` of a sprite of some lines comes to lie on a position when the
upper left corner of the sprite is at the position in two registers. -/
structure Covers (machine : Machine) (x y : Register) (lines k c px py : Nat) : Prop where
  line : k < lines
  column : c < 8
  across : machine.display.edge.place screenWidth ((machine.registers.get x).toNat + c) = px
  down : machine.display.edge.place screenHeight ((machine.registers.get y).toNat + k) = py

instance : Decidable (machine.Covers x y lines k c px py) :=
  decidable_of_iff
    (k < lines ∧ c < 8 ∧
      machine.display.edge.place screenWidth ((machine.registers.get x).toNat + c) = px ∧
      machine.display.edge.place screenHeight ((machine.registers.get y).toNat + k) = py)
    ⟨fun ⟨line, column, across, down⟩ => ⟨line, column, across, down⟩,
      fun covers => ⟨covers.line, covers.column, covers.across, covers.down⟩⟩

/-- Whether the sprite at the index has a set bit that comes to lie on a position. -/
def spriteAt (machine : Machine) (x y : Register) (lines px py : Nat) : Bool :=
  (List.range lines).any fun k =>
    (List.range 8).any fun c => machine.Covers x y lines k c px py && machine.spriteBit k c

theorem spriteAt_iff :
    machine.spriteAt x y lines px py = true ↔
      ∃ k c, machine.Covers x y lines k c px py ∧ machine.spriteBit k c = true := by
  simp only [spriteAt, List.any_eq_true, List.mem_range, Bool.and_eq_true, decide_eq_true_iff]
  constructor
  · rintro ⟨k, _, c, _, covers, set⟩
    exact ⟨k, c, covers, set⟩
  · rintro ⟨k, c, covers, set⟩
    exact ⟨k, covers.line, c, covers.column, covers, set⟩

/-- At most one bit comes to lie on a position, unless the sprite is longer than the screen. -/
theorem Covers.unique (short : lines ≤ screenHeight) {otherK otherC : Nat}
    (covers : machine.Covers x y lines k c px py)
    (otherCovers : machine.Covers x y lines otherK otherC px py) : otherK = k ∧ otherC = c := by
  have narrow : 8 ≤ screenWidth := by decide
  constructor
  · exact EdgeMode.place_inj (otherCovers.line.trans_le short) (covers.line.trans_le short)
      (otherCovers.down.trans covers.down.symm)
  · exact EdgeMode.place_inj (otherCovers.column.trans_le narrow) (covers.column.trans_le narrow)
      (otherCovers.across.trans covers.across.symm)

theorem Covers.spriteAt_eq (short : lines ≤ screenHeight)
    (covers : machine.Covers x y lines k c px py) :
    machine.spriteAt x y lines px py = machine.spriteBit k c := by
  rw [Bool.eq_iff_iff, spriteAt_iff]
  constructor
  · rintro ⟨otherK, otherC, otherCovers, set⟩
    obtain ⟨rfl, rfl⟩ := covers.unique short otherCovers
    exact set
  · intro set
    exact ⟨k, c, covers, set⟩

theorem spriteAt_eq_false (uncovered : ∀ k c, ¬ machine.Covers x y lines k c px py) :
    machine.spriteAt x y lines px py = false := by
  rw [← Bool.not_eq_true, spriteAt_iff]
  rintro ⟨k, c, covers, _⟩
  exact uncovered k c covers

/-! ## The sprite at the index -/

theorem mem_setBits_bytesAtIndex :
    (k, c) ∈ Display.setBits (machine.bytesAtIndex lines) ↔
      k < lines ∧ c < 8 ∧ machine.spriteBit k c = true := by
  simp only [Display.mem_setBits, getElem?_bytesAtIndex, spriteBit]
  constructor
  · rintro ⟨_, ⟨line, rfl⟩, column, set⟩
    exact ⟨line, column, set⟩
  · rintro ⟨line, column, set⟩
    exact ⟨_, ⟨line, rfl⟩, column, set⟩

/-- Drawing meets the pixels on which the sprite has a set bit. -/
theorem WellFormed.mem_strokes (well : machine.WellFormed) (across : px < screenWidth)
    (down : py < screenHeight) :
    Display.screenCell px py ∈ machine.display.strokes (machine.registers.get x).toNat
        (machine.registers.get y).toNat (machine.bytesAtIndex lines) ↔
      machine.spriteAt x y lines px py = true := by
  rw [well.screen.mem_strokes across down, spriteAt_iff]
  constructor
  · rintro ⟨k, c, bit, acrossPlace, downPlace⟩
    obtain ⟨line, column, set⟩ := mem_setBits_bytesAtIndex.mp bit
    exact ⟨k, c, ⟨line, column, acrossPlace, downPlace⟩, set⟩
  · rintro ⟨k, c, covers, set⟩
    exact ⟨k, c, mem_setBits_bytesAtIndex.mpr ⟨covers.line, covers.column, set⟩, covers.across,
      covers.down⟩

theorem WellFormed.pixel_drawing (well : machine.WellFormed) (short : lines ≤ screenHeight)
    (across : px < screenWidth) (down : py < screenHeight) :
    (machine.drawing x y lines).display.pixel px py =
      (machine.display.pixel px py ^^ machine.spriteAt x y lines px py) := by
  rw [drawing, well.screen.pixel_draw (by rwa [length_bytesAtIndex]) _ _ across down]
  congr 1
  rw [Bool.eq_iff_iff, decide_eq_true_iff]
  exact well.mem_strokes across down

theorem WellFormed.collision_drawing (well : machine.WellFormed) (short : lines ≤ screenHeight) :
    (machine.drawing x y lines).collision = true ↔
      ∃ px py, px < screenWidth ∧ py < screenHeight ∧ machine.display.pixel px py = true ∧
        machine.spriteAt x y lines px py = true := by
  rw [drawing, well.screen.collision_iff (by rwa [length_bytesAtIndex])]
  constructor
  · rintro ⟨px, py, across, down, lit, met⟩
    exact ⟨px, py, across, down, lit, (well.mem_strokes across down).mp met⟩
  · rintro ⟨px, py, across, down, lit, set⟩
    exact ⟨px, py, across, down, lit, (well.mem_strokes across down).mpr set⟩

/-! ## Words that draw -/

theorem decode?_draw {word : Int} (group : Word.group word = 0xD) :
    Instruction.decode? word =
      some (.draw (Word.x word) (Word.y word) (Word.digit word)) := by
  simp only [Instruction.decode?, group]

/-- A word of group D draws exactly the sprite at the index. It inverts the pixels of the screen on
which the sprite has a set bit. No more than one bit comes to lie on a pixel: in clip mode at the
sum of its offset and the corner, in wrap mode at the remainder of that sum. The flag is one if a
lit pixel was inverted and zero otherwise. The corner is read from the registers before the flag is
set. Nothing else changes. -/
theorem perform_draw_word (well : machine.WellFormed) {word : Int}
    (group : Word.group word = 0xD) :
    let x := Word.x word
    let y := Word.y word
    let lines := (Word.digit word).val
    ∃ display collision, machine.perform word = .ok { machine with
        display := display
        registers := machine.registers.set .flag (if collision then 1 else 0) } ∧
      Display.SameFrame machine.display display ∧
      (∀ px py, px < screenWidth → py < screenHeight →
        display.pixel px py =
            (machine.display.pixel px py ^^ machine.spriteAt x y lines px py) ∧
          ((∀ k c, ¬ machine.Covers x y lines k c px py) →
            machine.spriteAt x y lines px py = false) ∧
          ∀ k c, machine.Covers x y lines k c px py →
            machine.spriteAt x y lines px py = machine.spriteBit k c ∧
              ∀ otherK otherC, machine.Covers x y lines otherK otherC px py →
                otherK = k ∧ otherC = c) ∧
      (collision = true ↔ ∃ px py, px < screenWidth ∧ py < screenHeight ∧
        machine.display.pixel px py = true ∧ machine.spriteAt x y lines px py = true) := by
  intro x y lines
  -- A digit cannot ask for more lines than the screen has, so no sprite meets itself.
  have short : lines ≤ screenHeight := (Word.digit word).isLt.le.trans (by decide)
  refine ⟨(machine.drawing x y lines).display, (machine.drawing x y lines).collision, ?_,
    Display.draw_sameFrame .., ?_, well.collision_drawing short⟩
  · rw [perform, decode?_draw group]
    exact well.execute_draw x y (Word.digit word)
  · intro px py across down
    refine ⟨well.pixel_drawing short across down, spriteAt_eq_false, fun k c covers => ?_⟩
    exact ⟨covers.spriteAt_eq short, fun otherK otherC => covers.unique short⟩

/-- A machine that is about to draw across the corner of the screen, where one pixel is lit, what
stands in memory from its last cell on. -/
def acrossEnds : Machine :=
  { start 500 .wrap (.ofSeed 0) with
    memory := Memory.fresh.put 0xFFF 0x81
    index := 0xFFF
    display := (Display.dark .wrap).flip (Display.screenCell 62 31)
    registers := (Registers.zero.set .flag 62).set (.ofNumber 1) 31 }

/-- The second line of the sprite is the first byte of memory and comes to lie on the top of the
screen. Its corner is where the flag register says, although the flag ends up as one. -/
theorem acrossEnds_draws :
    acrossEnds.WellFormed ∧ Word.group 0xDF12 = 0xD ∧
      ∃ display, acrossEnds.perform 0xDF12 = .ok { acrossEnds with
          display := display, registers := acrossEnds.registers.set .flag 1 } ∧
        display.pixel 62 31 = false ∧ display.pixel 62 0 = true := by
  have screen := ((Display.dark .wrap).flip_sameFrame (Display.screenCell 62 31)).isScreen (.dark _)
  have placed := (wellFormed_start 500 .wrap (.ofSeed 0)).withMemory
    (Memory.full_fresh.put 0xFFF 0x81)
  have index : IsWord 0xFFF := isWord_natCast (by decide)
  have well : acrossEnds.WellFormed :=
    ((placed.withDisplay screen).withIndex index).withRest _ _ _ _
  have group : Word.group 0xDF12 = 0xD := by decide
  have seen :
      (acrossEnds.display.pixel 62 31 = true ∧ acrossEnds.spriteAt .flag 1 2 62 31 = true) ∧
        (acrossEnds.display.pixel 62 0 = false ∧ acrossEnds.spriteAt .flag 1 2 62 0 = true) := by
    decide +kernel
  obtain ⟨⟨lit, met⟩, dark, top⟩ := seen
  obtain ⟨display, collision, performed, _, pixels, collides⟩ := perform_draw_word well group
  have hit : collision = true := collides.mpr ⟨62, 31, by decide, by decide, lit, met⟩
  rw [hit] at performed
  refine ⟨well, group, display, performed, ?_, ?_⟩
  · refine (pixels 62 31 (by decide) (by decide)).1.trans ?_
    exact congrArg₂ Bool.xor lit met
  · refine (pixels 62 0 (by decide) (by decide)).1.trans ?_
    exact congrArg₂ Bool.xor dark top

end Chip8.Machine
