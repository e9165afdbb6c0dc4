import Mathlib.Data.List.Nodup
import Mathlib.Data.Nat.ModEq
import Chip8.Proofs.Display.Inversion

/-! # Sprites on the screen

On the screen a set bit lands on the pixel at the sum of its offset and the corner of its sprite, in
wrap mode up to the size of the screen (`IsScreen.mem_strokes`). A sprite that has no more lines
than the screen meets each pixel at most once (`IsScreen.nodup_strokes`), so drawing inverts exactly
the pixels that it meets (`IsScreen.pixel_draw`), and makes a lit pixel go dark exactly if it meets
a lit one (`IsScreen.collision_iff`).
-/

namespace Chip8

/-- Where a coordinate comes to lie along a side; in clip mode it may lie beyond the edge. -/
def EdgeMode.place (edge : EdgeMode) (side coordinate : Nat) : Nat :=
  match edge with
  | .clip => coordinate
  | .wrap => coordinate % side

theorem EdgeMode.place_clip (side coordinate : Nat) :
    EdgeMode.clip.place side coordinate = coordinate := rfl

theorem EdgeMode.place_wrap (side coordinate : Nat) :
    EdgeMode.wrap.place side coordinate = coordinate % side := rfl

/-- Offsets that differ by less than the side come to lie on different places. -/
theorem EdgeMode.place_inj {edge : EdgeMode} {side corner one other : Nat}
    (inside : one < side) (otherInside : other < side)
    (same : edge.place side (corner + one) = edge.place side (corner + other)) : one = other := by
  cases edge with
  | clip => exact Nat.add_left_cancel same
  | wrap => exact (Nat.ModEq.add_left_cancel' corner same).eq_of_lt_of_lt inside otherInside

namespace Display

variable {display : Display} {sprite : List UInt8} {px py : Nat}

/-! ## Pixels and cells -/

def screenCell (px py : Nat) : Nat := py * screenWidth + px

theorem screenCell_lt (across : px < screenWidth) (down : py < screenHeight) :
    screenCell px py < screenWidth * screenHeight := by
  simp only [screenCell, screenWidth, screenHeight] at *
  omega

theorem screenCell_inj {otherX otherY : Nat} (across : px < screenWidth)
    (otherAcross : otherX < screenWidth) :
    screenCell otherX otherY = screenCell px py ↔ otherX = px ∧ otherY = py := by
  simp only [screenCell, screenWidth] at *
  omega

theorem exists_screenCell {cell : Nat} (inside : cell < screenWidth * screenHeight) :
    ∃ px py, px < screenWidth ∧ py < screenHeight ∧ cell = screenCell px py := by
  refine ⟨cell % screenWidth, cell / screenWidth, Nat.mod_lt _ (by decide),
    Nat.div_lt_of_lt_mul inside, ?_⟩
  rw [screenCell, Nat.mul_comm]
  exact (Nat.div_add_mod ..).symm

theorem IsScreen.pixel_eq (screen : display.IsScreen) (across : px < screenWidth)
    (down : py < screenHeight) : display.pixel px py = display.litAt (screenCell px py) := by
  have onScreen : 0 ≤ (px : Int) ∧ (px : Int) < display.width ∧
      0 ≤ (py : Int) ∧ (py : Int) < display.height := by
    rw [screen.width, screen.height]
    omega
  have cell : ((py : Int) * display.width + px).toNat = screenCell px py := by
    rw [screen.width, screenCell]
    omega
  rw [pixel, if_pos onScreen, cell, litAt]

/-! ## Strokes on the screen -/

/-- The cell of the screen that a set bit lands on, given by its line and its column. -/
def hit? (edge : EdgeMode) (x y : Nat) (bit : Nat × Nat) : Option Nat :=
  let px := edge.place screenWidth (x + bit.2)
  let py := edge.place screenHeight (y + bit.1)
  if px < screenWidth ∧ py < screenHeight then some (screenCell px py) else none

theorem IsScreen.cellOf (screen : display.IsScreen) (across : px < screenWidth)
    (down : py < screenHeight) :
    Display.cellOf display.pixels.size ((py : Int) * display.width + px) =
      .ok (screenCell px py) := by
  have inside := screenCell_lt across down
  have cell : (py : Int) * display.width + px = screenCell px py := by
    rw [screen.width, screenCell]
    omega
  rw [cell, Display.cellOf, screen.size, if_pos (by omega), Int.toNat_natCast]

/-- Where a coordinate comes to lie, as long as that is on the side. -/
theorem meetEdge_eq_place (edge : EdgeMode) {side : Nat} (length : 0 < side) (coordinate : Nat) :
    meetEdge edge side coordinate =
      .ok (if edge.place side coordinate < side then some (edge.place side coordinate : Int)
        else none) := by
  cases edge with
  | clip =>
    rw [EdgeMode.place_clip]
    by_cases inside : coordinate < side
    · rw [meetEdge_clip_of_lt (by omega), if_pos inside]
    · rw [meetEdge_clip_of_le (by omega), if_neg inside]
  | wrap =>
    have inside : coordinate % side < side := Nat.mod_lt _ length
    rw [EdgeMode.place_wrap, meetEdge_wrap (by omega), if_pos inside,
      Int.fmod_eq_emod_of_nonneg _ (by omega), Int.natCast_mod]

theorem IsScreen.landing?_eq (screen : display.IsScreen) (x y : Nat) (bit : Nat × Nat) :
    display.landing? x y bit = (hit? display.edge x y bit).map .ok := by
  rw [landing?, hit?, screen.width, screen.height, ← Int.natCast_add, ← Int.natCast_add,
    meetEdge_eq_place _ (by decide), meetEdge_eq_place _ (by decide)]
  generalize display.edge.place screenHeight (y + bit.1) = py
  generalize display.edge.place screenWidth (x + bit.2) = px
  by_cases down : py < screenHeight
  · by_cases across : px < screenWidth
    · have selects := screen.cellOf across down
      rw [screen.width] at selects
      simp only [down, across, and_self, if_true]
      exact congrArg some selects
    · simp only [down, across, false_and, if_true, if_false]
      rfl
  · simp only [down, and_false, if_false]
    rfl

/-- The strokes of a sprite are the cells that its set bits land on. -/
theorem IsScreen.strokes_eq (screen : display.IsScreen) (x y : Nat) (sprite : List UInt8) :
    display.strokes x y sprite = (setBits sprite).filterMap (hit? display.edge x y) := by
  have bits : display.landing? x y = fun bit => (hit? display.edge x y bit).map .ok :=
    funext (screen.landing?_eq x y)
  have landed : display.landings x y sprite =
      ((setBits sprite).filterMap (hit? display.edge x y)).map .ok := by
    rw [screen.isFrame.landings_eq screen.drawable, bits, List.map_filterMap]
  rw [strokes, landed, reached_map_ok]

/-- A pixel is met exactly if a set bit of the sprite comes to lie on it. -/
theorem IsScreen.mem_strokes (screen : display.IsScreen) (across : px < screenWidth)
    (down : py < screenHeight) {x y : Nat} :
    screenCell px py ∈ display.strokes x y sprite ↔
      ∃ row column, (row, column) ∈ setBits sprite ∧
        display.edge.place screenWidth (x + column) = px ∧
        display.edge.place screenHeight (y + row) = py := by
  rw [screen.strokes_eq, List.mem_filterMap]
  constructor
  · rintro ⟨⟨row, column⟩, set, lands⟩
    simp only [hit?] at lands
    split at lands
    · rename_i inside
      exact ⟨row, column, set, (screenCell_inj across inside.1).mp (Option.some.inj lands)⟩
    · contradiction
  · rintro ⟨row, column, set, rfl, rfl⟩
    exact ⟨(row, column), set, if_pos ⟨across, down⟩⟩

/-! ## Each pixel at most once -/

theorem nodup_setBits (sprite : List UInt8) : (setBits sprite).Nodup := by
  have numbered : (sprite.zipIdx.map Prod.snd).Nodup := by
    rw [List.zipIdx_map_snd]
    exact List.nodup_range'
  rw [setBits, List.nodup_flatMap]
  constructor
  · rintro ⟨bits, row⟩ _
    exact (List.nodup_range.filter _).map fun one other same => (Prod.mk.inj same).2
  · refine (List.pairwise_map.mp numbered).imp fun {one other} apart => ?_
    intro bit here there
    obtain ⟨_, _, rfl⟩ := List.mem_map.mp here
    obtain ⟨_, _, same⟩ := List.mem_map.mp there
    exact apart (Prod.mk.inj same).1.symm

/-- Bits of a sprite that is not longer than the screen do not meet. -/
theorem hit?_inj {edge : EdgeMode} {x y cell : Nat} {one other : Nat × Nat}
    (short : sprite.length ≤ screenHeight) (set : one ∈ setBits sprite)
    (otherSet : other ∈ setBits sprite) (lands : hit? edge x y one = some cell)
    (otherLands : hit? edge x y other = some cell) : one = other := by
  obtain ⟨row, column⟩ := one
  obtain ⟨otherRow, otherColumn⟩ := other
  obtain ⟨_, here, inside, _⟩ := mem_setBits.mp set
  obtain ⟨_, otherHere, otherInside, _⟩ := mem_setBits.mp otherSet
  obtain ⟨below, _⟩ := List.getElem?_eq_some_iff.mp here
  obtain ⟨otherBelow, _⟩ := List.getElem?_eq_some_iff.mp otherHere
  simp only [hit?] at lands otherLands
  split at lands
  · split at otherLands
    · rename_i onScreen otherOnScreen
      cases lands
      obtain ⟨columns, rows⟩ := (screenCell_inj onScreen.1 otherOnScreen.1).mp
        (Option.some.inj otherLands)
      have sameRow := EdgeMode.place_inj (by omega) (by omega) rows
      have sameColumn := EdgeMode.place_inj (by simp only [screenWidth]; omega)
        (by simp only [screenWidth]; omega) columns
      rw [sameRow, sameColumn]
    · contradiction
  · contradiction

/-- A sprite that is not longer than the screen meets each pixel at most once. -/
theorem IsScreen.nodup_strokes (screen : display.IsScreen) (short : sprite.length ≤ screenHeight)
    (x y : Nat) : (display.strokes x y sprite).Nodup := by
  rw [screen.strokes_eq, List.Nodup, List.pairwise_filterMap]
  refine (nodup_setBits sprite).imp_of_mem ?_
  intro one other set otherSet apart cell lands otherCell otherLands same
  rw [same] at lands
  exact apart (hit?_inj short set otherSet lands otherLands)

/-- Drawing inverts the pixels that it meets. -/
theorem IsScreen.pixel_draw (screen : display.IsScreen) (short : sprite.length ≤ screenHeight)
    (x y : Nat) (across : px < screenWidth) (down : py < screenHeight) :
    (display.draw x y sprite).display.pixel px py =
      (display.pixel px py ^^ decide (screenCell px py ∈ display.strokes x y sprite)) := by
  have drawn := (display.draw_sameFrame x y sprite).isScreen screen
  rw [drawn.pixel_eq across down, litAt_draw, screen.pixel_eq across down,
    (screen.nodup_strokes short x y).count]
  by_cases met : screenCell px py ∈ display.strokes x y sprite <;> simp [met]

/-- Drawing makes a lit pixel go dark exactly if it meets one. -/
theorem IsScreen.collision_iff (screen : display.IsScreen) (short : sprite.length ≤ screenHeight)
    (x y : Nat) :
    (display.draw x y sprite).collision = true ↔
      ∃ px py, px < screenWidth ∧ py < screenHeight ∧ display.pixel px py = true ∧
        screenCell px py ∈ display.strokes x y sprite := by
  have once := screen.nodup_strokes short x y
  rw [draw_collision]
  constructor
  · rintro ⟨cell, twice⟩
    -- The cell is met at most once, so it has to have been lit as well.
    have single := List.nodup_iff_count_le_one.mp once cell
    have bound := Bool.toNat_le (display.litAt cell)
    have met : cell ∈ display.strokes x y sprite := List.count_pos_iff.mp (by omega)
    have inside := strokes_lt met
    rw [screen.size] at inside
    obtain ⟨px, py, across, down, rfl⟩ := exists_screenCell inside
    refine ⟨px, py, across, down, ?_, met⟩
    rw [screen.pixel_eq across down, ← Bool.toNat_eq_one]
    omega
  · rintro ⟨px, py, across, down, lit, met⟩
    refine ⟨screenCell px py, ?_⟩
    rw [once.count, if_pos met, ← screen.pixel_eq across down, lit]
    decide

end Display

end Chip8
