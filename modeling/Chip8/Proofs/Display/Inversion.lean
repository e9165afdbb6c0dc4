import Mathlib.Data.Nat.Bits
import Chip8.Proofs.Display.Landing

/-! # Inverting cells again and again

Drawing inverts a row of cells, its strokes. What a row of strokes leaves of a pixel is a matter of
their parity in its cell (`litAt_draw`), and it makes a lit pixel go dark exactly if it meets a lit
cell or meets a cell twice (`draw_collision`). The strokes themselves do not depend on which pixels
are lit, so the same drawing done twice undoes itself (`draw_draw`), and drawings in a row may
change places (`drawAll_perm`).
-/

namespace Chip8.Display

/-- Whether the pixel of a cell is lit; cells that the picture does not have are dark. -/
def litAt (display : Display) (cell : Nat) : Bool := display.pixels.getD cell false

def flip (display : Display) (cell : Nat) : Display :=
  { display with pixels := display.pixels.setIfInBounds cell (!display.litAt cell) }

theorem SameFrame.symm {before after : Display} (frame : SameFrame before after) :
    SameFrame after before :=
  ⟨frame.edge.symm, frame.width.symm, frame.height.symm, frame.size.symm⟩

theorem flip_sameFrame (display : Display) (cell : Nat) : SameFrame display (display.flip cell) :=
  ⟨rfl, rfl, rfl, Array.size_setIfInBounds⟩

theorem litAt_flip (display : Display) {hit : Nat} (inside : hit < display.pixels.size)
    (cell : Nat) : (display.flip hit).litAt cell = (display.litAt cell ^^ (hit == cell)) := by
  by_cases same : hit = cell
  · subst same
    simp [flip, litAt, Array.getD_eq_getD_getElem?, inside]
  · rw [beq_false_of_ne same, Bool.xor_false]
    simp only [flip, litAt, Array.getD_eq_getD_getElem?, Array.getElem?_setIfInBounds_ne same]

/-- Pictures of one frame whose cells are lit alike are the same. -/
theorem SameFrame.eq_of_litAt {before after : Display} (frame : SameFrame before after)
    (alike : ∀ cell, cell < before.pixels.size → after.litAt cell = before.litAt cell) :
    after = before := by
  obtain ⟨edge, width, height, pixels⟩ := before
  obtain ⟨otherEdge, otherWidth, otherHeight, otherPixels⟩ := after
  obtain ⟨rfl, rfl, rfl, size⟩ := frame
  have same : otherPixels = pixels := by
    apply Array.ext size
    intro cell here there
    have lit := alike cell there
    simpa [litAt, Array.getD_eq_getD_getElem?, here, there] using lit
  rw [same]

/-! ## Rows of strokes -/

/-- Whether a row of strokes makes a lit pixel go dark: it meets a lit cell, or a cell twice. -/
def Darkens (display : Display) (strokes : List Nat) : Prop :=
  ∃ cell, 2 ≤ (display.litAt cell).toNat + strokes.count cell

theorem not_darkens_nil (display : Display) : ¬ display.Darkens [] := by
  rintro ⟨cell, twice⟩
  have once := Bool.toNat_le (display.litAt cell)
  rw [List.count_nil] at twice
  omega

theorem darkens_cons {display : Display} {hit : Nat} (inside : hit < display.pixels.size)
    (rest : List Nat) :
    display.Darkens (hit :: rest) ↔ display.litAt hit = true ∨ (display.flip hit).Darkens rest := by
  have first : ((display.flip hit).litAt hit).toNat = 1 - (display.litAt hit).toNat := by
    rw [litAt_flip display inside, beq_self_eq_true]
    cases display.litAt hit <;> rfl
  have others {cell : Nat} (apart : hit ≠ cell) :
      (display.flip hit).litAt cell = display.litAt cell := by
    rw [litAt_flip display inside, beq_false_of_ne apart, Bool.xor_false]
  have once := Bool.toNat_le (display.litAt hit)
  constructor
  · rintro ⟨cell, twice⟩
    by_cases same : hit = cell
    · -- The first stroke may be one of the two on this cell; then the rest finds the cell lit.
      subst same
      by_cases lit : display.litAt hit = true
      · exact .inl lit
      · refine .inr ⟨hit, ?_⟩
        have dark : (display.litAt hit).toNat = 0 := by simpa using lit
        rw [List.count_cons_self, dark] at twice
        rw [first, dark]
        omega
    · refine .inr ⟨cell, ?_⟩
      rwa [others same, ← List.count_cons_of_ne same]
  · rintro (lit | ⟨cell, twice⟩)
    · refine ⟨hit, ?_⟩
      rw [lit, List.count_cons_self, Bool.toNat_true]
      omega
    · refine ⟨cell, ?_⟩
      by_cases same : hit = cell
      · subst same
        rw [first] at twice
        rw [List.count_cons_self]
        omega
      · rwa [List.count_cons_of_ne same, ← others same]

namespace Drawing

variable {drawing : Drawing}

theorem invert_ok (fine : drawing.fault = none) (cell : Nat) :
    drawing.invert (.ok cell) =
      ⟨drawing.display.flip cell, drawing.collision || drawing.display.litAt cell, none⟩ := by
  simp only [invert, fine, Option.isSome_none, Bool.false_eq_true, if_false]
  rfl

theorem invert_error (fine : drawing.fault = none) (fault : Fault) :
    drawing.invert (.error fault) = { drawing with fault := some fault } := by
  simp only [invert, fine, Option.isSome_none, Bool.false_eq_true, if_false]

/-- A drawing that has stopped stays as it is. -/
theorem foldl_stopped (stopped : drawing.fault.isSome) (landings : List (Except Fault Nat)) :
    landings.foldl invert drawing = drawing := by
  induction landings with
  | nil => rfl
  | cons landing rest ih =>
    have still : drawing.invert landing = drawing := if_pos stopped
    rw [List.foldl_cons, still, ih]

theorem foldl_error (fine : drawing.fault = none) (fault : Fault)
    (rest : List (Except Fault Nat)) :
    (.error fault :: rest).foldl invert drawing = { drawing with fault := some fault } := by
  rw [List.foldl_cons, invert_error fine]
  exact foldl_stopped rfl rest

/-- Of the strokes that hit a pixel only the parity counts. -/
theorem litAt_foldl {landings : List (Except Fault Nat)} (fine : drawing.fault = none)
    (inside : ∀ hit ∈ reached landings, hit < drawing.display.pixels.size) (cell : Nat) :
    (landings.foldl invert drawing).display.litAt cell =
      (drawing.display.litAt cell ^^ ((reached landings).count cell).bodd) := by
  induction landings generalizing drawing with
  | nil => simp
  | cons landing rest ih =>
    cases landing with
    | error fault =>
      rw [foldl_error fine]
      simp
    | ok hit =>
      obtain ⟨here, later⟩ := List.forall_mem_cons.mp inside
      have size := (drawing.display.flip_sameFrame hit).size
      rw [List.foldl_cons, invert_ok fine, ih rfl (by simpa only [size] using later),
        litAt_flip _ here, reached_ok, List.count_cons, Nat.bodd_add, Bool.xor_assoc,
        Bool.xor_comm (hit == cell)]
      cases hit == cell <;> rfl

theorem collision_foldl {landings : List (Except Fault Nat)} (fine : drawing.fault = none)
    (inside : ∀ hit ∈ reached landings, hit < drawing.display.pixels.size) :
    (landings.foldl invert drawing).collision = true ↔
      drawing.collision = true ∨ drawing.display.Darkens (reached landings) := by
  induction landings generalizing drawing with
  | nil => simp [not_darkens_nil]
  | cons landing rest ih =>
    cases landing with
    | error fault =>
      rw [foldl_error fine]
      simp [not_darkens_nil]
    | ok hit =>
      obtain ⟨here, later⟩ := List.forall_mem_cons.mp inside
      have size := (drawing.display.flip_sameFrame hit).size
      rw [List.foldl_cons, invert_ok fine, ih rfl (by simpa only [size] using later), reached_ok,
        darkens_cons here, Bool.or_eq_true, or_assoc]

end Drawing

/-! ## Drawings -/

variable {before after display : Display} {x y : Int} {sprite : List UInt8}

theorem litAt_draw (display : Display) (x y : Int) (sprite : List UInt8) (cell : Nat) :
    (display.draw x y sprite).display.litAt cell =
      (display.litAt cell ^^ ((display.strokes x y sprite).count cell).bodd) :=
  Drawing.litAt_foldl rfl (fun _ member => strokes_lt member) cell

theorem draw_collision (display : Display) (x y : Int) (sprite : List UInt8) :
    (display.draw x y sprite).collision = true ↔ display.Darkens (display.strokes x y sprite) := by
  rw [draw, Drawing.collision_foldl rfl fun _ member => strokes_lt member]
  simp only [Bool.false_eq_true, false_or]
  rfl

/-- Drawing a sprite where it was drawn before takes it away. -/
theorem draw_draw (display : Display) (x y : Int) (sprite : List UInt8) :
    ((display.draw x y sprite).display.draw x y sprite).display = display := by
  have drawn := display.draw_sameFrame x y sprite
  apply (drawn.trans (draw_sameFrame _ x y sprite)).eq_of_litAt
  intro cell _
  rw [litAt_draw, drawn.strokes, litAt_draw, Bool.xor_assoc, Bool.xor_self, Bool.xor_false]

/-- One of the two drawings makes a lit pixel go dark as soon as there is a stroke: a pixel that the
first one leaves lit goes dark in the second. -/
theorem draw_draw_collision (display : Display) (x y : Int) (sprite : List UInt8) :
    ((display.draw x y sprite).collision = true ∨
        ((display.draw x y sprite).display.draw x y sprite).collision = true) ↔
      display.strokes x y sprite ≠ [] := by
  have drawn := display.draw_sameFrame x y sprite
  rw [draw_collision, draw_collision, drawn.strokes]
  constructor
  · intro darkens none
    rw [none] at darkens
    exact darkens.elim (not_darkens_nil _) (not_darkens_nil _)
  · intro some
    obtain ⟨cell, member⟩ := List.exists_mem_of_ne_nil _ some
    have met := List.count_pos_iff.mpr member
    have afterwards := display.litAt_draw x y sprite cell
    by_cases twice : 2 ≤ (display.litAt cell).toNat + (display.strokes x y sprite).count cell
    · exact .inl ⟨cell, twice⟩
    · -- A dark pixel that is met once.
      have once : (display.strokes x y sprite).count cell = 1 := by omega
      have dark : display.litAt cell = false := by
        rw [← Bool.toNat_eq_zero]
        omega
      refine .inr ⟨cell, ?_⟩
      rw [afterwards, once, dark]
      decide

/-! ## Rows of drawings -/

/-- A sprite and the place of its upper left corner. -/
structure Placement where
  x : Nat
  y : Nat
  sprite : List UInt8
deriving DecidableEq, Repr

def drawAll (display : Display) (placements : List Placement) : Display :=
  placements.foldl (fun display placement =>
    (display.draw placement.x placement.y placement.sprite).display) display

def allStrokes (display : Display) (placements : List Placement) : List Nat :=
  placements.flatMap fun placement => display.strokes placement.x placement.y placement.sprite

theorem drawAll_sameFrame (display : Display) (placements : List Placement) :
    SameFrame display (display.drawAll placements) := by
  induction placements generalizing display with
  | nil => exact .refl _
  | cons placement rest ih => exact (display.draw_sameFrame ..).trans (ih _)

theorem SameFrame.allStrokes (frame : SameFrame before after) (placements : List Placement) :
    after.allStrokes placements = before.allStrokes placements := by
  simp only [Display.allStrokes, frame.strokes]

theorem litAt_drawAll (display : Display) (placements : List Placement) (cell : Nat) :
    (display.drawAll placements).litAt cell =
      (display.litAt cell ^^ ((display.allStrokes placements).count cell).bodd) := by
  induction placements generalizing display with
  | nil => simp [drawAll, allStrokes]
  | cons placement rest ih =>
    have drawn := display.draw_sameFrame placement.x placement.y placement.sprite
    rw [drawAll, List.foldl_cons, ← drawAll, ih, drawn.allStrokes, litAt_draw, allStrokes,
      allStrokes, List.flatMap_cons, List.count_append, Nat.bodd_add, Bool.xor_assoc]

/-- Sprites may be drawn in any order. -/
theorem drawAll_perm (display : Display) {one other : List Placement} (perm : one.Perm other) :
    display.drawAll one = display.drawAll other := by
  have frame : SameFrame (display.drawAll other) (display.drawAll one) :=
    (display.drawAll_sameFrame other).symm.trans (display.drawAll_sameFrame one)
  apply frame.eq_of_litAt
  intro cell _
  have strokes : (display.allStrokes one).Perm (display.allStrokes other) := perm.flatMap_right _
  rw [litAt_drawAll, litAt_drawAll, strokes.count_eq]

/-- On every picture whose cells are as many as its sides say, a sprite of any length that is drawn
twice at a place leaves the picture as it was, and one of the two drawings makes a lit pixel go dark
exactly if a set bit of the sprite lands on the picture. Neither fails, unless bits are to wrap
around on a picture without cells. Sprites that are drawn in a row may be drawn in any other order.
-/
theorem drawing_undoes_itself_in_any_order (framed : display.IsFrame) :
    (∀ (x y : Nat) (sprite : List UInt8),
      let first := display.draw x y sprite
      let second := first.display.draw x y sprite
      (display.Drawable → first.fault = none ∧ second.fault = none) ∧
        second.display = display ∧
        ((first.collision = true ∨ second.collision = true) ↔ display.Shows x y sprite)) ∧
      ∀ one other : List Placement, one.Perm other →
        display.drawAll one = display.drawAll other := by
  constructor
  · intro x y sprite first second
    have drawn : SameFrame display first.display := display.draw_sameFrame x y sprite
    refine ⟨?_, display.draw_draw x y sprite, ?_⟩
    · intro drawable
      refine ⟨framed.draw_fault drawable x y sprite, ?_⟩
      exact (drawn.isFrame framed).draw_fault (drawn.drawable drawable) x y sprite
    · rw [display.draw_draw_collision x y sprite]
      exact framed.strokes_ne_nil_iff x y sprite
  · intro one other perm
    exact display.drawAll_perm perm

def tile : Display := ⟨.wrap, 3, 2, #[true, false, false, false, false, true]⟩

/-- A sprite that is larger than the picture and hits some of its pixels many times. -/
def wideSprite : List UInt8 := [0xFF, 0x81, 0x3C]

/-- Drawn twice it leaves no trace but that a lit pixel has gone dark, and of two sprites either may
come first. -/
theorem tile_restored :
    tile.IsFrame ∧ ((tile.draw 1 1 wideSprite).display.draw 1 1 wideSprite).display = tile ∧
      ((tile.draw 1 1 wideSprite).collision = true ∨
        ((tile.draw 1 1 wideSprite).display.draw 1 1 wideSprite).collision = true) ∧
      tile.drawAll [⟨1, 1, wideSprite⟩, ⟨0, 5, [0xE0]⟩] =
        tile.drawAll [⟨0, 5, [0xE0]⟩, ⟨1, 1, wideSprite⟩] := by
  have framed : tile.IsFrame := rfl
  have shows : tile.Shows 1 1 wideSprite :=
    ⟨0, 0, 0xFF, rfl, by decide, by decide, show 0 < tile.pixels.size by decide⟩
  obtain ⟨twice, anyOrder⟩ := drawing_undoes_itself_in_any_order framed
  obtain ⟨_, restored, darkens⟩ := twice 1 1 wideSprite
  exact ⟨framed, restored, darkens.mpr shows, anyOrder _ _ (.swap ..)⟩

end Chip8.Display
