import Chip8.Display

/-! # Drawing keeps the frame

Drawing keeps the sides, the edge mode and the number of cells of any picture: it changes nothing
but which pixels are lit. It goes through if every bit lands on a cell.
-/

namespace Chip8.Display

/-- The picture has the sides of the screen and a cell for each of its pixels. -/
structure IsScreen (display : Display) : Prop where
  width : display.width = screenWidth
  height : display.height = screenHeight
  size : display.pixels.size = screenWidth * screenHeight

theorem IsScreen.dark (edge : EdgeMode) : (dark edge).IsScreen :=
  ⟨rfl, rfl, Array.size_replicate⟩

theorem IsScreen.cleared {display : Display} (screen : display.IsScreen) :
    display.cleared.IsScreen :=
  ⟨screen.width, screen.height, Array.size_replicate.trans screen.size⟩

/-! ## Inverting cells -/

/-- Two pictures that differ at most in which pixels are lit. -/
structure SameFrame (before after : Display) : Prop where
  edge : after.edge = before.edge
  width : after.width = before.width
  height : after.height = before.height
  size : after.pixels.size = before.pixels.size

theorem SameFrame.refl (display : Display) : SameFrame display display := ⟨rfl, rfl, rfl, rfl⟩

theorem SameFrame.trans {first second third : Display} (front : SameFrame first second)
    (back : SameFrame second third) : SameFrame first third :=
  ⟨back.edge.trans front.edge, back.width.trans front.width, back.height.trans front.height,
    back.size.trans front.size⟩

theorem SameFrame.isScreen {before after : Display} (same : SameFrame before after)
    (screen : before.IsScreen) : after.IsScreen :=
  ⟨same.width.trans screen.width, same.height.trans screen.height, same.size.trans screen.size⟩

theorem Drawing.invert_sameFrame (drawing : Drawing) (landing : Except Fault Nat) :
    SameFrame drawing.display (drawing.invert landing).display := by
  unfold Drawing.invert
  split
  · exact .refl _
  · cases landing with
    | error fault => exact .refl _
    | ok cell => exact ⟨rfl, rfl, rfl, Array.size_setIfInBounds⟩

theorem Drawing.foldl_sameFrame (drawing : Drawing) (landings : List (Except Fault Nat)) :
    SameFrame drawing.display (landings.foldl Drawing.invert drawing).display := by
  induction landings generalizing drawing with
  | nil => exact .refl _
  | cons landing rest ih => exact (drawing.invert_sameFrame landing).trans (ih _)

theorem Drawing.foldl_fault {drawing : Drawing} {landings : List (Except Fault Nat)}
    (fine : drawing.fault = none) (inside : ∀ landing ∈ landings, ∃ cell, landing = .ok cell) :
    (landings.foldl Drawing.invert drawing).fault = none := by
  induction landings generalizing drawing with
  | nil => exact fine
  | cons landing rest ih =>
    obtain ⟨cell, rfl⟩ := inside landing (List.mem_cons_self ..)
    refine ih ?_ fun other member => inside other (List.mem_cons_of_mem _ member)
    simp only [Drawing.invert, fine, Option.isSome_none, Bool.false_eq_true, if_false]

/-- Drawing changes nothing but which pixels are lit. -/
theorem draw_sameFrame (display : Display) (x y : Int) (sprite : List UInt8) :
    SameFrame display (display.draw x y sprite).display :=
  Drawing.foldl_sameFrame ⟨display, false, none⟩ _

end Chip8.Display
