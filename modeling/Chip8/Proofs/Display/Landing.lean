import Chip8.Proofs.Display

/-! # Where the bits of a sprite land

On a picture whose cells are as many as its sides say, a bit whose position is not negative lands on
a cell or is left out, and nothing fails (`IsFrame.landings`), unless the bits are to wrap around
and there are no cells at all. The cells that bits land on are the strokes of a drawing. There are
some exactly if a set bit lands on the picture: in clip mode if it does not lie beyond an edge, in
wrap mode in any case (`IsFrame.strokes_ne_nil_iff`).
-/

namespace Chip8.Display

variable {display before after : Display} {sprite : List UInt8} {cell : Nat}

/-- The set bits of a sprite, each as its line and its column, line by line. -/
def setBits (sprite : List UInt8) : List (Nat × Nat) :=
  sprite.zipIdx.flatMap fun (bits, row) => (litColumns bits).map fun column => (row, column)

theorem mem_litColumns {bits : UInt8} {column : Nat} :
    column ∈ litColumns bits ↔ column < 8 ∧ bits.toNat.testBit (7 - column) = true := by
  rw [litColumns, List.mem_filter, List.mem_range]

theorem mem_setBits {row column : Nat} :
    (row, column) ∈ setBits sprite ↔
      ∃ bits, sprite[row]? = some bits ∧ column < 8 ∧ bits.toNat.testBit (7 - column) = true := by
  simp only [setBits, List.mem_flatMap, List.mem_map, Prod.mk.injEq, Prod.exists]
  constructor
  · rintro ⟨bits, _, here, _, lit, rfl, rfl⟩
    exact ⟨bits, List.mk_mem_zipIdx_iff_getElem?.mp here, mem_litColumns.mp lit⟩
  · rintro ⟨bits, here, lit⟩
    exact ⟨bits, row, List.mk_mem_zipIdx_iff_getElem?.mpr here, column, mem_litColumns.mpr lit,
      rfl, rfl⟩

/-! ## Strokes -/

/-- The cells that are inverted: where bits land, up to the first one that lands nowhere. -/
def reached : List (Except Fault Nat) → List Nat
  | .ok cell :: rest => cell :: reached rest
  | _ => []

@[simp] theorem reached_nil : reached [] = [] := rfl

@[simp] theorem reached_ok (cell : Nat) (rest : List (Except Fault Nat)) :
    reached (.ok cell :: rest) = cell :: reached rest := rfl

@[simp] theorem reached_error (fault : Fault) (rest : List (Except Fault Nat)) :
    reached (.error fault :: rest) = [] := rfl

theorem mem_of_mem_reached {landings : List (Except Fault Nat)} (member : cell ∈ reached landings) :
    .ok cell ∈ landings := by
  induction landings with
  | nil => contradiction
  | cons landing rest ih =>
    cases landing with
    | error fault => contradiction
    | ok hit =>
      rcases List.mem_cons.mp member with rfl | later
      · exact List.mem_cons_self
      · exact List.mem_cons_of_mem _ (ih later)

/-- Without a fault every landing counts. -/
theorem mem_reached {landings : List (Except Fault Nat)}
    (fine : ∀ landing ∈ landings, ∃ cell, landing = .ok cell) (member : .ok cell ∈ landings) :
    cell ∈ reached landings := by
  induction landings with
  | nil => contradiction
  | cons landing rest ih =>
    obtain ⟨⟨hit, rfl⟩, later⟩ := List.forall_mem_cons.mp fine
    rcases List.mem_cons.mp member with same | behind
    · cases same
      exact List.mem_cons_self
    · exact List.mem_cons_of_mem _ (ih later behind)

theorem reached_map_ok (cells : List Nat) : reached (cells.map .ok) = cells := by
  induction cells with
  | nil => rfl
  | cons cell rest ih => exact congrArg (cell :: ·) ih

/-- The cells that a drawing inverts, in order. -/
def strokes (display : Display) (x y : Int) (sprite : List UInt8) : List Nat :=
  reached (display.landings x y sprite)

/-- What is lit has no part in where a sprite lands. -/
theorem SameFrame.strokes (frame : SameFrame before after) (x y : Int) (sprite : List UInt8) :
    after.strokes x y sprite = before.strokes x y sprite := by
  simp only [Display.strokes, landings, lineLandings, frame.edge, frame.width, frame.height,
    frame.size]

theorem cellOf_lt {size : Nat} {position : Int} (found : cellOf size position = .ok cell) :
    cell < size := by
  unfold cellOf at found
  split at found
  · cases found
    omega
  · split at found
    · cases found
      omega
    · contradiction

theorem lt_of_mem_lineLandings {x y : Int} {bits : UInt8}
    (member : .ok cell ∈ display.lineLandings x y bits) : cell < display.pixels.size := by
  cases below : meetEdge display.edge display.height y with
  | error fault => simp [lineLandings, below] at member
  | ok line =>
    cases line with
    | none => simp [lineLandings, below] at member
    | some line =>
      rw [lineLandings, below] at member
      obtain ⟨column, _, lands⟩ := List.mem_filterMap.mp member
      split at lands
      · cases lands
      · cases lands
      · exact cellOf_lt (Option.some.inj lands)

theorem strokes_lt {x y : Int} (member : cell ∈ display.strokes x y sprite) :
    cell < display.pixels.size := by
  obtain ⟨line, lineMember, landed⟩ := List.mem_flatten.mp (mem_of_mem_reached member)
  obtain ⟨⟨bits, row⟩, _, rfl⟩ := List.mem_map.mp lineMember
  exact lt_of_mem_lineLandings landed

/-! ## One bit at a time -/

/-- Where a set bit lands, given by its line and its column, unless an edge leaves it out. -/
def landing? (display : Display) (x y : Int) (bit : Nat × Nat) : Option (Except Fault Nat) :=
  match meetEdge display.edge display.height (y + bit.1) with
  | .error fault => some (.error fault)
  | .ok none => none
  | .ok (some line) =>
    match meetEdge display.edge display.width (x + bit.2) with
    | .error fault => some (.error fault)
    | .ok none => none
    | .ok (some place) => some (cellOf display.pixels.size (line * display.width + place))

theorem meetEdge_clip_of_lt {side coordinate : Int} (inside : coordinate < side) :
    meetEdge .clip side coordinate = .ok (some coordinate) := by
  rw [meetEdge, if_neg (by omega)]

theorem meetEdge_clip_of_le {side coordinate : Int} (beyond : side ≤ coordinate) :
    meetEdge .clip side coordinate = .ok none := by
  rw [meetEdge, if_pos beyond]

theorem meetEdge_wrap {side : Int} (length : side ≠ 0) (coordinate : Int) :
    meetEdge .wrap side coordinate = .ok (some (coordinate.fmod side)) := by
  rw [meetEdge, if_neg length]

theorem exists_meetEdge {edge : EdgeMode} {side : Int} (length : edge = .wrap → side ≠ 0)
    (coordinate : Int) : ∃ place, meetEdge edge side coordinate = .ok place := by
  cases edge with
  | clip => exact ⟨_, rfl⟩
  | wrap => exact ⟨_, meetEdge_wrap (length rfl) coordinate⟩

theorem lineLandings_eq (length : display.edge = .wrap → display.height ≠ 0) (x y : Int) (row : Nat)
    (bits : UInt8) :
    display.lineLandings x (y + row) bits =
      (litColumns bits).filterMap fun column => display.landing? x y (row, column) := by
  obtain ⟨line, below⟩ := exists_meetEdge length (y + row)
  simp only [lineLandings, landing?, below]
  cases line with
  | none => simp
  | some line => rfl

/-- The landings are those of the set bits, one by one. -/
theorem landings_eq (length : display.edge = .wrap → display.height ≠ 0) (x y : Int)
    (sprite : List UInt8) :
    display.landings x y sprite = (setBits sprite).filterMap (display.landing? x y) := by
  rw [landings, setBits, ← List.flatMap_def, List.filterMap_flatMap]
  congr 1
  funext ⟨bits, row⟩
  dsimp only
  rw [lineLandings_eq length, List.filterMap_map]
  rfl

/-! ## Pictures of any size -/

/-- The picture has as many cells as its sides say. -/
def IsFrame (display : Display) : Prop :=
  (display.pixels.size : Int) = display.width * display.height

theorem IsScreen.isFrame (screen : display.IsScreen) : display.IsFrame := by
  rw [IsFrame, screen.size, screen.width, screen.height]
  rfl

theorem SameFrame.isFrame (frame : SameFrame before after) (framed : before.IsFrame) :
    after.IsFrame := by
  rw [IsFrame, frame.size, frame.width, frame.height]
  exact framed

/-- Whether the picture takes a bit at a position that is not negative. -/
def Takes (display : Display) (x y : Int) : Prop :=
  match display.edge with
  | .clip => x < display.width ∧ y < display.height
  | .wrap => 0 < display.pixels.size

/-- The sprite has a set bit that lands on the picture. -/
def Shows (display : Display) (x y : Nat) (sprite : List UInt8) : Prop :=
  ∃ (row column : Nat) (bits : UInt8), sprite[row]? = some bits ∧ column < 8 ∧
    bits.toNat.testBit (7 - column) = true ∧ display.Takes (x + column) (y + row)

theorem exists_cellOf {size : Nat} {position : Int} (low : -size ≤ position)
    (high : position < size) : ∃ cell, cellOf size position = .ok cell := by
  unfold cellOf
  split
  · exact ⟨_, rfl⟩
  · rw [if_pos (by omega)]
    exact ⟨_, rfl⟩

/-- A place on a side, which points the other way if the side is negative. -/
def OnSide (side place : Int) : Prop := 0 ≤ place ∧ place < side ∨ side < place ∧ place ≤ 0

theorem onSide_fmod {side : Int} (length : side ≠ 0) (coordinate : Int) :
    OnSide side (coordinate.fmod side) := by
  rcases Int.lt_or_gt_of_ne length with negative | positive
  · right
    have mirrored := Int.neg_fmod_neg (-coordinate) (-side)
    rw [Int.neg_neg, Int.neg_neg] at mirrored
    have low := Int.fmod_nonneg_of_pos (-coordinate) (b := -side) (by omega)
    have high := Int.fmod_lt_of_pos (-coordinate) (b := -side) (by omega)
    omega
  · left
    exact ⟨Int.fmod_nonneg_of_pos _ positive, Int.fmod_lt_of_pos _ positive⟩

theorem IsFrame.width_ne_zero (framed : display.IsFrame) (cells : 0 < display.pixels.size) :
    display.width ≠ 0 := by
  intro zero
  rw [IsFrame, zero, Int.zero_mul] at framed
  omega

theorem IsFrame.height_ne_zero (framed : display.IsFrame) (cells : 0 < display.pixels.size) :
    display.height ≠ 0 := by
  intro zero
  rw [IsFrame, zero, Int.mul_zero] at framed
  omega

/-- A place on either side of a picture selects a cell. -/
theorem IsFrame.exists_cellOf (framed : display.IsFrame) (cells : 0 < display.pixels.size)
    {line place : Int} (below : OnSide display.height line) (along : OnSide display.width place) :
    ∃ cell, cellOf display.pixels.size (line * display.width + place) = .ok cell := by
  have area : 0 < display.height * display.width := by
    rw [Int.mul_comm, ← framed]
    omega
  have size : (display.pixels.size : Int) = display.height * display.width :=
    framed.trans (Int.mul_comm ..)
  -- There are cells, so the sides have one sign. Places below zero count from behind the last cell.
  rcases below with ⟨top, bottom⟩ | ⟨bottom, top⟩ <;>
    rcases along with ⟨left, right⟩ | ⟨right, left⟩
  · have front : 0 ≤ line * display.width := Int.mul_nonneg top (by omega)
    have back : line * display.width ≤ (display.height - 1) * display.width :=
      Int.mul_le_mul_of_nonneg_right (by omega) (by omega)
    rw [Int.sub_mul] at back
    apply Display.exists_cellOf <;> omega
  · exact absurd area (Int.not_lt.mpr (Int.mul_nonpos_of_nonneg_of_nonpos (by omega) (by omega)))
  · exact absurd area (Int.not_lt.mpr (Int.mul_nonpos_of_nonpos_of_nonneg (by omega) (by omega)))
  · have front : 0 ≤ line * display.width := Int.mul_nonneg_of_nonpos_of_nonpos top (by omega)
    have back : line * display.width ≤ (display.height + 1) * display.width :=
      Int.mul_le_mul_of_nonpos_right (by omega) (by omega)
    have below : display.height * -display.width ≤ -1 * -display.width :=
      Int.mul_le_mul_of_nonneg_right (by omega) (by omega)
    rw [Int.add_mul] at back
    rw [Int.mul_neg, Int.neg_mul_neg] at below
    apply Display.exists_cellOf <;> omega

/-- A picture takes no bits if it has no cells. -/
theorem IsFrame.cells_of_takes (framed : display.IsFrame) {x y : Nat} (takes : display.Takes x y) :
    0 < display.pixels.size := by
  cases edge : display.edge with
  | clip =>
    simp only [Takes, edge] at takes
    have area : 0 < display.width * display.height := Int.mul_pos (by omega) (by omega)
    rw [← framed] at area
    omega
  | wrap => simpa only [Takes, edge] using takes

/-- Whether the picture can be drawn on: to wrap around, there have to be cells. -/
def Drawable (display : Display) : Prop := display.edge = .wrap → 0 < display.pixels.size

theorem IsScreen.drawable (screen : display.IsScreen) : display.Drawable := by
  intro _
  rw [screen.size]
  decide

theorem SameFrame.drawable (frame : SameFrame before after) (drawable : before.Drawable) :
    after.Drawable := by
  rw [Drawable, frame.edge, frame.size]
  exact drawable

/-- A bit at a position that is not negative lands on a cell if the picture takes it, and is left
out otherwise. -/
theorem IsFrame.landing? (framed : display.IsFrame) (drawable : display.Drawable) (x y : Nat)
    (bit : Nat × Nat) :
    (display.Takes (x + bit.2) (y + bit.1) ∧
        ∃ cell, display.landing? x y bit = some (.ok cell)) ∨
      (¬ display.Takes (x + bit.2) (y + bit.1) ∧ display.landing? x y bit = none) := by
  cases edge : display.edge with
  | clip =>
    simp only [Takes, edge, Display.landing?]
    by_cases lower : (y : Int) + bit.1 < display.height
    · rw [meetEdge_clip_of_lt lower]
      by_cases right : (x : Int) + bit.2 < display.width
      · have cells : 0 < display.pixels.size := by
          apply framed.cells_of_takes (x := x + bit.2) (y := y + bit.1)
          simp only [Takes, edge]
          exact ⟨right, lower⟩
        have below : OnSide display.height (y + bit.1) := .inl ⟨by omega, lower⟩
        have along : OnSide display.width (x + bit.2) := .inl ⟨by omega, right⟩
        obtain ⟨cell, selects⟩ := framed.exists_cellOf cells below along
        rw [meetEdge_clip_of_lt right]
        exact .inl ⟨⟨right, lower⟩, cell, congrArg some selects⟩
      · rw [meetEdge_clip_of_le (by omega)]
        exact .inr ⟨fun takes => right takes.1, rfl⟩
    · rw [meetEdge_clip_of_le (by omega)]
      exact .inr ⟨fun takes => lower takes.2, rfl⟩
  | wrap =>
    have cells := drawable edge
    have length := framed.height_ne_zero cells
    have breadth := framed.width_ne_zero cells
    simp only [Takes, edge, Display.landing?]
    rw [meetEdge_wrap length, meetEdge_wrap breadth]
    obtain ⟨cell, selects⟩ := framed.exists_cellOf cells
      (onSide_fmod length (y + bit.1)) (onSide_fmod breadth (x + bit.2))
    exact .inl ⟨cells, cell, congrArg some selects⟩

/-! ## The whole sprite -/

theorem IsFrame.landings_eq (framed : display.IsFrame) (drawable : display.Drawable) (x y : Nat)
    (sprite : List UInt8) :
    display.landings x y sprite = (setBits sprite).filterMap (display.landing? x y) :=
  Display.landings_eq (fun edge => framed.height_ne_zero (drawable edge)) x y sprite

/-- Every bit of a sprite lands on a cell or is left out. -/
theorem IsFrame.landings (framed : display.IsFrame) (drawable : display.Drawable) (x y : Nat)
    (sprite : List UInt8) :
    ∀ landing ∈ display.landings x y sprite, ∃ cell, landing = .ok cell := by
  rw [framed.landings_eq drawable]
  intro landing member
  obtain ⟨bit, _, lands⟩ := List.mem_filterMap.mp member
  rcases framed.landing? drawable x y bit with ⟨_, cell, here⟩ | ⟨_, out⟩
  · rw [here] at lands
    exact ⟨cell, (Option.some.inj lands).symm⟩
  · rw [out] at lands
    contradiction

/-- Drawing on a picture that can be drawn on never fails. -/
theorem IsFrame.draw_fault (framed : display.IsFrame) (drawable : display.Drawable) (x y : Nat)
    (sprite : List UInt8) : (display.draw x y sprite).fault = none :=
  Drawing.foldl_fault rfl (framed.landings drawable x y sprite)

/-- Drawing on the screen never fails. -/
theorem IsScreen.draw_fault (screen : display.IsScreen) (x y : Nat) (sprite : List UInt8) :
    (display.draw x y sprite).fault = none :=
  screen.isFrame.draw_fault screen.drawable x y sprite

/-- A drawing inverts a cell exactly if a bit of the sprite lands on the picture. -/
theorem IsFrame.strokes_ne_nil_iff (framed : display.IsFrame) (x y : Nat) (sprite : List UInt8) :
    display.strokes x y sprite ≠ [] ↔ display.Shows x y sprite := by
  constructor
  · intro some
    obtain ⟨cell, member⟩ := List.exists_mem_of_ne_nil _ some
    have drawable : display.Drawable := fun _ => Nat.zero_lt_of_lt (strokes_lt member)
    have landed := mem_of_mem_reached member
    rw [framed.landings_eq drawable] at landed
    obtain ⟨⟨row, column⟩, set, lands⟩ := List.mem_filterMap.mp landed
    obtain ⟨bits, here, inside, lit⟩ := mem_setBits.mp set
    rcases framed.landing? drawable x y (row, column) with ⟨takes, _⟩ | ⟨_, out⟩
    · exact ⟨row, column, bits, here, inside, lit, takes⟩
    · rw [out] at lands
      contradiction
  · rintro ⟨row, column, bits, here, inside, lit, takes⟩ none
    have drawable : display.Drawable := fun _ =>
      framed.cells_of_takes (x := x + column) (y := y + row) takes
    have set := mem_setBits.mpr ⟨bits, here, inside, lit⟩
    rcases framed.landing? drawable x y (row, column) with ⟨_, cell, lands⟩ | ⟨refuses, _⟩
    · have member : .ok cell ∈ display.landings x y sprite := by
        rw [framed.landings_eq drawable]
        exact List.mem_filterMap.mpr ⟨_, set, lands⟩
      have inverted := mem_reached (framed.landings drawable x y sprite) member
      rw [← strokes, none] at inverted
      contradiction
    · exact refuses takes

end Chip8.Display
