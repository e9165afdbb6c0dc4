import Mathlib.Data.List.Forall2
import Chip8.Hardware
import Chip8.Stack

/-! # Pushing and popping

Neither a push nor a pop changes how many slots a stack has. Seen as the row of its live addresses,
a stack grows and shrinks at the end of that row.
-/

namespace Chip8.Stack

/-- Of an address of any size, a slot keeps the low sixteen bits. -/
theorem toNat_ofInt (address : Int) : ((UInt16.ofInt address).toNat : Int) = lowWord address := by
  simp only [UInt16.ofInt, UInt16.toNat_ofNat', lowWord]
  omega

theorem capacity_ofCapacity (capacity : Nat) : (ofCapacity capacity).capacity = capacity :=
  Array.size_replicate

theorem capacity_cleared (stack : Stack) : stack.cleared.capacity = stack.capacity :=
  capacity_ofCapacity stack.capacity

theorem push?_capacity {before after : Stack} {address : UInt16}
    (pushed : before.push? address = some after) : after.capacity = before.capacity := by
  unfold push? at pushed
  split at pushed
  · rename_i room
    cases pushed
    exact Array.size_set room
  · contradiction

theorem pop?_capacity {before after : Stack} {address : UInt16}
    (popped : before.pop? = some (address, after)) : after.capacity = before.capacity := by
  obtain ⟨slots, depth, bound⟩ := before
  cases depth with
  | zero => contradiction
  | succ depth =>
    cases popped
    rfl

/-! ## Live addresses -/

theorem length_live (stack : Stack) : stack.live.length = stack.depth := by
  rw [live, List.length_take, Array.length_toList]
  exact Nat.min_eq_left stack.depth_le

/-- Only a full stack refuses an address. -/
theorem push?_eq_none_iff {stack : Stack} {address : UInt16} :
    stack.push? address = none ↔ stack.capacity ≤ stack.live.length := by
  rw [length_live]
  unfold push? capacity
  split
  · rename_i room
    simpa using room
  · rename_i full
    simpa using Nat.le_of_not_lt full

/-- A push adds an address at the end of the live ones. -/
theorem live_push? {before after : Stack} {address : UInt16}
    (pushed : before.push? address = some after) : after.live = before.live ++ [address] := by
  unfold push? at pushed
  split at pushed
  · rename_i room
    cases pushed
    simp only [live, Array.toList_set]
    rw [List.take_add_one, List.take_set_of_le (Nat.le_refl _)]
    simp [room]
  · contradiction

/-- A pop takes the last live address. -/
theorem live_pop? {before after : Stack} {address : UInt16}
    (popped : before.pop? = some (address, after)) : before.live = after.live ++ [address] := by
  obtain ⟨slots, depth, bound⟩ := before
  cases depth with
  | zero => contradiction
  | succ depth =>
    cases popped
    have inside : depth < slots.toList.length := bound
    simp only [live]
    rw [List.take_add_one, List.getElem?_eq_getElem inside]
    rfl

/-- Only an empty stack has nothing to take off. -/
theorem live_of_pop?_eq_none {stack : Stack} (empty : stack.pop? = none) : stack.live = [] := by
  obtain ⟨slots, depth, bound⟩ := stack
  cases depth with
  | zero => rfl
  | succ depth => contradiction

/-! ## Two stacks with related addresses -/

variable {related : UInt16 → UInt16 → Prop} {one other : Stack}

/-- Of two stacks of a size whose live addresses are related, either both refuse a push, or related
addresses go on both and the stacks are as before. -/
theorem push?_rel (capacity : one.capacity = other.capacity)
    (live : List.Forall₂ related one.live other.live) {address otherAddress : UInt16}
    (top : related address otherAddress) :
    Option.Rel (fun after otherAfter => List.Forall₂ related after.live otherAfter.live)
      (one.push? address) (other.push? otherAddress) := by
  have sameRoom : one.push? address = none ↔ other.push? otherAddress = none := by
    rw [push?_eq_none_iff, push?_eq_none_iff, capacity, live.length_eq]
  cases pushed : one.push? address with
  | none =>
    rw [sameRoom.mp pushed]
    exact .none
  | some after =>
    cases otherPushed : other.push? otherAddress with
    | none => simp [sameRoom.mpr otherPushed] at pushed
    | some otherAfter =>
      apply Option.Rel.some
      rw [live_push? pushed, live_push? otherPushed]
      exact List.rel_append live (.cons top .nil)

/-- Two stacks whose live addresses are related are both empty, or give related addresses and the
stacks are as before. -/
theorem pop?_rel (live : List.Forall₂ related one.live other.live) :
    Option.Rel (fun top otherTop =>
        related top.1 otherTop.1 ∧ List.Forall₂ related top.2.live otherTop.2.live)
      one.pop? other.pop? := by
  cases popped : one.pop? with
  | none =>
    rw [live_of_pop?_eq_none popped] at live
    cases otherPopped : other.pop? with
    | none => exact .none
    | some otherTop =>
      rw [live_pop? otherPopped] at live
      simpa using live.length_eq
  | some top =>
    rw [live_pop? popped] at live
    cases otherPopped : other.pop? with
    | none =>
      rw [live_of_pop?_eq_none otherPopped] at live
      simpa using live.length_eq
    | some otherTop =>
      rw [live_pop? otherPopped, ← List.forall₂_reverse_iff, List.reverse_concat,
        List.reverse_concat, List.forall₂_cons, List.forall₂_reverse_iff] at live
      exact .some live

end Chip8.Stack
