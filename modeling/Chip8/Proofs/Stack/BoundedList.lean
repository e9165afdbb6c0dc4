import Chip8.Hardware
import Chip8.Proofs.Stack

/-! # A stack as a bounded list

Whatever a stack is asked for, it answers like a list of addresses with room for as many as the
stack has slots: a push adds one at the end, a pop takes the last one off. The slots above the live
addresses keep what they held, but no answer tells of it (`Stack.answers_as_bounded_list`).
-/

namespace Chip8

namespace Stack

/-! ## Requests -/

inductive Request where
  | push (address : Int)
  | pop
  | reset
deriving DecidableEq, Repr

inductive Answer where
  /-- Whether the address was taken in. -/
  | pushed (accepted : Bool)
  /-- The address that was taken off, if there was one. -/
  | popped (address : Option Nat)
  | done
deriving DecidableEq, Repr

/-- The answer to a request and the stack after it. Of an address, sixteen bits are kept. -/
def serve (stack : Stack) : Request → Answer × Stack
  | .push address =>
    match stack.push? (UInt16.ofInt address) with
    | some after => (.pushed true, after)
    | none => (.pushed false, stack)
  | .pop =>
    match stack.pop? with
    | some (address, after) => (.popped address.toNat, after)
    | none => (.popped none, stack)
  | .reset => (.done, stack.cleared)

/-- The answers to requests in a row, each with the number of live addresses after it. -/
def answers (stack : Stack) : List Request → List (Answer × Nat)
  | [] => []
  | request :: rest =>
    let (answer, after) := stack.serve request
    (answer, after.depth) :: after.answers rest

end Stack

/-- Addresses, oldest first, of which there are no more than a given number. -/
structure BoundedList (capacity : Nat) where
  addresses : List Nat
  length_le : addresses.length ≤ capacity
deriving DecidableEq, Repr

namespace BoundedList

open Stack (Request Answer)

variable {capacity : Nat}

def empty (capacity : Nat) : BoundedList capacity := ⟨[], Nat.zero_le capacity⟩

def serve (list : BoundedList capacity) : Request → Answer × BoundedList capacity
  | .push address =>
    if room : list.addresses.length < capacity then
      (.pushed true, ⟨list.addresses ++ [(lowWord address).toNat], by
        rw [List.length_append]
        exact room⟩)
    else (.pushed false, list)
  | .pop =>
    (.popped list.addresses.getLast?, ⟨list.addresses.dropLast, by
      rw [List.length_dropLast]
      exact Nat.le_trans (Nat.sub_le ..) list.length_le⟩)
  | .reset => (.done, empty capacity)

/-- The answers to requests in a row, each with the number of addresses after it. -/
def answers (list : BoundedList capacity) : List Request → List (Answer × Nat)
  | [] => []
  | request :: rest =>
    let (answer, after) := list.serve request
    (answer, after.addresses.length) :: after.answers rest

end BoundedList

namespace Stack

/-! ## What a stack stands for -/

/-- A stack has a slot for each address that a list has room for, and its live addresses are those
of the list. -/
structure Represents {capacity : Nat} (stack : Stack) (list : BoundedList capacity) : Prop where
  capacity_eq : stack.capacity = capacity
  live_eq : stack.live.map UInt16.toNat = list.addresses

variable {capacity : Nat} {stack : Stack} {list : BoundedList capacity}

theorem Represents.depth_eq (represents : stack.Represents list) :
    stack.depth = list.addresses.length := by
  rw [← represents.live_eq, List.length_map, length_live]

theorem represents_ofCapacity (capacity : Nat) :
    (ofCapacity capacity).Represents (.empty capacity) :=
  ⟨capacity_ofCapacity capacity, rfl⟩

theorem Represents.push (represents : stack.Represents list) (address : Int) :
    (stack.serve (.push address)).1 = (list.serve (.push address)).1 ∧
      (stack.serve (.push address)).2.Represents (list.serve (.push address)).2 := by
  have full : stack.push? (UInt16.ofInt address) = none ↔ ¬list.addresses.length < capacity := by
    rw [push?_eq_none_iff, length_live, represents.depth_eq, represents.capacity_eq, Nat.not_lt]
  dsimp only [serve, BoundedList.serve]
  cases pushed : stack.push? (UInt16.ofInt address) with
  | none =>
    rw [dif_neg (full.mp pushed)]
    exact ⟨rfl, represents⟩
  | some after =>
    have room : list.addresses.length < capacity := by
      by_contra noRoom
      rw [full.mpr noRoom] at pushed
      contradiction
    rw [dif_pos room]
    have kept : (UInt16.ofInt address).toNat = (lowWord address).toNat := by
      rw [← toNat_ofInt, Int.toNat_natCast]
    refine ⟨rfl, (push?_capacity pushed).trans represents.capacity_eq, ?_⟩
    rw [live_push? pushed, List.map_append, represents.live_eq, List.map_singleton, kept]

theorem Represents.pop (represents : stack.Represents list) :
    (stack.serve .pop).1 = (list.serve .pop).1 ∧
      (stack.serve .pop).2.Represents (list.serve .pop).2 := by
  dsimp only [serve, BoundedList.serve]
  cases popped : stack.pop? with
  | none =>
    have nothing : list.addresses = [] := by
      rw [← represents.live_eq, live_of_pop?_eq_none popped, List.map_nil]
    refine ⟨?_, represents.capacity_eq, ?_⟩
    · rw [nothing, List.getLast?_nil]
    · dsimp only
      rw [nothing, List.dropLast_nil, live_of_pop?_eq_none popped, List.map_nil]
  | some top =>
    obtain ⟨address, after⟩ := top
    have cut : list.addresses = after.live.map UInt16.toNat ++ [address.toNat] := by
      rw [← represents.live_eq, live_pop? popped, List.map_append, List.map_singleton]
    refine ⟨?_, (pop?_capacity popped).trans represents.capacity_eq, ?_⟩
    · rw [cut, List.getLast?_concat]
    · dsimp only
      rw [cut, List.dropLast_concat]

/-- A stack and the list that it stands for answer a request alike, and the stack still stands for
the list. -/
theorem Represents.serve (represents : stack.Represents list) (request : Request) :
    (stack.serve request).1 = (list.serve request).1 ∧
      (stack.serve request).2.Represents (list.serve request).2 := by
  cases request with
  | push address => exact represents.push address
  | pop => exact represents.pop
  | reset =>
    refine ⟨rfl, ?_⟩
    have cleared := represents_ofCapacity stack.capacity
    exact ⟨cleared.capacity_eq.trans represents.capacity_eq, rfl⟩

/-- So they do in a row of requests. -/
theorem Represents.answers_eq (represents : stack.Represents list) (requests : List Request) :
    stack.answers requests = list.answers requests := by
  induction requests generalizing stack list with
  | nil => rfl
  | cons request rest ih =>
    obtain ⟨answer, after⟩ := represents.serve request
    rw [answers, BoundedList.answers]
    dsimp only
    rw [answer, after.depth_eq, ih after]

/-! ## Slots without live addresses -/

/-- Two stacks of a size with the same number of live addresses in the same slots. What the other
slots hold may differ. -/
structure AgreeBelow (one other : Stack) : Prop where
  capacity_eq : one.capacity = other.capacity
  depth_eq : one.depth = other.depth
  slots_eq : ∀ slot < one.depth, one.slots[slot]? = other.slots[slot]?

theorem AgreeBelow.live_eq {one other : Stack} (agree : AgreeBelow one other) :
    one.live = other.live := by
  unfold live
  rw [← agree.depth_eq]
  apply List.ext_getElem?
  intro slot
  by_cases below : slot < one.depth
  · rw [List.getElem?_take_of_lt below, List.getElem?_take_of_lt below, Array.getElem?_toList,
      Array.getElem?_toList, agree.slots_eq slot below]
  · rw [List.getElem?_take_eq_none (by omega), List.getElem?_take_eq_none (by omega)]

theorem exists_represents (stack : Stack) :
    ∃ list : BoundedList stack.capacity, stack.Represents list := by
  have fits : (stack.live.map UInt16.toNat).length ≤ stack.capacity := by
    rw [List.length_map, length_live]
    exact stack.depth_le
  exact ⟨⟨_, fits⟩, rfl, rfl⟩

/-- What the other slots hold does not matter to what a stack stands for. -/
theorem AgreeBelow.represents {one other : Stack} (agree : AgreeBelow one other)
    {list : BoundedList capacity} (represents : one.Represents list) : other.Represents list where
  capacity_eq := agree.capacity_eq.symm.trans represents.capacity_eq
  live_eq := by rw [← agree.live_eq, represents.live_eq]

/-- Asking for a number of slots that can be counted gives a stack with that many. -/
theorem ofSlots_of_lt {count : Nat} (few : count < 0x8000000000000000) :
    ofSlots count = .ok (ofCapacity count) := by
  rw [ofSlots, cellCount, if_pos (by omega)]
  rfl

/-- A stack of any capacity answers all requests like a list with room for that many addresses. Of
any two stacks, what their slots hold at and above the depth never makes an answer differ. -/
theorem answers_as_bounded_list (capacity : Nat) :
    (capacity < 0x8000000000000000 → ofSlots capacity = .ok (ofCapacity capacity)) ∧
    (∀ requests,
      (ofCapacity capacity).answers requests = (BoundedList.empty capacity).answers requests) ∧
    ∀ one other : Stack, AgreeBelow one other → ∀ requests,
      one.answers requests = other.answers requests := by
  refine ⟨ofSlots_of_lt, (represents_ofCapacity capacity).answers_eq, ?_⟩
  intro one other agree requests
  obtain ⟨list, represents⟩ := one.exists_represents
  rw [represents.answers_eq, (agree.represents represents).answers_eq]

/-- Two stacks of two slots that hold different addresses in the slot above the live one. -/
theorem worn_answers_as_bounded_list :
    (2 < 0x8000000000000000 ∧ ofSlots 2 = .ok (ofCapacity 2)) ∧
    AgreeBelow ⟨#[0x202, 0], 1, by decide⟩ ⟨#[0x202, 0x404], 1, by decide⟩ ∧
    answers ⟨#[0x202, 0], 1, by decide⟩ [.push (-1), .push 3, .pop, .pop, .pop] =
      answers ⟨#[0x202, 0x404], 1, by decide⟩ [.push (-1), .push 3, .pop, .pop, .pop] := by
  have agree : AgreeBelow ⟨#[0x202, 0], 1, by decide⟩ ⟨#[0x202, 0x404], 1, by decide⟩ :=
    ⟨rfl, rfl, by decide⟩
  obtain ⟨slots, -, alike⟩ := answers_as_bounded_list 2
  exact ⟨⟨by decide, slots (by decide)⟩, agree, alike _ _ agree _⟩

end Stack

end Chip8
