import Mathlib.Data.List.Forall2
import Mathlib.Data.Nat.Bitwise

/-! # Spans of bits

A span is a row of neighbouring bits of a number. Joining the bits of two numbers joins them span by
span, and numbers that are shifted into spans apart from each other do not meet. So a number that is
joined from several gives each of them back (`map_read_join`) and keeps the other spans as they were
(`read_join_apart`).
-/

namespace Chip8.Numeric

/-- The bits from `low` up to, but not including, `low + width`. -/
structure Span where
  low : Nat
  width : Nat
deriving DecidableEq, Repr

namespace Span

def read (span : Span) (number : Nat) : Nat := (number >>> span.low) % 2 ^ span.width

/-- Two spans that have no bit in common. -/
def Apart (one other : Span) : Prop :=
  one.low + one.width ≤ other.low ∨ other.low + other.width ≤ one.low

instance (one other : Span) : Decidable (one.Apart other) :=
  inferInstanceAs (Decidable (_ ∨ _))

theorem Apart.symm {one other : Span} (apart : one.Apart other) : other.Apart one := Or.symm apart

/-- A number that a span has room for. -/
def Holds (span : Span) (number : Nat) : Prop := number < 2 ^ span.width

variable {one other : Span} {number : Nat}

theorem read_or (span : Span) (front back : Nat) :
    span.read (front ||| back) = span.read front ||| span.read back := by
  rw [read, Nat.shiftRight_or_distrib, Nat.or_mod_two_pow]
  rfl

theorem read_shiftLeft (holds : one.Holds number) : one.read (number <<< one.low) = number := by
  rw [read, Nat.shiftLeft_shiftRight]
  exact Nat.mod_eq_of_lt holds

theorem read_shiftLeft_apart (apart : one.Apart other) (holds : other.Holds number) :
    one.read (number <<< other.low) = 0 := by
  apply Nat.eq_of_testBit_eq
  intro i
  rw [read, Nat.testBit_mod_two_pow, Nat.testBit_shiftRight, Nat.testBit_shiftLeft,
    Nat.zero_testBit]
  by_cases inside : i < one.width
  -- A bit of the span lies below the shifted number or above its width.
  · rcases apart with below | above
    · rw [decide_eq_false (show ¬one.low + i ≥ other.low by omega), Bool.false_and, Bool.and_false]
    · have high : other.width ≤ one.low + i - other.low := by omega
      have small : number < 2 ^ (one.low + i - other.low) :=
        Nat.lt_of_lt_of_le holds (Nat.pow_le_pow_right (by decide) high)
      rw [Nat.testBit_lt_two_pow small, Bool.and_false, Bool.and_false]
  · rw [decide_eq_false inside, Bool.false_and]

end Span

/-- Numbers joined, each shifted into a span of its own. -/
def join (spans : List Span) (numbers : List Nat) : Nat :=
  (spans.zip numbers).foldr (fun part joined => part.2 <<< part.1.low ||| joined) 0

theorem join_cons (span : Span) (spans : List Span) (number : Nat) (numbers : List Nat) :
    join (span :: spans) (number :: numbers) = number <<< span.low ||| join spans numbers := rfl

variable {spans : List Span} {numbers : List Nat}

/-- Joined numbers leave the spans that are apart from theirs empty. -/
theorem read_join_apart (holds : List.Forall₂ Span.Holds spans numbers) {span : Span}
    (apart : ∀ other ∈ spans, span.Apart other) : span.read (join spans numbers) = 0 := by
  induction holds with
  | nil => simp [join, Span.read]
  | cons here _ ih =>
    have later := ih fun other member => apart other (List.mem_cons_of_mem _ member)
    rw [join_cons, Span.read_or, later, Nat.or_zero]
    exact Span.read_shiftLeft_apart (apart _ (List.mem_cons_self ..)) here

/-- Joined numbers can be read back from their spans. -/
theorem map_read_join (holds : List.Forall₂ Span.Holds spans numbers)
    (apart : spans.Pairwise Span.Apart) :
    spans.map (Span.read · (join spans numbers)) = numbers := by
  induction holds with
  | nil => rfl
  | @cons span number spans numbers here later ih =>
    obtain ⟨first, rest⟩ := List.pairwise_cons.mp apart
    have others : spans.map (Span.read · (number <<< span.low ||| join spans numbers)) =
        spans.map (Span.read · (join spans numbers)) := by
      apply List.map_congr_left
      intro other member
      rw [Span.read_or, Span.read_shiftLeft_apart (first other member).symm here, Nat.zero_or]
    rw [List.map_cons, join_cons, others, ih rest, Span.read_or, Span.read_shiftLeft here,
      read_join_apart later first, Nat.or_zero]

/-- Joined numbers end where the last of their spans does. -/
theorem join_lt (holds : List.Forall₂ Span.Holds spans numbers) {width : Nat}
    (within : ∀ span ∈ spans, span.low + span.width ≤ width) : join spans numbers < 2 ^ width := by
  induction holds with
  | nil => exact Nat.two_pow_pos width
  | @cons span number _ _ here _ ih =>
    have later := ih fun other member => within other (List.mem_cons_of_mem _ member)
    have room : span.width + span.low ≤ width :=
      Nat.add_comm .. ▸ within span (List.mem_cons_self ..)
    have shifted : number <<< span.low < 2 ^ (span.width + span.low) := by
      rw [Nat.shiftLeft_eq, Nat.pow_add]
      exact Nat.mul_lt_mul_of_pos_right here (Nat.two_pow_pos _)
    exact Nat.or_lt_two_pow
      (Nat.lt_of_lt_of_le shifted (Nat.pow_le_pow_right (by decide) room)) later

end Chip8.Numeric
