import Chip8.Clock
import Chip8.Proofs.Numeric.Binary64

/-! # When ticks end

Taking a tick off the carried seconds makes them less as long as they are not too many; where the
numbers lie too far apart the tick is lost in rounding, and then the seconds stay as they are for
good. The border is at two to the power of forty-eight seconds (`ticks_unending_iff`).
-/

namespace Chip8.Clock

open Numeric

/-- The most seconds that a tick can be taken off. -/
def longestSpan : Float := 0x1000000000000

theorem bits_tickInterval : tickInterval.toBits.toNat = 0x3F91111111111111 := rfl

theorem bits_tickTolerance : tickTolerance.toBits.toNat = 0x3E112E0BE826D695 := rfl

theorem bits_longestSpan : longestSpan.toBits.toNat = 0x42F0000000000000 := rfl

theorem fits_tickInterval : Fits 0x11111111111111 1016 := ⟨by decide, .inl (by decide)⟩

theorem bitsOf_tickInterval : bitsOf 0x11111111111111 1016 = tickInterval.toBits.toNat := rfl

/-- Up to the longest span, neighbours lie closer together than two ticks. -/
theorem gap_lt_ticks {scale : Nat} (close : scale ≤ 53 + 1016) :
    2 ^ scale < 2 * units tickInterval.toBits.toNat := by
  rw [← bitsOf_tickInterval]
  exact fits_tickInterval.gap_lt (by decide) close

/-- Beyond it, they lie farther apart. -/
theorem ticks_lt_gap {scale : Nat} (apart : 54 + 1016 ≤ scale) :
    2 * units tickInterval.toBits.toNat < 2 ^ scale := by
  rw [← bitsOf_tickInterval]
  exact fits_tickInterval.lt_gap (by decide) apart

theorem isPositive_tickInterval : IsPositive tickInterval.toBits.toNat := by decide

theorem isPositive_tickTolerance : IsPositive tickTolerance.toBits.toNat := by decide

theorem tickInterval_finite : tickInterval.toBits.toNat < infinityBits := by decide

theorem tickTolerance_finite : tickTolerance.toBits.toNat < infinityBits := by decide

/-- The bits of the seconds decide whether there are too many of them. -/
theorem longestSpan_lt_iff {seconds : Float} : longestSpan < seconds ↔
    IsPositive seconds.toBits.toNat ∧ 0x42F0000000000000 < seconds.toBits.toNat := by
  have positive : IsPositive longestSpan.toBits.toNat := by decide
  rw [lt_iff_bits positive, bits_longestSpan]

theorem measure_eq {seconds : Float} (positive : IsPositive seconds.toBits.toNat) :
    measure seconds = seconds.toBits.toNat :=
  if_pos (zero_lt_iff.mpr positive)

theorem tickDue_iff {seconds : Float} :
    tickDue seconds = true ↔ tickInterval ≤ seconds + tickTolerance := by
  unfold tickDue
  exact decide_eq_true_iff

/-- No tick is due where there are no seconds. -/
theorem positive_of_tickDue {seconds : Float} (due : tickDue seconds = true) :
    IsPositive seconds.toBits.toNat := by
  by_contra none
  obtain ⟨positive, enough⟩ := (le_iff_bits isPositive_tickInterval).mp (tickDue_iff.mp due)
  have few := add_le_of_not_positive none isPositive_tickTolerance tickTolerance_finite positive
  rw [bits_tickInterval] at enough
  rw [bits_tickTolerance] at few
  omega

/-- A tick makes the carried seconds less where the numbers lie close enough together. -/
theorem measure_sub_lt {seconds : Float} (positive : IsPositive seconds.toBits.toNat)
    (few : seconds.toBits.toNat ≤ 0x42F0000000000000) :
    measure (seconds - tickInterval) < measure seconds := by
  have finite : seconds.toBits.toNat < infinityBits := by
    unfold infinityBits fractionCount
    omega
  obtain ⟨some, none⟩ := rounds_sub positive finite isPositive_tickInterval tickInterval_finite
  rw [measure_eq positive, measure]
  split
  · rename_i left
    by_cases more : 0 < (units seconds.toBits.toNat - units tickInterval.toBits.toNat : Int)
    · obtain ⟨nearest, nearby, same⟩ := some more
      obtain ⟨before, next⟩ := Nat.exists_eq_succ_of_ne_zero positive.1.ne'
      have close : scaleOf before ≤ 53 + 1016 := by
        unfold scaleOf fractionCount
        omega
      have less := gap_lt_ticks close
      have gap := units_succ before
      rw [next, Nat.succ_eq_add_one, gap] at nearby more
      have under : nearest ≤ before := nearby.le_of_middle (by omega)
      omega
    · exact absurd (zero_lt_iff.mp left) (none (not_lt.mp more))
  · exact positive.1

section manySeconds

variable {seconds : Float} (many : longestSpan < seconds)

include many

/-- A tick is lost where the numbers lie too far apart. -/
theorem sub_tickInterval : seconds - tickInterval = seconds := by
  obtain ⟨positive, many⟩ := longestSpan_lt_iff.mp many
  rcases positive.2.lt_or_eq with finite | infinite
  · obtain ⟨some, _⟩ := rounds_sub positive finite isPositive_tickInterval tickInterval_finite
    obtain ⟨before, next⟩ := Nat.exists_eq_succ_of_ne_zero positive.1.ne'
    have apart : 54 + 1016 ≤ scaleOf before := by
      unfold scaleOf fractionCount
      omega
    have less := ticks_lt_gap apart
    have gap := units_succ before
    rw [next, Nat.succ_eq_add_one, gap] at some
    obtain ⟨nearest, nearby, same⟩ := some (by omega)
    have under : nearest ≤ before + 1 := nearby.le (by omega)
    have beyond : before < nearest := nearby.above_of_middle (by omega)
    exact eq_of_bits (by omega)
  · rw [eq_infinity infinite]
    rfl

/-- A tick is due whenever there are as many seconds as that. -/
theorem tickDue_of_many : tickDue seconds = true := by
  obtain ⟨positive, many⟩ := longestSpan_lt_iff.mp many
  rw [tickDue_iff]
  rcases positive.2.lt_or_eq with finite | infinite
  · rw [le_iff_bits isPositive_tickInterval, bits_tickInterval]
    obtain ⟨some, _⟩ := rounds_add positive finite isPositive_tickTolerance tickTolerance_finite
    obtain ⟨before, next⟩ := Nat.exists_eq_succ_of_ne_zero positive.1.ne'
    have gap := units_succ before
    have size := Nat.two_pow_pos (scaleOf before)
    rw [next, Nat.succ_eq_add_one, gap] at some
    obtain ⟨nearest, nearby, same⟩ := some (by omega)
    have beyond : before < nearest := nearby.above_of_middle (by omega)
    unfold IsPositive
    omega
  · rw [eq_infinity infinite]
    decide

end manySeconds

theorem ticksAfter_unending_iff (before : List Float) (seconds : Float) :
    (ticksAfter before seconds).2 = true ↔ longestSpan < seconds := by
  fun_induction ticksAfter before seconds with
  | case1 before seconds due left less ih =>
    rw [ih]
    constructor
    · intro many
      obtain ⟨positive, large⟩ := longestSpan_lt_iff.mp many
      have more := positive_of_tickDue due
      rw [measure_eq positive, measure_eq more] at less
      exact longestSpan_lt_iff.mpr ⟨more, large.trans less⟩
    · intro many
      have same : left = seconds := sub_tickInterval many
      rw [same]
      exact many
  | case2 before seconds due left stuck =>
    refine iff_of_true rfl ?_
    have positive := positive_of_tickDue due
    by_contra few
    rw [longestSpan_lt_iff, and_iff_right positive, not_lt] at few
    exact stuck (measure_sub_lt positive few)
  | case3 before seconds none => exact iff_of_false nofun fun many => none (tickDue_of_many many)

/-- The ticks have no end just when more seconds are carried than a tick can be taken off. -/
theorem ticks_unending_iff (seconds : Float) :
    (ticks seconds).2 = true ↔ longestSpan < seconds :=
  ticksAfter_unending_iff [] seconds

end Chip8.Clock
