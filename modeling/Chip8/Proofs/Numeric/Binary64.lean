import Mathlib.Algebra.Order.Ring.Int
import Mathlib.Order.Monotone.Basic
import Mathlib.Tactic.Ring
import Chip8.Numeric.WholePart

/-! # Sums and differences of binary64 numbers

Every finite binary64 number is a whole multiple of the smallest positive one. So sums and
differences are exact as whole numbers of these units, and what is left to say is how such a number
of units is rounded. Positive numbers lie in the order of their bits, and the bits of a rounded
number are next to none that are nearer (`Nearest`).
-/

namespace Chip8.Numeric

/-! ## Bits of positive numbers -/

/-- The number of fractions that a mantissa can have at one exponent. -/
def fractionCount : Nat := 0x10000000000000

def infinityBits : Nat := 2047 * fractionCount

def mantissaOf (bits : Nat) : Nat :=
  if bits < fractionCount then bits else fractionCount + bits % fractionCount

/-- The power of two that the mantissa is scaled by, counted from the smallest one. -/
def scaleOf (bits : Nat) : Nat := bits / fractionCount - 1

/-- The number of smallest units in a positive number, by its bits. -/
def units (bits : Nat) : Nat := mantissaOf bits * 2 ^ scaleOf bits

/-- The bits lie in the order of the scales, and at the same scale in that of the mantissas. -/
theorem lt_iff_scale_mantissa {one other : Nat} :
    one < other ↔ scaleOf one < scaleOf other ∨
      (scaleOf one = scaleOf other ∧ mantissaOf one < mantissaOf other) := by
  unfold scaleOf mantissaOf fractionCount
  split <;> split <;> omega

/-- A mantissa that needs no rounding at its scale. The greatest belongs to the next scale too. -/
structure Fits (mantissa scale : Nat) : Prop where
  most : mantissa ≤ 2 * fractionCount
  least : fractionCount ≤ mantissa ∨ scale = 0

def bitsOf (mantissa scale : Nat) : Nat := scale * fractionCount + mantissa

theorem Fits.units_eq {mantissa scale : Nat} (fits : Fits mantissa scale) :
    units (bitsOf mantissa scale) = mantissa * 2 ^ scale := by
  obtain ⟨most, least⟩ := fits
  by_cases last : mantissa = 2 * fractionCount
  · have same : mantissaOf (bitsOf mantissa scale) = fractionCount ∧
        scaleOf (bitsOf mantissa scale) = scale + 1 := by
      unfold mantissaOf scaleOf bitsOf fractionCount at *
      split <;> omega
    rw [units, same.1, same.2, last, pow_succ]
    ring
  · have same : mantissaOf (bitsOf mantissa scale) = mantissa ∧
        scaleOf (bitsOf mantissa scale) = scale := by
      unfold mantissaOf scaleOf bitsOf fractionCount at *
      split <;> omega
    rw [units, same.1, same.2]

theorem bitsOf_mantissaOf (bits : Nat) : bitsOf (mantissaOf bits) (scaleOf bits) = bits := by
  unfold bitsOf mantissaOf scaleOf fractionCount
  split <;> omega

theorem mantissaOf_lt (bits : Nat) : mantissaOf bits < 2 * fractionCount := by
  unfold mantissaOf fractionCount
  split <;> omega

theorem fits_mantissaOf (bits : Nat) : Fits (mantissaOf bits) (scaleOf bits) := by
  refine ⟨(mantissaOf_lt bits).le, ?_⟩
  unfold mantissaOf scaleOf fractionCount
  split <;> omega

theorem fits_succ (bits : Nat) : Fits (mantissaOf bits + 1) (scaleOf bits) :=
  ⟨mantissaOf_lt bits, (fits_mantissaOf bits).least.imp_left Nat.le_succ_of_le⟩

/-- Between neighbours lies one unit of the last place of the smaller one. -/
theorem units_succ (bits : Nat) : units (bits + 1) = units bits + 2 ^ scaleOf bits := by
  have next : bitsOf (mantissaOf bits + 1) (scaleOf bits) = bits + 1 := by
    have same := bitsOf_mantissaOf bits
    unfold bitsOf at same ⊢
    omega
  rw [← next, (fits_succ bits).units_eq, units, add_one_mul]

theorem units_strictMono : StrictMono units :=
  strictMono_nat_of_lt_succ fun bits => by
    rw [units_succ]
    exact Nat.lt_add_of_pos_right (Nat.two_pow_pos _)

/-- Twice a number exceeds a gap that is small compared with its mantissa. -/
theorem Fits.gap_lt {mantissa scale place : Nat} (fits : Fits mantissa scale)
    (large : 2 ^ 53 < 2 * mantissa) (close : place ≤ 53 + scale) :
    2 ^ place < 2 * units (bitsOf mantissa scale) :=
  calc 2 ^ place
    _ ≤ 2 ^ 53 * 2 ^ scale := (pow_le_pow_right₀ one_le_two close).trans_eq (pow_add ..)
    _ < 2 * mantissa * 2 ^ scale := (Nat.mul_lt_mul_right (Nat.two_pow_pos scale)).mpr large
    _ = 2 * units (bitsOf mantissa scale) := by rw [fits.units_eq, mul_assoc]

/-- A gap that is large compared with the mantissa of a number exceeds twice the number. -/
theorem Fits.lt_gap {mantissa scale place : Nat} (fits : Fits mantissa scale)
    (small : 2 * mantissa < 2 ^ 54) (apart : 54 + scale ≤ place) :
    2 * units (bitsOf mantissa scale) < 2 ^ place :=
  calc 2 * units (bitsOf mantissa scale)
    _ = 2 * mantissa * 2 ^ scale := by rw [fits.units_eq, mul_assoc]
    _ < 2 ^ 54 * 2 ^ scale := (Nat.mul_lt_mul_right (Nat.two_pow_pos scale)).mpr small
    _ ≤ 2 ^ place := (pow_add ..).symm.trans_le (pow_le_pow_right₀ one_le_two apart)

/-! ## Rounding -/

/-- The number of these bits is as near to an amount of units as its neighbours are. -/
structure Nearest (amount bits : Nat) : Prop where
  above : 2 * amount ≤ units bits + units (bits + 1)
  below : ∀ before, before + 1 = bits → units before + units bits ≤ 2 * amount

/-- A mantissa that misses the amount by no more than half a unit of the last place is nearest,
provided that the amount reaches the least mantissa of its scale. -/
theorem Fits.nearest {amount mantissa scale : Nat} (fits : Fits mantissa scale)
    (above : 2 * amount ≤ 2 * (mantissa * 2 ^ scale) + 2 ^ scale)
    (below : 2 * (mantissa * 2 ^ scale) ≤ 2 * amount + 2 ^ scale)
    (reached : fractionCount * 2 ^ scale ≤ amount ∨ scale = 0) :
    Nearest amount (bitsOf mantissa scale) := by
  obtain ⟨most, least⟩ := fits
  constructor
  · have gap : 2 ^ scale ≤ 2 ^ scaleOf (bitsOf mantissa scale) := by
      refine Nat.pow_le_pow_right Nat.two_pos ?_
      unfold scaleOf bitsOf fractionCount at *
      omega
    rw [units_succ, Fits.units_eq ⟨most, least⟩]
    omega
  · intro before next
    have here : units before + 2 ^ scaleOf before = mantissa * 2 ^ scale := by
      rw [← units_succ, next, Fits.units_eq ⟨most, least⟩]
    rw [← next, units_succ]
    by_cases edge : fractionCount < mantissa ∨ scale = 0
    · have gap : 2 ^ scale ≤ 2 ^ scaleOf before := by
        refine Nat.pow_le_pow_right Nat.two_pos ?_
        unfold scaleOf bitsOf fractionCount at *
        omega
      omega
    · -- below the least mantissa of a scale the numbers lie closer together
      have same : mantissa = fractionCount := by omega
      have under := reached.resolve_right fun zero => edge (.inr zero)
      have gap := Nat.two_pow_pos (scaleOf before)
      rw [same] at here
      omega

section rounding

open Float.Model
open Float.Model.UnpackedFloat

/-- What the residual bits of a mantissa say about an amount that was shifted to it. -/
structure Leaves (amount shift : Nat) (shifted : ExtendedMantissa) : Prop where
  rest : ∃ rest, amount = shifted.mantissa * 2 ^ shift + rest ∧
    match shifted.roundBit, shifted.stickyBit with
    | false, false => rest = 0
    | false, true => 0 < rest ∧ 2 * rest < 2 ^ shift
    | true, false => 2 * rest = 2 ^ shift
    | true, true => 2 ^ shift < 2 * rest ∧ rest < 2 ^ shift

theorem Leaves.shiftRightOne {amount shift : Nat} {shifted : ExtendedMantissa}
    (leaves : Leaves amount shift shifted) : Leaves amount (shift + 1) shifted.shiftRightOne := by
  obtain ⟨mantissa, roundBit, stickyBit⟩ := shifted
  obtain ⟨rest, same, residue⟩ := leaves
  have halves := Nat.div_add_mod mantissa 2
  refine ⟨mantissa % 2 * 2 ^ shift + rest, ?_, ?_⟩
  · change amount = mantissa / 2 * 2 ^ (shift + 1) + (mantissa % 2 * 2 ^ shift + rest)
    rw [same, pow_succ]
    conv_lhs => rw [← halves]
    ring
  · have size := Nat.two_pow_pos shift
    rw [pow_succ]
    generalize 2 ^ shift = power at *
    change match mantissa % 2 != 0, roundBit || stickyBit with
      | false, false => _
      | false, true => _
      | true, false => _
      | true, true => _
    rcases Nat.mod_two_eq_zero_or_one mantissa with even | odd
    · rw [even]
      cases roundBit <;> cases stickyBit <;> simp_all <;> omega
    · rw [odd]
      cases roundBit <;> cases stickyBit <;> simp_all <;> omega

theorem leaves_shiftRight (amount shift : Nat) :
    Leaves amount shift (ExtendedMantissa.ofMantissaAndAccuracy amount .exact >>> shift) := by
  induction shift with
  | zero =>
    have same : amount = amount * 2 ^ 0 + 0 := (mul_one amount).symm
    exact ⟨0, same, rfl⟩
  | succ shift ih => exact ih.shiftRightOne

/-- A rounded mantissa misses the amount by no more than half a unit of the last place. -/
theorem Leaves.rounded {amount shift : Nat} {shifted : ExtendedMantissa}
    (leaves : Leaves amount shift shifted) :
    2 * amount ≤ 2 * (shifted.roundedMantissa * 2 ^ shift) + 2 ^ shift ∧
      2 * (shifted.roundedMantissa * 2 ^ shift) ≤ 2 * amount + 2 ^ shift ∧
      shifted.mantissa ≤ shifted.roundedMantissa ∧
      shifted.roundedMantissa ≤ shifted.mantissa + 1 := by
  obtain ⟨mantissa, roundBit, stickyBit⟩ := shifted
  obtain ⟨rest, rfl, residue⟩ := leaves
  have parity := Nat.mod_two_eq_zero_or_one mantissa
  have size := Nat.two_pow_pos shift
  have up : (mantissa + 1) * 2 ^ shift = mantissa * 2 ^ shift + 2 ^ shift := add_one_mul _ _
  cases roundBit <;> cases stickyBit <;>
    simp only [ExtendedMantissa.roundedMantissa, ExtendedMantissa.accuracy,
      Accuracy.roundToNearestEven] at residue ⊢
  · omega
  · omega
  · rcases parity with even | odd
    · rw [even, Nat.add_zero]
      omega
    · rw [odd]
      omega
  · omega

theorem Leaves.scaled {amount shift : Nat} {shifted : ExtendedMantissa}
    (leaves : Leaves amount shift shifted) (more : Nat) :
    Leaves (amount * 2 ^ more) (shift + more) shifted := by
  obtain ⟨mantissa, roundBit, stickyBit⟩ := shifted
  obtain ⟨rest, rfl, residue⟩ := leaves
  refine ⟨rest * 2 ^ more, ?_, ?_⟩
  · rw [pow_add]
    ring
  · have size := Nat.two_pow_pos more
    rw [pow_add]
    cases roundBit <;> cases stickyBit <;> simp only at residue ⊢
    · rw [residue, zero_mul]
    · exact ⟨Nat.mul_pos residue.1 size,
        by rw [← mul_assoc]; exact (Nat.mul_lt_mul_right size).mpr residue.2⟩
    · rw [← residue, mul_assoc]
    · exact ⟨by rw [← mul_assoc]; exact (Nat.mul_lt_mul_right size).mpr residue.1,
        (Nat.mul_lt_mul_right size).mpr residue.2⟩

theorem Leaves.mantissa_eq {amount shift : Nat} {shifted : ExtendedMantissa}
    (leaves : Leaves amount shift shifted) : shifted.mantissa = amount / 2 ^ shift := by
  obtain ⟨mantissa, roundBit, stickyBit⟩ := shifted
  obtain ⟨rest, rfl, residue⟩ := leaves
  have size := Nat.two_pow_pos shift
  have small : rest < 2 ^ shift := by
    cases roundBit <;> cases stickyBit <;> simp only at residue <;> omega
  rw [Nat.mul_comm, Nat.mul_add_div size, Nat.div_eq_of_lt small, Nat.add_zero]

/-- Rounding at a scale that leaves room for the mantissa gives the nearest number. -/
theorem Leaves.nearest {amount shift : Nat} {shifted : ExtendedMantissa}
    (leaves : Leaves amount shift shifted) (room : amount < 2 * fractionCount * 2 ^ shift)
    (reached : fractionCount * 2 ^ shift ≤ amount ∨ shift = 0) :
    Fits shifted.roundedMantissa shift ∧
      Nearest amount (bitsOf shifted.roundedMantissa shift) := by
  obtain ⟨above, below, least, most⟩ := leaves.rounded
  have fits : Fits shifted.roundedMantissa shift := by
    rw [leaves.mantissa_eq] at least most
    constructor
    · exact most.trans ((Nat.div_lt_iff_lt_mul (Nat.two_pow_pos shift)).mpr room)
    · rcases reached with reached | none
      · exact .inl (((Nat.le_div_iff_mul_le (Nat.two_pow_pos shift)).mpr reached).trans least)
      · exact .inr none
  exact ⟨fits, fits.nearest above below reached⟩

/-! ## Packing -/

theorem toNat_packComponents {sign : Sign} {exponent : BitVec 11} {fraction : BitVec 52} :
    (packComponents Format.binary64 sign exponent fraction).toNat =
      (sign.toBitVec.toNat * 2048 + exponent.toNat) * fractionCount + fraction.toNat := by
  have low : exponent.toNat < 2 ^ 11 := exponent.isLt
  have rest : fraction.toNat < 2 ^ 52 := fraction.isLt
  unfold packComponents
  rw [BitVec.toNat_append, ← Nat.shiftLeft_add_eq_or_of_lt rest, BitVec.toNat_append,
    ← Nat.shiftLeft_add_eq_or_of_lt low, Nat.shiftLeft_eq, Nat.shiftLeft_eq]
  rfl

theorem toNat_packedInfinity : (packedInfinity Format.binary64 .positive).toNat = infinityBits := by
  decide

theorem biased_exponent (scale : Nat) :
    ((scale : Int) - 1074 + Format.binary64.exponentBias +
      (Format.binary64.mantissaBitsWithoutImplicit : Int)).toNat = scale + 1 := by
  change ((scale : Int) - 1074 + (1023 : Nat) + (52 : Nat)).toNat = scale + 1
  omega

/-- A mantissa has its full length just when it is no smaller than the number of fractions. -/
theorem full_length_iff {mantissa : Nat} (positive : 0 < mantissa)
    (small : mantissa < 2 * fractionCount) :
    mantissa.log2 + 1 = Format.binary64.mantissaBits ↔ fractionCount ≤ mantissa := by
  change mantissa.log2 + 1 = 53 ↔ 2 ^ 52 ≤ mantissa
  have log := Nat.le_log2 (k := 52) positive.ne'
  have next : ¬53 ≤ mantissa.log2 := by
    rw [Nat.le_log2 positive.ne', not_le]
    exact small
  omega

/-- The bits of a positive number that fits, unless they reach those of the infinity. -/
theorem toNat_pack {mantissa : Nat} {exponent : Int} (positive : 0 < mantissa) {scale : Nat}
    (scaled : exponent = scale - 1074) (fits : Fits mantissa scale)
    (small : mantissa < 2 * fractionCount) :
    (UnpackedFloat.pack Format.binary64 (.finite .positive mantissa exponent positive)).toNat =
      min (bitsOf mantissa scale) infinityBits := by
  obtain ⟨_, least⟩ := fits
  have normal := full_length_iff positive small
  unfold UnpackedFloat.pack
  dsimp only
  rw [scaled, biased_exponent]
  split
  · rename_i large
    change 2048 ≤ scale + 1 + 1 at large
    have full := least.resolve_right (by omega)
    refine toNat_packedInfinity.trans (min_eq_right ?_).symm
    unfold bitsOf infinityBits fractionCount at *
    omega
  · rename_i inside
    change ¬2048 ≤ scale + 1 + 1 at inside
    have below : bitsOf mantissa scale ≤ infinityBits := by
      unfold bitsOf infinityBits fractionCount at *
      omega
    rw [min_eq_left below]
    split
    · rename_i full
      have front := normal.mp full
      refine toNat_packComponents.trans ?_
      rw [BitVec.toNat_ofNat, BitVec.toNat_ofNat]
      change (0 * 2048 + (scale + 1) % 2048) * fractionCount + mantissa % fractionCount = _
      unfold bitsOf fractionCount at *
      omega
    · rename_i short
      have least := least.resolve_left fun front => short (normal.mpr front)
      refine toNat_packComponents.trans ?_
      rw [BitVec.toNat_ofNat]
      change (0 * 2048 + 0) * fractionCount + mantissa % fractionCount = _
      unfold bitsOf fractionCount at *
      omega

/-! ## Rounded numbers -/

/-- The scale at which an amount of units has a mantissa of full length, if it has one at all. -/
def scaleFor (amount : Nat) : Nat := amount.log2 - 52

theorem lt_of_scaleFor (amount : Nat) :
    amount < 2 * fractionCount * 2 ^ scaleFor amount := by
  have size : 2 * fractionCount = 2 ^ 53 := by decide
  rw [size, ← pow_add]
  refine Nat.lt_log2_self.trans_le (Nat.pow_le_pow_right Nat.two_pos ?_)
  unfold scaleFor
  omega

theorem scaleFor_reached {amount : Nat} (positive : 0 < amount) :
    fractionCount * 2 ^ scaleFor amount ≤ amount ∨ scaleFor amount = 0 := by
  have size : fractionCount = 2 ^ 52 := by decide
  by_cases short : amount.log2 ≤ 52
  · exact .inr (Nat.sub_eq_zero_of_le short)
  · refine .inl ?_
    rw [size, ← pow_add]
    refine (Nat.pow_le_pow_right Nat.two_pos ?_).trans (Nat.log2_self_le positive.ne')
    unfold scaleFor
    omega

theorem scaleFor_greatest (scale : Nat) :
    scaleFor (2 * fractionCount * 2 ^ scale) = scale + 1 := by
  have size : 2 * fractionCount = 2 ^ 53 := by decide
  rw [size, ← pow_add, scaleFor, Nat.log2_two_pow]
  omega

theorem scaleFor_le {mantissa : Nat} (positive : 0 < mantissa)
    (small : mantissa < 2 * fractionCount) (scale : Nat) :
    scaleFor (mantissa * 2 ^ scale) ≤ scale := by
  have size := Nat.two_pow_pos scale
  have below : mantissa * 2 ^ scale < 2 ^ (53 + scale) := by
    rw [pow_add]
    exact (Nat.mul_lt_mul_right size).mpr small
  have short := (Nat.log2_lt (Nat.mul_pos positive size).ne').mpr below
  unfold scaleFor
  omega

/-- The scale of a rounded number is that of its amount of units, and no less than the smallest. -/
theorem targetExponent_eq {mantissa shift : Nat} {exponent : Int} (positive : 0 < mantissa)
    (scaled : exponent = shift - 1074) :
    Format.binary64.targetExponent (totalExponent mantissa exponent) =
      scaleFor (mantissa * 2 ^ shift) - 1074 := by
  have size := Nat.two_pow_pos shift
  have log : (mantissa * 2 ^ shift).log2 = mantissa.log2 + shift := by
    rw [Nat.log2_eq_iff (Nat.mul_pos positive size).ne', Nat.add_right_comm, pow_add, pow_add]
    exact ⟨Nat.mul_le_mul_right _ (Nat.log2_self_le positive.ne'),
      (Nat.mul_lt_mul_right size).mpr Nat.lt_log2_self⟩
  have least : Format.binary64.minExponent = -1074 := by decide
  unfold Format.targetExponent totalExponent scaleFor
  rw [log, least, scaled]
  change max ((mantissa.log2 : Int) + 1 + (shift - 1074) - (53 : Nat)) (-1074) = _
  omega

/-- A mantissa at a scale is brought to the scale of its amount of units, and what is cut off of it
is kept in the residual bits. -/
theorem leaves_shiftToTargetExponent {mantissa shift : Nat} {exponent : Int}
    (positive : 0 < mantissa) (scaled : exponent = shift - 1074)
    (low : shift ≤ scaleFor (mantissa * 2 ^ shift)) :
    Leaves (mantissa * 2 ^ shift) (scaleFor (mantissa * 2 ^ shift))
        (shiftToTargetExponent Format.binary64 mantissa exponent .exact).1 ∧
      (shiftToTargetExponent Format.binary64 mantissa exponent .exact).2 =
        scaleFor (mantissa * 2 ^ shift) - 1074 := by
  have target := targetExponent_eq positive scaled
  obtain ⟨more, same⟩ := Nat.exists_eq_add_of_le low
  unfold shiftToTargetExponent shiftToExponent
  rw [target]
  have amount : ((scaleFor (mantissa * 2 ^ shift) : Int) - 1074 - exponent).toNat = more := by
    rw [scaled]
    omega
  dsimp only
  rw [amount]
  constructor
  · have cut := (leaves_shiftRight mantissa more).scaled shift
    rwa [Nat.add_comm, ← same] at cut
  · rw [scaled]
    omega

/-- A mantissa that fits its scale stays as it is, unless it is the greatest. -/
theorem shiftToTargetExponent_fits {mantissa scale : Nat} {exponent : Int}
    (positive : 0 < mantissa) (scaled : exponent = scale - 1074) (fits : Fits mantissa scale) :
    ∃ short long : Nat, 0 < short ∧ short < 2 * fractionCount ∧ Fits short long ∧
      bitsOf short long = bitsOf mantissa scale ∧
      (shiftToTargetExponent Format.binary64 mantissa exponent .exact).1.mantissa = short ∧
      (shiftToTargetExponent Format.binary64 mantissa exponent .exact).2 = long - 1074 := by
  have target := targetExponent_eq positive scaled
  unfold shiftToTargetExponent shiftToExponent
  rw [target]
  dsimp only
  obtain ⟨most, least⟩ := fits
  by_cases last : mantissa = 2 * fractionCount
  · have amount : ((scaleFor (mantissa * 2 ^ scale) : Int) - 1074 - exponent).toNat = 1 := by
      rw [last, scaleFor_greatest, scaled]
      omega
    rw [amount, scaled]
    refine ⟨fractionCount, scale + 1, by decide, by decide, ⟨by decide, .inl le_rfl⟩, ?_, ?_, ?_⟩
    · rw [last, bitsOf, bitsOf, add_one_mul, two_mul, Nat.add_assoc]
    · change mantissa / 2 = fractionCount
      rw [last]
      decide
    · omega
  · have small : mantissa < 2 * fractionCount := by omega
    have log := scaleFor_le positive small scale
    have amount : ((scaleFor (mantissa * 2 ^ scale) : Int) - 1074 - exponent).toNat = 0 := by
      rw [scaled]
      omega
    rw [amount, scaled]
    refine ⟨mantissa, scale, positive, small, ⟨most, least⟩, rfl, rfl, ?_⟩
    omega

theorem Nearest.positive {amount mantissa scale : Nat} (fits : Fits mantissa scale)
    (nearest : Nearest amount (bitsOf mantissa scale)) (positive : 0 < amount) : 0 < mantissa := by
  by_contra none
  obtain rfl : mantissa = 0 := by omega
  obtain rfl : scale = 0 := by
    rcases fits.least with full | zero
    · unfold fractionCount at full
      omega
    · exact zero
  have above := nearest.above
  have one : units (bitsOf 0 0) + units (bitsOf 0 0 + 1) = 1 := by decide
  omega

theorem finite_congr {sign : Sign} {mantissa other : Nat} {exponent otherExponent : Int}
    {positive : 0 < mantissa} (sameMantissa : mantissa = other)
    (sameExponent : exponent = otherExponent) :
    UnpackedFloat.finite sign mantissa exponent positive =
      .finite sign other otherExponent (sameMantissa ▸ positive) := by
  subst sameMantissa sameExponent
  rfl

/-- A number whose mantissa is not too short for its scale is rounded to the nearest number. -/
theorem exists_roundWithAccuracy (sign : Sign) {mantissa shift : Nat} {exponent : Int}
    (positive : 0 < mantissa) (scaled : exponent = shift - 1074)
    (low : shift ≤ scaleFor (mantissa * 2 ^ shift)) :
    ∃ (rounded scale : Nat) (some : 0 < rounded),
      roundWithAccuracy Format.binary64 sign mantissa exponent .exact =
        .finite sign rounded (scale - 1074) some ∧
      rounded < 2 * fractionCount ∧ Fits rounded scale ∧
      Nearest (mantissa * 2 ^ shift) (bitsOf rounded scale) := by
  have amount : 0 < mantissa * 2 ^ shift := Nat.mul_pos positive (Nat.two_pow_pos shift)
  obtain ⟨leaves, exponent₁⟩ := leaves_shiftToTargetExponent positive scaled low
  obtain ⟨fits, nearest⟩ := leaves.nearest (lt_of_scaleFor _) (scaleFor_reached amount)
  obtain ⟨short, long, some, small, fits', same, mantissa₂, exponent₂⟩ :=
    shiftToTargetExponent_fits (nearest.positive fits amount) exponent₁ fits
  refine ⟨short, long, some, ?_, small, fits', by rwa [same]⟩
  unfold roundWithAccuracy
  dsimp only
  rw [dif_neg (by rw [mantissa₂]; exact some.ne')]
  exact finite_congr mantissa₂ exponent₂

/-- Rounding keeps the sign and gives the nearest number. -/
theorem exists_round (sign : Sign) {mantissa shift : Nat} {exponent : Int}
    (positive : 0 < mantissa) (scaled : exponent = shift - 1074) :
    ∃ (rounded scale : Nat) (some : 0 < rounded),
      UnpackedFloat.round Format.binary64 sign mantissa exponent =
        .finite sign rounded (scale - 1074) some ∧
      rounded < 2 * fractionCount ∧ Fits rounded scale ∧
      Nearest (mantissa * 2 ^ shift) (bitsOf rounded scale) := by
  have target := targetExponent_eq positive scaled
  obtain ⟨less, lower⟩ : ∃ less, less = shift - scaleFor (mantissa * 2 ^ shift) := ⟨_, rfl⟩
  have amount : (exponent - (scaleFor (mantissa * 2 ^ shift) - 1074)).toNat = less := by
    rw [scaled]
    omega
  have longer : mantissa * 2 ^ less * 2 ^ (shift - less) = mantissa * 2 ^ shift := by
    rw [Nat.mul_assoc, ← pow_add]
    congr 2
    omega
  have rescaled : exponent - less = (shift - less : Nat) - 1074 := by
    rw [scaled]
    omega
  have rounds := exists_roundWithAccuracy sign (Nat.mul_pos positive (Nat.two_pow_pos less))
    rescaled (by rw [longer]; omega)
  rw [longer] at rounds
  unfold UnpackedFloat.round decreaseExponent
  rw [target]
  dsimp only
  rw [amount, Nat.shiftLeft_eq]
  exact rounds

/-! ## Sums as whole numbers of units -/

theorem signBit_pack {mantissa : Nat} {exponent : Int} (positive : 0 < mantissa) :
    2 ^ 63 ≤ (UnpackedFloat.pack Format.binary64
      (.finite .negative mantissa exponent positive)).toNat := by
  have front {exponent : BitVec 11} {fraction : BitVec 52} :
      2 ^ 63 ≤ (packComponents Format.binary64 .negative exponent fraction).toNat := by
    rw [toNat_packComponents]
    change 2 ^ 63 ≤ (1 * 2048 + _) * fractionCount + _
    unfold fractionCount
    omega
  unfold UnpackedFloat.pack
  dsimp only
  split
  · exact front
  · split <;> exact front

/-- Whether bits are those of a positive number, which may be infinite. -/
def IsPositive (bits : Nat) : Prop := 0 < bits ∧ bits ≤ infinityBits

instance (bits : Nat) : Decidable (IsPositive bits) := inferInstanceAs (Decidable (_ ∧ _))

/-- The rounded value of a whole number of units, which may be negative. -/
structure Rounds (amount : Int) (bits : Nat) : Prop where
  positive : 0 < amount → ∃ nearest, Nearest amount.toNat nearest ∧ bits = min nearest infinityBits
  negative : amount ≤ 0 → ¬IsPositive bits

/-- Normalizing rounds a sum to the nearest number. -/
theorem rounds_normalize {sum amount : Int} {shift : Nat} {exponent : Int}
    (scaled : exponent = shift - 1074) (same : sum * 2 ^ shift = amount) :
    Rounds amount (UnpackedFloat.pack Format.binary64
      (UnpackedFloat.normalize Format.binary64 sum exponent .positive)).toNat := by
  have size : (0 : Int) < 2 ^ shift := Int.pow_pos (by decide)
  subst same
  unfold UnpackedFloat.normalize
  constructor
  · intro some
    have positive := (mul_pos_iff_of_pos_right size).mp some
    obtain ⟨rounded, scale, some, rounds, small, fits, nearest⟩ :=
      exists_round .positive (show 0 < sum.toNat by omega) scaled
    have above : compare sum 0 = .gt := compare_gt_iff_gt.mpr positive
    have whole : sum * 2 ^ shift = (sum.toNat * 2 ^ shift : Nat) := by
      rw [Nat.cast_mul, Int.toNat_of_nonneg positive.le, Nat.cast_pow, Nat.cast_ofNat]
    rw [above, whole, Int.toNat_natCast]
    dsimp only
    rw [rounds, toNat_pack some rfl fits small]
    exact ⟨_, nearest, rfl⟩
  · intro none inside
    rcases (nonpos_of_mul_nonpos_left none size).lt_or_eq with below | rfl
    · have less : compare sum 0 = .lt := compare_lt_iff_lt.mpr below
      obtain ⟨rounded, scale, some, rounds, _⟩ :=
        exists_round .negative (show 0 < (-sum).toNat by omega) scaled
      rw [less] at inside
      dsimp only at inside
      rw [rounds] at inside
      have signed := @signBit_pack rounded (scale - 1074) some
      have most := inside.2
      unfold infinityBits fractionCount at most
      omega
    · have same : compare (0 : Int) 0 = .eq := rfl
      rw [same] at inside
      dsimp only at inside
      exact absurd inside.1 (by decide)

/-! ## Bits of numbers -/

theorem toNat_unpackMantissa (bits : BitVec 64) :
    (@unpackMantissa Format.binary64 bits).toNat = bits.toNat % fractionCount := by
  unfold unpackMantissa
  rw [BitVec.toNat_cast, BitVec.extractLsb_toNat, Nat.shiftRight_zero]
  rfl

theorem toNat_unpackExponent (bits : BitVec 64) :
    (@unpackExponent Format.binary64 bits).toNat = bits.toNat / fractionCount % 2048 := by
  unfold unpackExponent
  rw [BitVec.toNat_cast, BitVec.extractLsb_toNat, Nat.shiftRight_eq_div_pow]
  rfl

theorem toNat_unpackSign (bits : BitVec 64) :
    (@unpackSign Format.binary64 bits).toNat = bits.toNat / 2 ^ 63 % 2 := by
  unfold unpackSign
  rw [BitVec.toNat_cast, BitVec.extractLsb_toNat, Nat.shiftRight_eq_div_pow]
  rfl

theorem unpackMantissa_eq_iff {bits : BitVec 64} {fraction : BitVec 52} :
    @unpackMantissa Format.binary64 bits = fraction ↔
      bits.toNat % fractionCount = fraction.toNat := by
  rw [← BitVec.toNat_inj, toNat_unpackMantissa]

theorem unpackExponent_eq_iff {bits : BitVec 64} {exponent : BitVec 11} :
    @unpackExponent Format.binary64 bits = exponent ↔
      bits.toNat / fractionCount % 2048 = exponent.toNat := by
  rw [← BitVec.toNat_inj, toNat_unpackExponent]

theorem ofBitVec_unpackSign {bits : BitVec 64} :
    Sign.ofBitVec (@unpackSign Format.binary64 bits) =
      if bits.toNat < 2 ^ 63 then .positive else .negative := by
  have whole := bits.isLt
  have same : @unpackSign Format.binary64 bits = 0#1 ↔ bits.toNat < 2 ^ 63 := by
    rw [← BitVec.toNat_inj, toNat_unpackSign]
    change bits.toNat / 2 ^ 63 % 2 = 0 ↔ _
    omega
  simp only [Sign.ofBitVec, same]

theorem mantissaOf_positive {bits : Nat} (some : 0 < bits) : 0 < mantissaOf bits := by
  unfold mantissaOf fractionCount
  split <;> omega

/-- What the bits of a positive finite number stand for. -/
theorem unpack_finite {bits : BitVec 64} (some : 0 < bits.toNat)
    (finite : bits.toNat < infinityBits) :
    UnpackedFloat.unpack Format.binary64 bits = .finite .positive (mantissaOf bits.toNat)
      (scaleOf bits.toNat - 1074) (mantissaOf_positive some) := by
  unfold infinityBits fractionCount at finite
  have sign : Sign.ofBitVec (@unpackSign Format.binary64 bits) = .positive := by
    rw [ofBitVec_unpackSign, if_pos (by omega)]
  have below : ¬@unpackExponent Format.binary64 bits = -1#_ := by
    rw [unpackExponent_eq_iff]
    change ¬_ = 2047
    unfold fractionCount
    omega
  have normal : @unpackExponent Format.binary64 bits = 0#_ ↔ bits.toNat < fractionCount := by
    rw [unpackExponent_eq_iff]
    change _ = 0 ↔ _
    unfold fractionCount
    omega
  have nonzero : bits.toNat < fractionCount → ¬@unpackMantissa Format.binary64 bits = 0#_ := by
    rw [unpackMantissa_eq_iff]
    change _ → ¬_ = 0
    unfold fractionCount
    omega
  have offset : (Format.binary64.exponentBias : Int) +
      (Format.binary64.mantissaBitsWithoutImplicit : Int) = 1075 := by decide
  unfold UnpackedFloat.unpack
  dsimp only
  rw [if_neg below, sign, offset, toNat_unpackExponent]
  by_cases short : bits.toNat < fractionCount
  · rw [if_pos (normal.mpr short), dif_neg (nonzero short)]
    apply finite_congr
    · rw [toNat_unpackMantissa, mantissaOf, if_pos short, Nat.mod_eq_of_lt short]
    · unfold scaleOf fractionCount at *
      omega
  · rw [if_neg fun zero => short (normal.mp zero)]
    apply finite_congr
    · rw [BitVec.toNat_append, ← Nat.shiftLeft_add_eq_or_of_lt (BitVec.isLt _),
        toNat_unpackMantissa, mantissaOf, if_neg short]
      rfl
    · unfold scaleOf fractionCount at *
      omega

def isAboveZero : UnpackedFloat → Bool
  | .infinity .positive | .finite .positive .. => true
  | _ => false

theorem isAboveZero_of_sign (number : Sign → UnpackedFloat) {sign : Sign} {bits : Nat}
    (front : sign = if bits < 2 ^ 63 then .positive else .negative)
    (positive : isAboveZero (number .positive) = true)
    (negative : isAboveZero (number .negative) = false) :
    isAboveZero (number sign) = true ↔ bits < 2 ^ 63 := by
  rw [front]
  by_cases low : bits < 2 ^ 63
  · rw [if_pos low, positive]
    exact iff_of_true rfl low
  · rw [if_neg low, negative]
    exact iff_of_false Bool.false_ne_true low

theorem isAboveZero_unpack {bits : BitVec 64} :
    isAboveZero (UnpackedFloat.unpack Format.binary64 bits) = true ↔ IsPositive bits.toNat := by
  have whole := bits.isLt
  have sign := @ofBitVec_unpackSign bits
  have most : @unpackExponent Format.binary64 bits = -1#_ ↔
    bits.toNat / fractionCount % 2048 = 2047 := unpackExponent_eq_iff
  have least : @unpackExponent Format.binary64 bits = 0#_ ↔
    bits.toNat / fractionCount % 2048 = 0 := unpackExponent_eq_iff
  have none : @unpackMantissa Format.binary64 bits = 0#_ ↔
    bits.toNat % fractionCount = 0 := unpackMantissa_eq_iff
  unfold UnpackedFloat.unpack IsPositive infinityBits
  dsimp only
  -- `split` would rewrite inside the numbers, whose mantissas carry proofs
  by_cases full : bits.toNat / fractionCount % 2048 = 2047
  · rw [if_pos (most.mpr full)]
    by_cases bare : bits.toNat % fractionCount = 0
    · rw [if_pos (none.mpr bare)]
      refine (isAboveZero_of_sign .infinity sign rfl rfl).trans ?_
      unfold fractionCount at *
      omega
    · rw [if_neg (mt none.mp bare)]
      refine iff_of_false Bool.false_ne_true ?_
      unfold fractionCount at *
      omega
  · rw [if_neg (mt most.mp full)]
    by_cases low : bits.toNat / fractionCount % 2048 = 0
    · rw [if_pos (least.mpr low)]
      by_cases bare : bits.toNat % fractionCount = 0
      · rw [dif_pos (none.mpr bare)]
        refine iff_of_false Bool.false_ne_true ?_
        unfold fractionCount at *
        omega
      · rw [dif_neg (mt none.mp bare)]
        refine (isAboveZero_of_sign (.finite · _ _ _) sign rfl rfl).trans ?_
        unfold fractionCount at *
        omega
    · rw [if_neg (mt least.mp low)]
      refine (isAboveZero_of_sign (.finite · _ _ _) sign rfl rfl).trans ?_
      unfold fractionCount at *
      omega

/-! ## Sums and differences -/

theorem decreaseExponent_units (mantissa : Nat) {scale target : Nat} (low : target ≤ scale) :
    (decreaseExponent mantissa (scale - 1074) (target - 1074)).1 * 2 ^ target =
      mantissa * 2 ^ scale := by
  have amount : ((scale : Int) - 1074 - (target - 1074)).toNat = scale - target := by omega
  unfold decreaseExponent
  dsimp only
  rw [amount, Nat.shiftLeft_eq, Nat.mul_assoc, ← pow_add, Nat.sub_add_cancel low]

theorem apply_mul (sign : Sign) (number factor : Int) :
    sign.apply number * factor = sign.apply (number * factor) := by
  cases sign with
  | positive => rfl
  | negative => exact Int.neg_mul _ _

/-- Two numbers of units, each with a sign, are added at the smaller of their scales. -/
theorem rounds_aligned (sign otherSign : Sign) (mantissa otherMantissa scale otherScale : Nat) :
    Rounds (sign.apply (mantissa * 2 ^ scale : Nat) +
        otherSign.apply (otherMantissa * 2 ^ otherScale : Nat))
      (UnpackedFloat.pack Format.binary64 (UnpackedFloat.normalize Format.binary64
        (sign.apply (decreaseExponent mantissa (scale - 1074)
            (min (scale - 1074) (otherScale - 1074))).1 +
          otherSign.apply (decreaseExponent otherMantissa (otherScale - 1074)
            (min (scale - 1074) (otherScale - 1074))).1)
        (min (scale - 1074) (otherScale - 1074)) .positive)).toNat := by
  have lower : min ((scale : Int) - 1074) (otherScale - 1074) =
      (min scale otherScale : Nat) - 1074 := by omega
  rw [lower]
  refine rounds_normalize rfl ?_
  have front := decreaseExponent_units mantissa (min_le_left scale otherScale)
  have back := decreaseExponent_units otherMantissa (min_le_right scale otherScale)
  rw [add_mul, apply_mul, apply_mul, ← front, ← back, Nat.cast_mul, Nat.cast_mul, Nat.cast_pow,
    Nat.cast_ofNat]

section sums

variable {one other : Float} (some : IsPositive one.toBits.toNat)
  (finite : one.toBits.toNat < infinityBits) (someOther : IsPositive other.toBits.toNat)
  (finiteOther : other.toBits.toNat < infinityBits)

include some finite someOther finiteOther

/-- The difference of two positive finite numbers. -/
theorem rounds_sub :
    Rounds (units one.toBits.toNat - units other.toBits.toNat) (one - other).toBits.toNat := by
  have aligned := rounds_aligned .positive .negative (mantissaOf one.toBits.toNat)
    (mantissaOf other.toBits.toNat) (scaleOf one.toBits.toNat) (scaleOf other.toBits.toNat)
  change Rounds _ (UnpackedFloat.pack Format.binary64 (UnpackedFloat.sub Format.binary64
    (UnpackedFloat.unpack Format.binary64 one.toBits.toBitVec)
    (UnpackedFloat.unpack Format.binary64 other.toBits.toBitVec))).toNat
  rw [unpack_finite some.1 finite, unpack_finite someOther.1 finiteOther]
  exact aligned

/-- The sum of two positive finite numbers. -/
theorem rounds_add :
    Rounds (units one.toBits.toNat + units other.toBits.toNat) (one + other).toBits.toNat := by
  have aligned := rounds_aligned .positive .positive (mantissaOf one.toBits.toNat)
    (mantissaOf other.toBits.toNat) (scaleOf one.toBits.toNat) (scaleOf other.toBits.toNat)
  change Rounds _ (UnpackedFloat.pack Format.binary64 (UnpackedFloat.add Format.binary64
    (UnpackedFloat.unpack Format.binary64 one.toBits.toBitVec)
    (UnpackedFloat.unpack Format.binary64 other.toBits.toBitVec))).toNat
  rw [unpack_finite some.1 finite, unpack_finite someOther.1 finiteOther]
  exact aligned

end sums

/-! ## The order of numbers -/

theorem eq_of_bits {one other : Float} (same : one.toBits.toNat = other.toBits.toNat) :
    one = other := by
  obtain ⟨⟨bits, _⟩⟩ := one
  obtain ⟨⟨otherBits, _⟩⟩ := other
  obtain rfl : bits = otherBits := UInt64.toNat_inj.mp same
  rfl

theorem eq_infinity {number : Float} (infinite : number.toBits.toNat = infinityBits) :
    number = Float.ofBits 0x7FF0000000000000 :=
  eq_of_bits (infinite.trans rfl)

theorem unpack_infinity {bits : BitVec 64} (same : bits.toNat = infinityBits) :
    UnpackedFloat.unpack Format.binary64 bits = .infinity .positive := by
  obtain rfl : bits = 0x7FF0000000000000#64 := BitVec.eq_of_toNat_eq same
  rfl

theorem compare_bits (one other : Nat) :
    (compare ((scaleOf one : Int) - 1074) (scaleOf other - 1074)).then
      (compare (mantissaOf one) (mantissaOf other)) = compare one other := by
  rcases lt_trichotomy one other with less | rfl | greater
  · rw [compare_lt_iff_lt.mpr less]
    rcases lt_iff_scale_mantissa.mp less with lower | ⟨same, lower⟩
    · rw [compare_lt_iff_lt.mpr (by omega)]
      rfl
    · rw [same, compare_eq_iff_eq.mpr rfl, compare_lt_iff_lt.mpr lower]
      rfl
  · rw [compare_eq_iff_eq.mpr rfl, compare_eq_iff_eq.mpr rfl, compare_eq_iff_eq.mpr rfl]
    rfl
  · rw [compare_gt_iff_gt.mpr greater]
    rcases lt_iff_scale_mantissa.mp greater with higher | ⟨same, higher⟩
    · rw [compare_gt_iff_gt.mpr (by omega)]
      rfl
    · rw [same, compare_eq_iff_eq.mpr rfl, compare_gt_iff_gt.mpr higher]
      rfl

/-- Positive numbers are compared by their bits. -/
theorem compare_unpack {one other : BitVec 64} (some : IsPositive one.toNat)
    (someOther : IsPositive other.toNat) :
    UnpackedFloat.compare (UnpackedFloat.unpack Format.binary64 one)
      (UnpackedFloat.unpack Format.binary64 other) =
        .some (compare one.toNat other.toNat) := by
  rcases some.2.lt_or_eq with finite | same
  · rw [unpack_finite some.1 finite]
    rcases someOther.2.lt_or_eq with finiteOther | sameOther
    · rw [unpack_finite someOther.1 finiteOther]
      change Option.some ((compare ((scaleOf one.toNat : Int) - 1074)
        (scaleOf other.toNat - 1074)).then (compare (mantissaOf one.toNat)
          (mantissaOf other.toNat))) = _
      rw [compare_bits]
    · rw [unpack_infinity sameOther, sameOther, compare_lt_iff_lt.mpr finite]
      rfl
  · rw [unpack_infinity same, same]
    rcases someOther.2.lt_or_eq with finiteOther | sameOther
    · rw [unpack_finite someOther.1 finiteOther, compare_gt_iff_gt.mpr finiteOther]
      rfl
    · rw [unpack_infinity sameOther, sameOther, compare_eq_iff_eq.mpr rfl]
      rfl

theorem compare_not_above {one other : UnpackedFloat} (above : isAboveZero one = true)
    (below : isAboveZero other = false) :
    UnpackedFloat.compare one other = none ∨ UnpackedFloat.compare one other = some .gt := by
  rcases one with (_ | _) | _ | _ | (_ | _) <;> rcases other with (_ | _) | _ | _ | (_ | _) <;>
    first | contradiction | exact .inl rfl | exact .inr rfl

theorem compare_zero {sign : Sign} {other : UnpackedFloat} :
    UnpackedFloat.compare (.zero sign) other = some .lt ↔ isAboveZero other = true := by
  rcases other with (_ | _) | _ | _ | (_ | _) <;>
    first | exact iff_of_true rfl rfl | exact iff_of_false nofun nofun

theorem le_iff_compare {one other : Float} :
    one ≤ other ↔ (UnpackedFloat.compare
      (UnpackedFloat.unpack Format.binary64 one.toBits.toBitVec)
      (UnpackedFloat.unpack Format.binary64 other.toBits.toBitVec)).any (·.isLE) = true := by
  change decide (_ = true) = true ↔ _
  exact decide_eq_true_iff

theorem lt_iff_compare {one other : Float} :
    one < other ↔ UnpackedFloat.compare
      (UnpackedFloat.unpack Format.binary64 one.toBits.toBitVec)
      (UnpackedFloat.unpack Format.binary64 other.toBits.toBitVec) = some .lt := by
  change decide ((_ == _) = true) = true ↔ _
  rw [decide_eq_true_iff, beq_iff_eq]
  rfl

/-- The numbers greater than zero are those with the bits of a positive number. -/
theorem zero_lt_iff {number : Float} : 0 < number ↔ IsPositive number.toBits.toNat := by
  have zero : UnpackedFloat.unpack Format.binary64 (0 : Float).toBits.toBitVec =
      .zero .positive := by
    have bits : (0 : Float).toBits = 0 := rfl
    rw [bits]
    rfl
  rw [lt_iff_compare, zero, compare_zero, isAboveZero_unpack]
  rfl

section order

variable {one other : Float} (positive : IsPositive one.toBits.toNat)

include positive

theorem not_above_of_not_positive (negative : ¬IsPositive other.toBits.toNat) :
    ¬one ≤ other ∧ ¬one < other := by
  have below : isAboveZero
      (UnpackedFloat.unpack Format.binary64 other.toBits.toBitVec) = false :=
    Bool.eq_false_iff.mpr fun above => negative (isAboveZero_unpack.mp above)
  rw [le_iff_compare, lt_iff_compare]
  rcases compare_not_above (isAboveZero_unpack.mpr positive) below with apart | greater
  · rw [apart]
    exact ⟨nofun, nofun⟩
  · rw [greater]
    exact ⟨nofun, nofun⟩

theorem le_iff_bits : one ≤ other ↔
    IsPositive other.toBits.toNat ∧ one.toBits.toNat ≤ other.toBits.toNat := by
  by_cases positiveOther : IsPositive other.toBits.toNat
  · rw [le_iff_compare, compare_unpack positive positiveOther, Option.any_some, Nat.isLE_compare,
      and_iff_right positiveOther]
    rfl
  · exact iff_of_false (not_above_of_not_positive positive positiveOther).1
      fun above => positiveOther above.1

theorem lt_iff_bits : one < other ↔
    IsPositive other.toBits.toNat ∧ one.toBits.toNat < other.toBits.toNat := by
  by_cases positiveOther : IsPositive other.toBits.toNat
  · rw [lt_iff_compare, compare_unpack positive positiveOther, Option.some_inj,
      Nat.compare_eq_lt, and_iff_right positiveOther]
    rfl
  · exact iff_of_false (not_above_of_not_positive positive positiveOther).2
      fun above => positiveOther above.1

end order

/-! ## Sums with numbers that are not positive -/

/-- No exponent is smaller than that of the smallest numbers. -/
theorem exists_scale {bits : BitVec 64} {sign : Sign} {mantissa : Nat} {exponent : Int}
    {positive : 0 < mantissa}
    (finite : UnpackedFloat.unpack Format.binary64 bits =
      .finite sign mantissa exponent positive) :
    ∃ scale : Nat, exponent = scale - 1074 := by
  have offset : (Format.binary64.exponentBias : Int) +
      (Format.binary64.mantissaBitsWithoutImplicit : Int) = 1075 := by decide
  unfold UnpackedFloat.unpack at finite
  dsimp only at finite
  rw [offset] at finite
  by_cases full : @unpackExponent Format.binary64 bits = -1#_
  · rw [if_pos full] at finite
    by_cases bare : @unpackMantissa Format.binary64 bits = 0#_
    · rw [if_pos bare] at finite
      cases finite
    · rw [if_neg bare] at finite
      cases finite
  · rw [if_neg full] at finite
    by_cases low : @unpackExponent Format.binary64 bits = 0#_
    · rw [if_pos low] at finite
      by_cases bare : @unpackMantissa Format.binary64 bits = 0#_
      · rw [dif_pos bare] at finite
        cases finite
      · rw [dif_neg bare] at finite
        injection finite with _ _ same
        refine ⟨0, ?_⟩
        rw [← same, low]
        rfl
    · rw [if_neg low] at finite
      injection finite with _ _ same
      have some : (@unpackExponent Format.binary64 bits).toNat ≠ 0 := fun zero =>
        low (BitVec.eq_of_toNat_eq zero)
      exact ⟨(@unpackExponent Format.binary64 bits).toNat - 1, by omega⟩

/-- An amount that lies above the middle between two neighbours is not rounded to the smaller one
or below. -/
theorem Nearest.above_of_middle {amount nearest bits : Nat} (nearby : Nearest amount nearest)
    (middle : units bits + units (bits + 1) < 2 * amount) : bits < nearest := by
  by_contra low
  have here := units_strictMono.monotone (show nearest ≤ bits by omega)
  have next := units_strictMono.monotone (show nearest + 1 ≤ bits + 1 by omega)
  have near := nearby.above
  omega

/-- An amount that lies below the middle between two neighbours is not rounded to the greater one
or above. -/
theorem Nearest.le_of_middle {amount nearest bits : Nat} (nearby : Nearest amount nearest)
    (middle : 2 * amount < units bits + units (bits + 1)) : nearest ≤ bits := by
  by_contra beyond
  obtain ⟨before, rfl⟩ := Nat.exists_eq_succ_of_ne_zero (show nearest ≠ 0 by omega)
  have here := units_strictMono.monotone (show bits ≤ before by omega)
  have next := units_strictMono.monotone (show bits + 1 ≤ before + 1 by omega)
  have near := nearby.below before rfl
  rw [Nat.succ_eq_add_one] at near
  omega

/-- What is nearest to an amount is no greater than any number that the amount does not exceed. -/
theorem Nearest.le {amount nearest bits : Nat} (nearby : Nearest amount nearest)
    (below : amount ≤ units bits) : nearest ≤ bits := by
  have next := units_strictMono (show bits < bits + 1 by omega)
  exact nearby.le_of_middle (by omega)

/-- A number that is not positive adds nothing to one that is. -/
theorem add_le_of_not_positive {one other : Float} (negative : ¬IsPositive one.toBits.toNat)
    (positive : IsPositive other.toBits.toNat) (finite : other.toBits.toNat < infinityBits)
    (sum : IsPositive (one + other).toBits.toNat) :
    (one + other).toBits.toNat ≤ other.toBits.toNat := by
  have below : ¬isAboveZero (UnpackedFloat.unpack Format.binary64 one.toBits.toBitVec) = true :=
    fun above => negative (isAboveZero_unpack.mp above)
  change IsPositive (UnpackedFloat.pack Format.binary64 (UnpackedFloat.add Format.binary64
    (UnpackedFloat.unpack Format.binary64 one.toBits.toBitVec)
    (UnpackedFloat.unpack Format.binary64 other.toBits.toBitVec))).toNat at sum
  change (UnpackedFloat.pack Format.binary64 (UnpackedFloat.add Format.binary64
    (UnpackedFloat.unpack Format.binary64 one.toBits.toBitVec)
    (UnpackedFloat.unpack Format.binary64 other.toBits.toBitVec))).toNat ≤ _
  rw [unpack_finite positive.1 finite] at sum ⊢
  cases unpacked : UnpackedFloat.unpack Format.binary64 one.toBits.toBitVec with
  | notANumber =>
    rw [unpacked] at sum
    have most : (packedNaN Format.binary64).toNat ≤ infinityBits := sum.2
    exact absurd most (by decide)
  | infinity sign =>
    rw [unpacked] at below sum
    cases sign with
    | positive => exact absurd rfl below
    | negative =>
      have most : (packedInfinity Format.binary64 .negative).toNat ≤ infinityBits := sum.2
      exact absurd most (by decide)
  | zero sign =>
    have same := toNat_pack (mantissaOf_positive positive.1) rfl
      (fits_mantissaOf other.toBits.toNat) (mantissaOf_lt other.toBits.toNat)
    rw [bitsOf_mantissaOf] at same
    exact same.le.trans (min_le_left _ _)
  | finite sign mantissa exponent some =>
    obtain ⟨scale, rfl⟩ := exists_scale unpacked
    rw [unpacked] at below sum
    cases sign with
    | positive => exact absurd rfl below
    | negative =>
      have rounds := rounds_aligned .negative .positive mantissa
        (mantissaOf other.toBits.toNat) scale (scaleOf other.toBits.toNat)
      by_cases left : 0 < Sign.apply .negative (mantissa * 2 ^ scale : Nat) +
          Sign.apply .positive (units other.toBits.toNat)
      · obtain ⟨nearest, nearby, same⟩ := rounds.positive left
        refine same.le.trans ((min_le_left _ _).trans (nearby.le ?_))
        change (-(mantissa * 2 ^ scale : Nat) + (units other.toBits.toNat : Int)).toNat ≤ _
        omega
      · exact absurd sum (rounds.negative (not_lt.mp left))

end rounding

end Chip8.Numeric
