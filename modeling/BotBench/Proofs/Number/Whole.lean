import BotBench.Script.Numeral
import Mathlib

/-! # Whole numbers as floating-point numbers

A natural number below `2 ^ 53` is a floating-point number exactly: its mantissa is moved up to the
full 53 bits, and neither the rounding nor the packing loses a bit of it. So the whole part of such
a number is the number itself (`BotBench.Script.clampedPart_numberOfNat`), by which a script that
counts the items of a list sees each of them. -/

namespace BotBench.Number

open Float.Model Float.Model.UnpackedFloat

variable {mantissa : Nat} {exponent : Int}

/-- A mantissa of 53 bits with an exponent for which it is neither too large nor too small. -/
structure Normal (mantissa : Nat) (exponent : Int) : Prop where
  full : mantissa.log2 = 52
  least : -1074 ≤ exponent
  most : exponent ≤ 0

/-! ## Rounding -/

theorem shiftRight_exact (mantissa count : Nat) :
    (⟨mantissa * 2 ^ count, false, false⟩ : ExtendedMantissa) >>> count =
      ⟨mantissa, false, false⟩ := by
  induction count generalizing mantissa with
  | zero => simp [HShiftRight.hShiftRight, Nat.repeat]
  | succ count ih =>
      have split : mantissa * 2 ^ (count + 1) = mantissa * 2 * 2 ^ count := by ring
      rw [split]
      change ExtendedMantissa.shiftRightOne
        ((⟨mantissa * 2 * 2 ^ count, false, false⟩ : ExtendedMantissa) >>> count) = _
      rw [ih]
      simp [ExtendedMantissa.shiftRightOne]

theorem log2_mul_twoPow {n : Nat} (nonzero : n ≠ 0) (count : Nat) :
    (n * 2 ^ count).log2 = n.log2 + count := by
  induction count with
  | zero => simp
  | succ count ih =>
      have split : n * 2 ^ (count + 1) = 2 * (n * 2 ^ count) := by ring
      rw [split, Nat.log2_two_mul (by positivity), ih, Nat.add_assoc]

namespace Normal

theorem bounds (normal : Normal mantissa exponent) : 2 ^ 52 ≤ mantissa ∧ mantissa < 2 ^ 53 :=
  (Nat.log2_eq_iff (by rintro rfl; simpa using normal.full)).mp normal.full

theorem pos (normal : Normal mantissa exponent) : 0 < mantissa := by
  have := normal.bounds
  omega

theorem targetExponent (normal : Normal mantissa exponent) (count : Nat) :
    Format.binary64.targetExponent
      (totalExponent (mantissa * 2 ^ count) (exponent - count)) = exponent := by
  have least := normal.least
  simp only [Format.targetExponent, totalExponent, Format.mantissaBits, Format.minExponent,
    log2_mul_twoPow normal.pos.ne', normal.full]
  omega

theorem shiftToTargetExponent (normal : Normal mantissa exponent) (count : Nat) :
    UnpackedFloat.shiftToTargetExponent Format.binary64 (mantissa * 2 ^ count) (exponent - count)
      .exact = (⟨mantissa, false, false⟩, exponent) := by
  have shift : (exponent - (exponent - (count : Int))).toNat = count := by omega
  simp only [UnpackedFloat.shiftToTargetExponent, shiftToExponent, normal.targetExponent, shift,
    ExtendedMantissa.ofMantissaAndAccuracy, shiftRight_exact, sub_add_cancel]

/-- Rounding takes the zeros off a mantissa that has been moved up. -/
theorem roundWithAccuracy (normal : Normal mantissa exponent) (sign : Sign) (count : Nat) :
    UnpackedFloat.roundWithAccuracy Format.binary64 sign (mantissa * 2 ^ count) (exponent - count)
      .exact = .finite sign mantissa exponent normal.pos := by
  have rounded : (⟨mantissa, false, false⟩ : ExtendedMantissa).roundedMantissa = mantissa := rfl
  have again := normal.shiftToTargetExponent 0
  simp only [pow_zero, mul_one, Nat.cast_zero, sub_zero] at again
  simp only [UnpackedFloat.roundWithAccuracy, normal.shiftToTargetExponent, rounded, again]
  rw [dif_neg normal.pos.ne']

end Normal

/-! ## Packing -/

theorem unpackSign_packComponents {spec : Format} {sign : Sign} {exponent mantissa} :
    unpackSign (packComponents spec sign exponent mantissa) = sign.toBitVec := by
  ext i inside
  obtain rfl : i = 0 := by omega
  simp [unpackSign, packComponents, BitVec.getLsbD_eq_getElem, BitVec.getLsbD_append,
    BitVec.getElem_append]

namespace Normal

/-- The exponent as it is packed. -/
theorem field (normal : Normal mantissa exponent) :
    (BitVec.ofNat 11 (exponent + 1075).toNat).toNat = (exponent + 1075).toNat := by
  obtain ⟨-, least, most⟩ := normal
  rw [BitVec.toNat_ofNat, Nat.mod_eq_of_lt (by omega)]

theorem pack (normal : Normal mantissa exponent) :
    UnpackedFloat.pack Format.binary64 (.finite .positive mantissa exponent normal.pos) =
      packComponents Format.binary64 .positive (BitVec.ofNat 11 (exponent + 1075).toNat)
        (BitVec.ofNat 52 mantissa) := by
  obtain ⟨full, least, most⟩ := normal
  have biased : (exponent + (Format.binary64.exponentBias : Int) + (52 : Nat)).toNat =
      (exponent + 1075).toNat := by
    simp only [Format.exponentBias]
    omega
  simp only [UnpackedFloat.pack, biased, full, Format.mantissaBits]
  rw [if_neg (by omega), if_pos trivial]

theorem unpack_pack (normal : Normal mantissa exponent) :
    UnpackedFloat.unpack Format.binary64
        (UnpackedFloat.pack Format.binary64 (.finite .positive mantissa exponent normal.pos)) =
      .finite .positive mantissa exponent normal.pos := by
  obtain ⟨low, high⟩ := normal.bounds
  have field := normal.field
  have whole : ((1#1 : BitVec 1) ++ BitVec.ofNat 52 mantissa).toNat = mantissa := by
    rw [BitVec.toNat_append, ← Nat.shiftLeft_add_eq_or_of_lt (BitVec.isLt _)]
    simp
    omega
  obtain ⟨-, least, most⟩ := id normal
  have notTop : BitVec.ofNat 11 (exponent + 1075).toNat ≠ -1#11 := by
    intro top
    rw [top] at field
    simp at field
    omega
  have notZero : BitVec.ofNat 11 (exponent + 1075).toNat ≠ 0#11 := by
    intro zero
    rw [zero] at field
    simp at field
    omega
  rw [normal.pack]
  simp only [UnpackedFloat.unpack, unpackExponent_packComponents, unpackMantissa_packComponents,
    unpackSign_packComponents]
  rw [if_neg notTop, if_neg notZero]
  simp only [whole, field, Format.exponentBias]
  congr 1
  omega

theorem toNat_pack (normal : Normal mantissa exponent) :
    (UnpackedFloat.pack Format.binary64
        (.finite .positive mantissa exponent normal.pos)).toNat =
      (exponent + 1075).toNat * 2 ^ 52 + (mantissa - 2 ^ 52) := by
  obtain ⟨low, high⟩ := normal.bounds
  have field := normal.field
  rw [normal.pack, packComponents, BitVec.toNat_append,
    ← Nat.shiftLeft_add_eq_or_of_lt (BitVec.isLt _), BitVec.toNat_append,
    ← Nat.shiftLeft_add_eq_or_of_lt (BitVec.isLt _), field]
  simp [Sign.toBitVec, Nat.shiftLeft_eq]
  omega

end Normal

/-! ## Natural numbers below `2 ^ 53` -/

variable {n : Nat}

theorem normal_of_lt (positive : 0 < n) (small : n < 2 ^ 53) :
    Normal (n * 2 ^ (52 - n.log2)) (n.log2 - 52) := by
  have log : n.log2 < 53 := (Nat.log2_lt positive.ne').mpr small
  refine ⟨?_, by omega, by omega⟩
  rw [log2_mul_twoPow positive.ne']
  omega

theorem ofNat_eq (positive : 0 < n) (small : n < 2 ^ 53) :
    UnpackedFloat.ofNat Format.binary64 n =
      .finite .positive (n * 2 ^ (52 - n.log2)) (n.log2 - 52)
        (normal_of_lt positive small).pos := by
  have normal := normal_of_lt positive small
  have log : n.log2 < 53 := (Nat.log2_lt positive.ne').mpr small
  have target : Format.binary64.targetExponent (totalExponent n 0) = (n.log2 : Int) - 52 := by
    simp only [Format.targetExponent, totalExponent, Format.mantissaBits, Format.minExponent]
    omega
  have shift : (0 - ((n.log2 : Int) - 52)).toNat = 52 - n.log2 := by omega
  have exponent : (0 : Int) - ((52 - n.log2 : Nat) : Int) = (n.log2 : Int) - 52 := by omega
  have above : compare (n : Int) 0 = .gt := by
    rw [Int.compare_eq_gt]
    omega
  have rounded := normal.roundWithAccuracy .positive 0
  simp only [pow_zero, mul_one, Nat.cast_zero, sub_zero] at rounded
  simp only [UnpackedFloat.ofNat, UnpackedFloat.ofInt, UnpackedFloat.normalize, above, Int.toNat_natCast,
    UnpackedFloat.round, target, decreaseExponent, shift, Nat.shiftLeft_eq, exponent, rounded]

/-- The number one. -/
theorem unpack_one : (Float.ofBits 0x3FF0000000000000).toModel.unpack =
    .finite .positive (2 ^ 52) (-52) (by decide) := by
  rfl

theorem toModel_toFloat (positive : 0 < n) (small : n < 2 ^ 53) :
    n.toFloat.toModel = Float.Model.pack
      (.finite .positive (n * 2 ^ (52 - n.log2)) (n.log2 - 52)
        (normal_of_lt positive small).pos) := by
  have normal := normal_of_lt positive small
  have exact : n.toFloat = n.toUInt64.toFloat * Float.ofBits 0x3FF0000000000000 := by
    change Float.ofScientific n false 0 = _
    rw [Float.ofScientific, dif_pos ⟨small, by decide⟩]
    rfl
  have unpacked : n.toUInt64.toFloat.toModel.unpack =
      .finite .positive (n * 2 ^ (52 - n.log2)) (n.log2 - 52) normal.pos := by
    change UnpackedFloat.unpack Format.binary64 (UInt64.ofBitVec (UnpackedFloat.pack Format.binary64
      (UnpackedFloat.ofNat Format.binary64 n.toUInt64.toNat))).toBitVec = _
    have same : n.toUInt64.toNat = n := by
      simp
      omega
    rw [same, ofNat_eq positive small]
    exact normal.unpack_pack
  rw [exact]
  change Float.Model.pack (UnpackedFloat.mul Format.binary64 n.toUInt64.toFloat.toModel.unpack
    (Float.ofBits 0x3FF0000000000000).toModel.unpack) = _
  rw [unpacked, unpack_one]
  have rounded := normal.roundWithAccuracy .positive 52
  simp only [UnpackedFloat.mul]
  exact congrArg _ rounded

theorem isNaN_toFloat (positive : 0 < n) (small : n < 2 ^ 53) : n.toFloat.isNaN = false := by
  change UnpackedFloat.isNaN n.toFloat.toModel.unpack = false
  rw [toModel_toFloat positive small]
  change UnpackedFloat.isNaN (UnpackedFloat.unpack Format.binary64
    (UnpackedFloat.pack Format.binary64 _)) = false
  rw [(normal_of_lt positive small).unpack_pack]
  rfl

theorem ofFloat_toFloat (positive : 0 < n) (small : n < 2 ^ 53) :
    Binary64.ofFloat n.toFloat =
      .finite false (n * 2 ^ (52 - n.log2)) (n.log2 - 52) := by
  have normal := normal_of_lt positive small
  have log : n.log2 < 53 := (Nat.log2_lt positive.ne').mpr small
  obtain ⟨low, high⟩ := normal.bounds
  have bits : n.toFloat.toBits.toNat =
      ((n.log2 : Int) - 52 + 1075).toNat * 2 ^ 52 + (n * 2 ^ (52 - n.log2) - 2 ^ 52) := by
    rw [← normal.toNat_pack]
    exact congrArg (fun model => model.toBits.toNat) (toModel_toFloat positive small)
  generalize n * 2 ^ (52 - n.log2) = mantissa at *
  have field : n.toFloat.toBits.toNat / 2 ^ 52 % 2048 = n.log2 + 1023 := by omega
  have sign : n.toFloat.toBits.toNat / 2 ^ 63 = 0 := by omega
  have fraction : n.toFloat.toBits.toNat % 2 ^ 52 = mantissa - 2 ^ 52 := by omega
  have implicit : 2 ^ 52 + (mantissa - 2 ^ 52) = mantissa := by omega
  have exponent : ((n.log2 + 1023 : Nat) : Int) - 1075 = (n.log2 : Int) - 52 := by omega
  have finite : (n.log2 + 1023 == 2047) = false := by simp; omega
  have regular : (n.log2 + 1023 == 0) = false := by simp
  simp only [Binary64.ofFloat, twoTo, Nat.pow_eq, field, sign, fraction, implicit, exponent, finite,
    regular]
  rfl

theorem ofFloat_zero : Binary64.ofFloat (0 : Nat).toFloat = .finite false 0 leastExponent := by
  decide +kernel

/-- The whole part of a natural number below `2 ^ 53` is the number. -/
theorem truncate?_toFloat (small : n < 2 ^ 53) : truncate? n.toFloat = some n := by
  rcases Nat.eq_zero_or_pos n with rfl | positive
  · rw [truncate?, ofFloat_zero]
    decide +kernel
  have log : n.log2 < 53 := (Nat.log2_lt positive.ne').mpr small
  have back : n * 2 ^ (52 - n.log2) / 2 ^ (52 - n.log2) = n :=
    Nat.mul_div_cancel _ (Nat.two_pow_pos _)
  simp only [truncate?, ofFloat_toFloat positive small, twoTo, Nat.pow_eq, Bool.false_eq_true,
    if_false]
  split
  next whole =>
    have top : n.log2 = 52 := by omega
    simp [top]
  next =>
    have shift : (-((n.log2 : Int) - 52)).toNat = 52 - n.log2 := by omega
    rw [shift, ← Int.natCast_ediv, back]
    rfl

end BotBench.Number

namespace BotBench.Script

open Number

theorem wholePart?_toFloat {n : Nat} (small : n < 2 ^ 53) : wholePart? n.toFloat = some n := by
  rcases Nat.eq_zero_or_pos n with rfl | positive
  · rw [wholePart?, truncate?_toFloat small]
    rfl
  rw [wholePart?, isNaN_toFloat positive small, truncate?_toFloat small]
  rfl

/-- A count below `2 ^ 53` is read off its number. -/
theorem clampedPart_numberOfNat {n : Nat} (small : n < twoTo 53) :
    clampedPart (numberOfNat n) 0 (twoTo 53 - 1) = n := by
  rw [numberOfNat, if_pos small, clampedPart, wholePart?_toFloat small]
  change max 0 (min ((twoTo 53 : Int) - 1) n) = n
  omega

/-- What is brought between two bounds is not above the upper one. -/
theorem clampedPart_le (x : Float) {low high : Int} (ordered : low ≤ high) :
    clampedPart x low high ≤ high := by
  rw [clampedPart]
  split
  · omega
  · split
    · exact ordered
    · exact le_refl high

end BotBench.Script
