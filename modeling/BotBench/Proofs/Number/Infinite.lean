import BotBench.Proofs.Number.Nearest
import Mathlib

/-! # Infinities

A floating-point number is an infinity exactly if the bits of its exponent are all set and those of
its mantissa are not (`BotBench.Number.isInf_iff`). The number that is nearest to a whole number is
one from a bound on, the middle between the greatest finite number and the power of two behind it
(`BotBench.Number.isInf_ofRat_iff`). -/

namespace BotBench.Number

open Float.Model Float.Model.UnpackedFloat

/-! ## Bits -/

theorem toNat_unpackExponent (bits : BitVec Format.binary64.numBits) :
    (unpackExponent bits).toNat = bits.toNat / 2 ^ 52 % 2048 := by
  simp [unpackExponent, BitVec.extractLsb_toNat, Nat.shiftRight_eq_div_pow]

theorem toNat_unpackMantissa (bits : BitVec Format.binary64.numBits) :
    (unpackMantissa bits).toNat = bits.toNat % 2 ^ 52 := by
  simp [unpackMantissa, BitVec.extractLsb_toNat]

theorem unpackExponent_eq_iff (bits : BitVec Format.binary64.numBits) :
    unpackExponent bits = -1#11 ↔ bits.toNat / 2 ^ 52 % 2048 = 2047 := by
  rw [← BitVec.toNat_inj, toNat_unpackExponent]
  rfl

theorem unpackMantissa_eq_iff (bits : BitVec Format.binary64.numBits) :
    unpackMantissa bits = 0#52 ↔ bits.toNat % 2 ^ 52 = 0 := by
  rw [← BitVec.toNat_inj, toNat_unpackMantissa]
  rfl

theorem isInf_unpack (bits : BitVec Format.binary64.numBits) :
    (UnpackedFloat.unpack Format.binary64 bits).isInf = true ↔
      unpackExponent bits = -1#11 ∧ unpackMantissa bits = 0#52 := by
  unfold UnpackedFloat.unpack
  dsimp only
  split_ifs <;> simp_all [UnpackedFloat.isInf]

theorem isNaN_unpack (bits : BitVec Format.binary64.numBits) :
    (UnpackedFloat.unpack Format.binary64 bits).isNaN = true ↔
      unpackExponent bits = -1#11 ∧ unpackMantissa bits ≠ 0#52 := by
  unfold UnpackedFloat.unpack
  dsimp only
  split_ifs <;> simp_all [UnpackedFloat.isNaN]

theorem isInf_iff (x : Float) :
    x.isInf = true ↔ x.toBits.toNat / 2 ^ 52 % 2048 = 2047 ∧ x.toBits.toNat % 2 ^ 52 = 0 := by
  change (UnpackedFloat.unpack Format.binary64 x.toBits.toBitVec).isInf = true ↔ _
  rw [isInf_unpack, unpackExponent_eq_iff, unpackMantissa_eq_iff]
  rfl

theorem isNaN_iff (x : Float) :
    x.isNaN = true ↔ x.toBits.toNat / 2 ^ 52 % 2048 = 2047 ∧ x.toBits.toNat % 2 ^ 52 ≠ 0 := by
  change (UnpackedFloat.unpack Format.binary64 x.toBits.toBitVec).isNaN = true ↔ _
  rw [isNaN_unpack, unpackExponent_eq_iff, Ne, unpackMantissa_eq_iff]
  rfl

/-- What is packed reads as infinite if it is, or if its exponent is too large. -/
theorem isInf_unpack_pack (x : UnpackedFloat) :
    (UnpackedFloat.unpack Format.binary64 (UnpackedFloat.pack Format.binary64 x)).isInf = true ↔
      x.isInf = true ∨ ∃ sign mantissa exponent positive,
        x = .finite sign mantissa exponent positive ∧ 971 < exponent := by
  rw [isInf_unpack]
  fun_cases UnpackedFloat.pack Format.binary64 x with
  | case1 => simp [packedNaN, UnpackedFloat.isInf]
  | case2 sign => simp [packedInfinity, UnpackedFloat.isInf]
  | case3 sign => simp [packedZero, UnpackedFloat.isInf]
  | case4 sign mantissa exponent positive biased large =>
      change 2048 ≤ (exponent + 1023 + 52).toNat + 1 at large
      have beyond : 971 < exponent := by omega
      simp [packedInfinity, UnpackedFloat.isInf, beyond, positive]
  | case5 sign mantissa exponent positive digits biased small normal =>
      change ¬2048 ≤ (exponent + 1023 + 52).toNat + 1 at small
      have within : ¬971 < exponent := by omega
      have notTop : BitVec.ofNat 11 biased ≠ -1#11 := by
        change BitVec.ofNat 11 (exponent + 1023 + 52).toNat ≠ -1#11
        intro top
        have top := congrArg BitVec.toNat top
        rw [BitVec.toNat_ofNat, Nat.mod_eq_of_lt (by omega)] at top
        change (exponent + 1023 + 52).toNat = 2047 at top
        omega
      rw [unpackExponent_packComponents]
      exact iff_of_false (fun both => notTop both.1) (by simp [UnpackedFloat.isInf, within])
  | case6 sign mantissa exponent positive digits biased small subnormal =>
      change ¬2048 ≤ (exponent + 1023 + 52).toNat + 1 at small
      have within : ¬971 < exponent := by omega
      simp [UnpackedFloat.isInf, within]

/-- An exponent that is read off bits is not too large. -/
theorem exponent_le_of_unpack {bits : BitVec Format.binary64.numBits} {sign : Sign} {mantissa : Nat}
    {exponent : Int} {positive : 0 < mantissa}
    (read : UnpackedFloat.unpack Format.binary64 bits = .finite sign mantissa exponent positive) :
    exponent ≤ 971 := by
  have bounded : (unpackExponent bits).toNat < 2048 := (unpackExponent bits).isLt
  unfold UnpackedFloat.unpack at read
  dsimp only at read
  split_ifs at read with top infinite subnormal zero
  · obtain ⟨-, -, rfl⟩ := UnpackedFloat.finite.inj read
    rw [subnormal]
    decide
  · obtain ⟨-, -, rfl⟩ := UnpackedFloat.finite.inj read
    have notTop : (unpackExponent bits).toNat ≠ 2047 := fun same =>
      top (BitVec.toNat_inj.mp same)
    change ((unpackExponent bits).toNat : Int) - (1023 + 52) ≤ 971
    omega

/-- A number has no whole part if the bits of its exponent are all set. -/
theorem truncate?_eq_none_iff (x : Float) :
    truncate? x = none ↔ x.isInf = true ∨ x.isNaN = true := by
  have power : twoTo 52 = 2 ^ 52 := rfl
  rw [isInf_iff, isNaN_iff, ← and_or_left, and_iff_left (em _)]
  simp only [truncate?, Binary64.ofFloat, power]
  split_ifs <;> simp_all

theorem not_isNaN_of_isInf {x : Float} (infinite : x.isInf = true) : x.isNaN = false := by
  rw [Bool.eq_false_iff, Ne, isNaN_iff, not_and_not_right]
  exact fun _ => ((isInf_iff x).mp infinite).2

theorem isInf_ofBits (bits : UInt64) :
    (Float.ofBits bits).isInf = true ↔
      bits.toNat / 2 ^ 52 % 2048 = 2047 ∧ bits.toNat % 2 ^ 52 = 0 := by
  change (UnpackedFloat.unpack Format.binary64 (UnpackedFloat.pack Format.binary64
    (UnpackedFloat.unpack Format.binary64 bits.toBitVec))).isInf = true ↔ _
  have within : ¬∃ sign mantissa exponent positive,
      UnpackedFloat.unpack Format.binary64 bits.toBitVec =
        .finite sign mantissa exponent positive ∧ 971 < exponent := by
    rintro ⟨sign, mantissa, exponent, positive, read, beyond⟩
    have := exponent_le_of_unpack read
    omega
  rw [isInf_unpack_pack, or_iff_left within, isInf_unpack, unpackExponent_eq_iff,
    unpackMantissa_eq_iff]
  rfl

/-! ## Whole numbers -/

/-- The middle between the greatest finite number, which is `2 ^ 1024 - 2 ^ 971`, and the power of
two behind it. -/
def overflowBound : Nat := 2 ^ 1024 - 2 ^ 970

theorem isInf_toFloat {mantissa : Nat} {exponent : Int} (negative : Bool)
    (small : mantissa < 2 ^ 53) (least : -1074 ≤ exponent) :
    (Binary64.finite negative mantissa exponent).toFloat.isInf = true ↔ 971 < exponent := by
  have signed : ∃ sign ≤ 1, (if negative then twoTo 63 else 0) = sign * 2 ^ 63 := by
    cases negative
    · exact ⟨0, by omega, rfl⟩
    · exact ⟨1, by omega, rfl⟩
  obtain ⟨sign, single, signed⟩ := signed
  have power : twoTo 52 = 2 ^ 52 := rfl
  simp only [Binary64.toFloat, signed, power, greatestExponent]
  split_ifs with beyond subnormal
  · rw [isInf_ofBits, UInt64.toNat_ofNat']
    omega
  · rw [isInf_ofBits, UInt64.toNat_ofNat']
    omega
  · rw [isInf_ofBits, UInt64.toNat_ofNat']
    omega

/-- The grid on which a positive whole number is rounded. -/
theorem gridExponent_one {n : Nat} (positive : 0 < n) :
    gridExponent n 1 = (n.log2 : Int) - 52 := by
  have below : 2 ^ n.log2 ≤ n := Nat.log2_self_le positive.ne'
  have least : leastExponent = -1074 := rfl
  have one : Nat.log2 1 = 0 := by decide
  have scaled : ¬(scaleByTwo n 1 (-(n.log2 - (0 : Nat)))).1 <
      (scaleByTwo n 1 (-(n.log2 - (0 : Nat)))).2 := by
    unfold scaleByTwo
    split_ifs with unscaled
    · have zero : n.log2 = 0 := by omega
      simpa [zero, twoTo] using positive.ne'
    · simpa [twoTo] using below
  simp only [gridExponent, one, scaled, if_false, least]
  omega

/-- A whole number with few digits is moved up to the full mantissa. -/
theorem nearest_of_small {n : Nat} (positive : 0 < n) (small : n.log2 ≤ 52) :
    ∃ mantissa, mantissa < 2 ^ 53 ∧ nearest n 1 = (mantissa, (n.log2 : Int) - 52) := by
  have full : n * 2 ^ (52 - n.log2) < 2 ^ 53 := by
    calc n * 2 ^ (52 - n.log2) < 2 ^ (n.log2 + 1) * 2 ^ (52 - n.log2) :=
          Nat.mul_lt_mul_of_pos_right Nat.lt_log2_self (Nat.two_pow_pos _)
      _ = 2 ^ 53 := by rw [← pow_add]; congr 1; omega
  have shift : (-((n.log2 : Int) - 52)).toNat = 52 - n.log2 := by omega
  have exact : scaleByTwo n 1 (-((n.log2 : Int) - 52)) = (n * 2 ^ (52 - n.log2), 1) := by
    rw [scaleByTwo, if_pos (by omega), shift]
    rfl
  refine ⟨n * 2 ^ (52 - n.log2), full, ?_⟩
  simp only [nearest, gridExponent_one positive, exact, roundQuotient_one]
  rw [if_neg (by simpa using positive.ne'), if_neg (by simpa [twoTo] using full.ne)]

/-- A whole number with many digits is rounded, and carried when it rounds up to the next power of
two. -/
theorem nearest_of_large {n : Nat} (positive : 0 < n) (large : 52 < n.log2) :
    ∃ mantissa, mantissa ≤ 2 ^ 53 ∧ IsNearest mantissa (n / (2 ^ (n.log2 - 52) : Nat)) ∧
      nearest n 1 = if mantissa = 2 ^ 53 then (2 ^ 52, (n.log2 : Int) - 51)
        else (mantissa, (n.log2 : Int) - 52) := by
  have isNearest := isNearest_roundQuotient n (Nat.two_pow_pos (n.log2 - 52))
  have below : n ≤ 2 ^ 53 * 2 ^ (n.log2 - 52) := by
    calc n ≤ 2 ^ (n.log2 + 1) := Nat.lt_log2_self.le
      _ = 2 ^ 53 * 2 ^ (n.log2 - 52) := by rw [← pow_add]; congr 1; omega
  have shift : (-(-((n.log2 : Int) - 52))).toNat = n.log2 - 52 := by omega
  have scaled : scaleByTwo n 1 (-((n.log2 : Int) - 52)) = (n, 2 ^ (n.log2 - 52)) := by
    rw [scaleByTwo, if_neg (by omega), shift, Nat.one_mul]
    rfl
  refine ⟨_, isNearest.ge_of_ge ?_, isNearest, ?_⟩
  · rw [div_le_iff₀ (by positivity)]
    exact_mod_cast below
  · simp only [nearest, gridExponent_one positive, scaled]
    rw [if_neg (by simpa using positive.ne')]
    split_ifs with carried carried' carried'
    · exact Prod.ext rfl (by dsimp only; omega)
    · exact absurd (beq_iff_eq.mp carried) carried'
    · exact absurd (beq_iff_eq.mpr carried') carried
    · rfl

/-- A number between two powers of two is carried from the middle between the greatest mantissa and
the next power of two on. -/
theorem carried_iff {n mantissa shift : Nat} (most : mantissa ≤ 2 ^ 53)
    (isNearest : IsNearest mantissa (n / (2 ^ (shift + 1) : Nat))) :
    mantissa = 2 ^ 53 ↔ 2 ^ 54 * 2 ^ shift - 2 ^ shift ≤ n := by
  have reached := isNearest.even_le_iff (show Even (2 ^ 53) by decide)
  have positive : 0 < 2 ^ shift := Nat.two_pow_pos shift
  have double : ((2 ^ (shift + 1) : Nat) : ℚ) = 2 * (2 ^ shift : Nat) := by
    rw [pow_succ, Nat.cast_mul, Nat.cast_two, mul_comm]
  rw [show mantissa = 2 ^ 53 ↔ 2 ^ 53 ≤ mantissa by omega, reached, le_div_iff₀ (by positivity),
    double]
  generalize 2 ^ shift = half at positive
  rw [← @Nat.cast_le ℚ, Nat.cast_sub (by omega)]
  push_cast
  constructor <;> intro close <;> linarith

/-- The exponent is too large from the middle between the greatest number and the next power of two
on. -/
theorem nearest_whole (n : Nat) :
    ∃ mantissa exponent, nearest n 1 = (mantissa, exponent) ∧ mantissa < 2 ^ 53 ∧
      -1074 ≤ exponent ∧ (971 < exponent ↔ overflowBound ≤ n) := by
  have top : (2 : Nat) ^ 1024 = 2 ^ 54 * 2 ^ 970 := by rw [← pow_add]
  have half : (2 : Nat) ^ 1023 = 2 ^ 53 * 2 ^ 970 := by rw [← pow_add]
  have positive : 0 < (2 : Nat) ^ 970 := by positivity
  rw [overflowBound, top]
  by_cases small : n < 2 ^ 53
  · have low : ¬2 ^ 54 * 2 ^ 970 - 2 ^ 970 ≤ n := by
      have wide : (2 : Nat) ^ 970 = 2 ^ 53 * 2 ^ 917 := by rw [← pow_add]
      omega
    rcases n.eq_zero_or_pos with rfl | filled
    · exact ⟨0, -1074, rfl, by decide, le_rfl, iff_of_false (by decide) low⟩
    · have short : n.log2 < 53 := (Nat.log2_lt filled.ne').mpr small
      obtain ⟨mantissa, full, same⟩ := nearest_of_small filled (by omega)
      exact ⟨_, _, same, full, by omega, iff_of_false (by omega) low⟩
  · have filled : 0 < n := by omega
    have long : ¬n.log2 < 53 := fun short => small ((Nat.log2_lt filled.ne').mp short)
    obtain ⟨mantissa, most, isNearest, same⟩ := nearest_of_large filled (by omega)
    have above (bound : Nat) : bound ≤ n.log2 ↔ 2 ^ bound ≤ n := Nat.le_log2 filled.ne'
    have below (bound : Nat) : n.log2 < bound ↔ n < 2 ^ bound := Nat.log2_lt filled.ne'
    have above := above 1024
    have below := below 1023
    rw [top] at above
    rw [half] at below
    rw [same]
    by_cases last : n.log2 = 1023
    · rw [last, show 1023 - 52 = 970 + 1 from rfl] at isNearest
      rw [last]
      have carried := carried_iff most isNearest
      split_ifs with full
      · exact ⟨_, _, rfl, by decide, by decide, iff_of_true (by decide) (carried.mp full)⟩
      · refine ⟨_, _, rfl, by omega, by decide, iff_of_false (by decide) fun reached => ?_⟩
        exact full (carried.mpr reached)
    · split_ifs with full
      · exact ⟨_, _, rfl, by decide, by omega, by omega⟩
      · exact ⟨_, _, rfl, by omega, by omega, by omega⟩

/-- **The number nearest to a whole number is infinite** exactly from the middle between the
greatest finite number and the power of two behind it on. -/
theorem isInf_ofRat_iff (n : Int) :
    (Binary64.ofRat n).toFloat.isInf = true ↔ overflowBound ≤ n.natAbs := by
  obtain ⟨mantissa, exponent, same, small, least, beyond⟩ := nearest_whole n.natAbs
  have whole : Binary64.ofRat n = .finite (n < 0) mantissa exponent := by
    simp only [Binary64.ofRat, Rat.num_intCast, Rat.den_intCast, same]
    exact congrArg (Binary64.finite · mantissa exponent) (decide_eq_decide.mpr Iff.rfl)
  rw [whole, isInf_toFloat _ small least, beyond]

end BotBench.Number
