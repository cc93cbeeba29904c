import Mathlib.Algebra.Order.Field.Power
import Mathlib.Algebra.Order.Ring.Abs
import Mathlib.Data.Rat.Cast.Order
import Mathlib.Tactic.Linarith
import Mathlib.Tactic.NormNum
import Mathlib.Tactic.Positivity

/-!
# The nearest floating-point number

A significand has 53 bits, so the floating-point numbers from `2 ^ 63` on are multiples of `2 ^ 11`,
and a whole number that takes up all 64 bits of a word has to be rounded to one of them. The number
is divided by `2 ^ 11`, which leaves 53 bits, a round bit and a sticky bit. These two say on which
side of the middle between two whole numbers the quotient lies, and that is all that rounding needs.

Every other floating-point number is a multiple of `2 ^ 11` as well or lies below `2 ^ 63`, where it
is farther away than `2 ^ 63`, itself a multiple. So the result is the nearest of all floating-point
numbers and not only of the multiples.

## Main definitions

* `PageTemplate.Decimal.exact` — the number that a floating-point number stands for.
* `PageTemplate.Decimal.IsNearest` — a floating-point number is the nearest one to a number; of two
  that are equally near it is the one with the even significand.
* `PageTemplate.Decimal.IsRounding` — the same for whole numbers.
* `PageTemplate.Decimal.Represents` — what a significand with a round bit and a sticky bit says of a
  number.

## Main statements

* `PageTemplate.Decimal.Represents.isRounding` — what is represented is rounded to a nearest whole
  number.
* `PageTemplate.Decimal.isNearest_toFloat` — a word with its highest bit set is converted to the
  nearest floating-point number.
-/

namespace PageTemplate.Decimal

open Float.Model (Format UnpackedFloat totalExponent)
open Float.Model.UnpackedFloat

/-! ### What a floating-point number stands for -/

/-- The significand of a 64-bit floating-point number, with its sign. That of zero, and of what is
not finite, is zero. -/
def significand (x : Float) : ℤ :=
  match x.toModel.unpack with
  | .finite s m _ _ => s.apply m
  | _ => 0

/-- The exponent to the base two. -/
def exponent (x : Float) : ℤ :=
  match x.toModel.unpack with
  | .finite _ _ e _ => e
  | _ => 0

/-- The number that a finite floating-point number stands for. -/
def exact (x : Float) : ℚ :=
  significand x * 2 ^ exponent x

/-- No finite floating-point number is nearer to `q` than `x`. If another one is equally near, the
significand of `x` is even. -/
structure IsNearest (x : Float) (q : ℚ) : Prop where
  isFinite : x.isFinite = true
  le : ∀ y : Float, y.isFinite = true → |exact x - q| ≤ |exact y - q|
  even : ∀ y : Float, y.isFinite = true → exact y ≠ exact x → |exact y - q| = |exact x - q| →
    Even (significand x)

/-- What is unpacked has a significand of 53 bits, of which the highest one is implicit unless the
exponent is zero. -/
theorem lt_of_unpack_eq_finite {b : BitVec Format.binary64.numBits} {s : Sign} {m : ℕ} {e : ℤ}
    {hm : 0 < m} (h : UnpackedFloat.unpack Format.binary64 b = .finite s m e hm) : m < 2 ^ 53 := by
  by_cases hmax : unpackExponent b = -1#11
  · by_cases hzero : unpackMantissa b = 0#52
    · cases ((if_pos hmax).trans (if_pos hzero)).symm.trans h
    · cases ((if_pos hmax).trans (if_neg hzero)).symm.trans h
  · by_cases hmin : unpackExponent b = 0#11
    · by_cases hzero : unpackMantissa b = 0#52
      · cases ((if_neg hmax).trans ((if_pos hmin).trans (dif_pos hzero))).symm.trans h
      · cases ((if_neg hmax).trans ((if_pos hmin).trans (dif_neg hzero))).symm.trans h
        exact lt_trans (unpackMantissa b).isLt (by decide)
    · cases ((if_neg hmax).trans (if_neg hmin)).symm.trans h
      exact (1#1 ++ unpackMantissa b).isLt

/-- A significand has 53 bits. -/
theorem abs_significand_lt (x : Float) : |significand x| < 2 ^ 53 := by
  rw [significand]
  cases hx : x.toModel.unpack with
  | finite s m e hm =>
    have hlt : m < 2 ^ 53 := lt_of_unpack_eq_finite hx
    cases s <;> simp only [Sign.apply, abs_neg, Nat.abs_cast] <;> exact_mod_cast hlt
  | _ => simp

/-- A floating-point number lies below `2 ^ 63` or is a multiple of `2 ^ 11`. -/
theorem exact_lt_or_eq_mul (y : Float) : exact y < 2 ^ 63 ∨ ∃ k : ℤ, exact y = k * 2 ^ 11 := by
  obtain he | he := lt_or_ge (exponent y) 11
  · left
    have hsig : (significand y : ℚ) < 2 ^ 53 := by
      exact_mod_cast lt_of_abs_lt (abs_significand_lt y)
    calc exact y < 2 ^ 53 * 2 ^ exponent y := mul_lt_mul_of_pos_right hsig (by positivity)
      _ ≤ 2 ^ 53 * 2 ^ (10 : ℤ) := by
        gcongr
        · norm_num
        · omega
      _ = 2 ^ 63 := by norm_num
  · right
    obtain ⟨j, hj⟩ := Int.eq_ofNat_of_zero_le (sub_nonneg.mpr he)
    have hsum : exponent y = j + (11 : ℕ) := by omega
    refine ⟨significand y * 2 ^ j, ?_⟩
    rw [exact, hsum, zpow_add₀ two_ne_zero, zpow_natCast, zpow_natCast, ← mul_assoc]
    push_cast
    rfl

/-! ### Nearest whole numbers -/

/-- No whole number is nearer to `q` than `r`. If another one is equally near, `r` is even. -/
def IsRounding (r : ℕ) (q : ℚ) : Prop :=
  |r - q| < 1 / 2 ∨ |r - q| = 1 / 2 ∧ Even r

/-- Two whole numbers cannot both be within less than one half of a number. -/
theorem one_le_abs_add_abs {r : ℕ} {k : ℤ} (hne : k ≠ r) (q : ℚ) : 1 ≤ |k - q| + |r - q| := by
  have hone : (1 : ℚ) ≤ |(k : ℚ) - r| := by exact_mod_cast Int.one_le_abs (sub_ne_zero.mpr hne)
  have htriangle : |(k : ℚ) - r| ≤ |k - q| + |q - r| := abs_sub_le _ _ _
  rw [abs_sub_comm q] at htriangle
  exact hone.trans htriangle

namespace IsRounding

variable {r : ℕ} {q : ℚ}

theorem le_half (h : IsRounding r q) : |r - q| ≤ 1 / 2 :=
  h.elim le_of_lt fun h => h.1.le

theorem le (h : IsRounding r q) (k : ℤ) : |r - q| ≤ |k - q| := by
  obtain rfl | hne := eq_or_ne k r
  · exact le_rfl
  · linarith [one_le_abs_add_abs hne q, h.le_half]

theorem even (h : IsRounding r q) {k : ℤ} (hne : k ≠ r) (htie : |k - q| = |r - q|) : Even r := by
  obtain hlt | ⟨-, heven⟩ := h
  · linarith [one_le_abs_add_abs hne q]
  · exact heven

/-- Rounding does not leave an interval between whole numbers. -/
theorem between {a b : ℕ} (h : IsRounding r q) (ha : a ≤ q) (hb : q < b) : a ≤ r ∧ r ≤ b := by
  obtain ⟨hlow, hhigh⟩ := abs_le.mp h.le_half
  constructor
  · have hlt : (a : ℚ) < r + 1 := by linarith
    exact Nat.lt_succ_iff.mp (by exact_mod_cast hlt)
  · have hlt : (r : ℚ) < b + 1 := by linarith
    exact Nat.lt_succ_iff.mp (by exact_mod_cast hlt)

end IsRounding

/-! ### Significands with a round bit and a sticky bit -/

/-- The significand is the whole part of `q`. The round bit says whether the rest reaches one half,
and the sticky bit whether anything remains beyond that. -/
def Represents (em : ExtendedMantissa) (q : ℚ) : Prop :=
  match em.roundBit, em.stickyBit with
  | false, false => q = em.mantissa
  | false, true => em.mantissa < q ∧ q < em.mantissa + 1 / 2
  | true, false => q = em.mantissa + 1 / 2
  | true, true => em.mantissa + 1 / 2 < q ∧ q < em.mantissa + 1

namespace Represents

variable {em : ExtendedMantissa} {q : ℚ}

theorem ofNat (n : ℕ) : Represents (.ofMantissaAndAccuracy n .exact) n :=
  rfl

theorem shiftRightOne (h : Represents em q) : Represents em.shiftRightOne (q / 2) := by
  obtain ⟨m, round, sticky⟩ := em
  have hm : (m : ℚ) = 2 * (m / 2 : ℕ) + (m % 2 : ℕ) := by
    exact_mod_cast (Nat.div_add_mod m 2).symm
  -- the last bit of the significand becomes the round bit, the two old bits the sticky bit
  obtain hbit | hbit := Nat.mod_two_eq_zero_or_one m <;> rw [hbit] at hm <;>
    cases round <;> cases sticky <;>
    simp only [Represents, ExtendedMantissa.shiftRightOne, hbit] at h ⊢ <;> grind

theorem shiftRight (h : Represents em q) (k : ℕ) : Represents (em >>> k) (q / 2 ^ k) := by
  induction k with
  | zero =>
    rw [pow_zero, div_one]
    exact h
  | succ k ih =>
    rw [pow_succ, ← div_div]
    exact ih.shiftRightOne

/-- What is represented is rounded to a nearest whole number. -/
theorem isRounding (h : Represents em q) : IsRounding em.roundedMantissa q := by
  obtain ⟨m, round, sticky⟩ := em
  match round, sticky, h with
  | false, false, (h : q = m) =>
    left
    change |(m : ℚ) - q| < 1 / 2
    rw [h, sub_self, abs_zero]
    norm_num
  | false, true, (h : m < q ∧ q < m + 1 / 2) =>
    left
    change |(m : ℚ) - q| < 1 / 2
    exact abs_lt.mpr ⟨by linarith, by linarith⟩
  | true, true, (h : m + 1 / 2 < q ∧ q < m + 1) =>
    left
    change |((m + 1 : ℕ) : ℚ) - q| < 1 / 2
    push_cast
    exact abs_lt.mpr ⟨by linarith, by linarith⟩
  | true, false, (h : q = m + 1 / 2) =>
    right
    change |((m + m % 2 : ℕ) : ℚ) - q| = 1 / 2 ∧ Even (m + m % 2)
    obtain hbit | hbit := Nat.mod_two_eq_zero_or_one m <;> rw [h, hbit] <;> push_cast
    · exact ⟨by norm_num, Nat.even_iff.mpr hbit⟩
    · exact ⟨by norm_num, (Nat.odd_iff.mpr hbit).add_one⟩

end Represents

/-! ### Significands of 53 bits -/

/-- A significand with `k` bits too many is shifted to the right by `k` bits. -/
theorem shiftToTargetExponent_eq {n k : ℕ} {e : ℤ} (hlog : n.log2 = 52 + k) (he : -1074 ≤ e) :
    shiftToTargetExponent Format.binary64 n e .exact =
      (ExtendedMantissa.ofMantissaAndAccuracy n .exact >>> k, e + k) := by
  have htarget : Format.binary64.targetExponent (totalExponent n e) = e + k := by
    have hmin : Format.binary64.minExponent = -1074 := by decide
    have hbits : Format.binary64.mantissaBits = 53 := by decide
    simp only [Format.targetExponent, totalExponent, hlog, hmin, hbits]
    push_cast
    omega
  have hshift : (e + k - e).toNat = k := by omega
  simp only [shiftToTargetExponent, shiftToExponent, htarget, hshift]

/-- What is rounded to 53 bits has 53 bits, or it is `2 ^ 53` and is halved without loss. -/
theorem exists_shiftToTargetExponent {r : ℕ} (hlow : 2 ^ 52 ≤ r) (hhigh : r ≤ 2 ^ 53) :
    ∃ m k : ℕ, (2 ^ 52 ≤ m ∧ m < 2 ^ 53) ∧ k ≤ 1 ∧ m * 2 ^ k = r ∧ (Even r → Even m) ∧
      (shiftToTargetExponent Format.binary64 r 11 .exact).1.mantissa = m ∧
      (shiftToTargetExponent Format.binary64 r 11 .exact).2 = 11 + k := by
  obtain hlt | rfl := hhigh.lt_or_eq
  · have hlog : r.log2 = 52 + 0 := (Nat.log2_eq_iff (by omega)).mpr ⟨hlow, hlt⟩
    rw [shiftToTargetExponent_eq hlog (by decide)]
    exact ⟨r, 0, ⟨hlow, hlt⟩, by decide, mul_one r, id, rfl, rfl⟩
  · have hlog : (2 ^ 53).log2 = 52 + 1 := Nat.log2_two_pow
    rw [shiftToTargetExponent_eq hlog (by decide)]
    exact ⟨2 ^ 52, 1, ⟨le_rfl, by decide⟩, le_rfl, by decide, fun _ => by decide, rfl, rfl⟩

/-- The highest bit of a significand is implicit. -/
theorem toNat_append_of_lt {m : ℕ} (hlow : 2 ^ 52 ≤ m) (hhigh : m < 2 ^ 53) :
    (1#1 ++ BitVec.ofNat 52 m).toNat = m := by
  rw [BitVec.toNat_append, ← Nat.shiftLeft_add_eq_or_of_lt (BitVec.isLt _), BitVec.toNat_ofNat,
    Nat.shiftLeft_eq, BitVec.toNat_ofNat]
  omega

/-- The sign of a packed number is its highest bit. -/
theorem ofBitVec_unpackSign (s : Sign) (e : BitVec 11) (m : BitVec 52) :
    Sign.ofBitVec (unpackSign (packComponents Format.binary64 s e m)) = s := by
  have hsign : unpackSign (packComponents Format.binary64 s e m) = s.toBitVec := by
    change BitVec.cast _ (BitVec.extractLsb 63 63 (s.toBitVec ++ e ++ m)) = _
    rw [BitVec.extractLsb, BitVec.extractLsb'_append_eq_of_le (by decide),
      BitVec.extractLsb'_append_eq_of_le (by decide)]
    exact BitVec.extractLsb'_eq_self
  rw [hsign]
  cases s <;> rfl

/-- A number with a significand of 53 bits is packed with the highest bit left out. -/
theorem pack_finite {m b : ℕ} {e : ℤ} (hm : 0 < m) (hlog : m.log2 = 52)
    (hb : (e + 1023 + 52).toNat = b) (hlt : b + 1 < 2 ^ 11) (s : Sign) :
    UnpackedFloat.pack Format.binary64 (.finite s m e hm) =
      packComponents Format.binary64 s (BitVec.ofNat 11 b) (BitVec.ofNat 52 m) := by
  have hpack : UnpackedFloat.pack Format.binary64 (.finite s m e hm) =
      if 2 ^ 11 ≤ (e + 1023 + 52).toNat + 1 then packedInfinity Format.binary64 s
      else if m.log2 + 1 = 53 then
        packComponents Format.binary64 s (BitVec.ofNat 11 (e + 1023 + 52).toNat) (BitVec.ofNat 52 m)
      else packComponents Format.binary64 s 0#11 (BitVec.ofNat 52 m) := rfl
  rw [hpack, hb, hlog, if_neg (by omega), if_pos rfl]

/-- If the exponent is neither the greatest nor the least one, the highest bit is put back. -/
theorem exists_unpack_eq {v : BitVec Format.binary64.numBits} (hmax : unpackExponent v ≠ -1#11)
    (hmin : unpackExponent v ≠ 0#11) :
    ∃ hpos : 0 < (1#1 ++ unpackMantissa v).toNat, UnpackedFloat.unpack Format.binary64 v =
      .finite (Sign.ofBitVec (unpackSign v)) (1#1 ++ unpackMantissa v).toNat
        ((unpackExponent v).toNat - (1023 + 52)) hpos :=
  ⟨_, (if_neg hmax).trans (if_neg hmin)⟩

theorem finite_congr {s : Sign} {m m' : ℕ} {e e' : ℤ} {hm : 0 < m} {hm' : 0 < m'} (h : m = m')
    (he : e = e') : UnpackedFloat.finite s m e hm = .finite s m' e' hm' := by
  subst h he
  rfl

/-- Nothing is lost in a floating-point number whose significand has 53 bits. -/
theorem unpack_pack_finite {m : ℕ} {e : ℤ} (hm : 0 < m) (hlow : 2 ^ 52 ≤ m) (hhigh : m < 2 ^ 53)
    (he : -1074 ≤ e) (he' : e ≤ 971) (s : Sign) :
    (Float.Model.pack (.finite s m e hm)).unpack = .finite s m e hm := by
  have hlog : m.log2 = 52 := (Nat.log2_eq_iff hm.ne').mpr ⟨hlow, hhigh⟩
  obtain ⟨b, hb⟩ : ∃ b : ℕ, (e + 1023 + 52).toNat = b := ⟨_, rfl⟩
  have hpack := pack_finite hm hlog hb (by omega) s
  have hexp : (BitVec.ofNat 11 b).toNat = b := by
    rw [BitVec.toNat_ofNat]
    omega
  have hne : BitVec.ofNat 11 b ≠ -1#11 := by
    rw [ne_eq, ← BitVec.toNat_inj, hexp]
    change b ≠ 2047
    omega
  have hne' : BitVec.ofNat 11 b ≠ 0#11 := by
    rw [ne_eq, ← BitVec.toNat_inj, hexp]
    change b ≠ 0
    omega
  have hunpack : unpackExponent (packComponents Format.binary64 s (BitVec.ofNat 11 b)
      (BitVec.ofNat 52 m)) = BitVec.ofNat 11 b := unpackExponent_packComponents
  obtain ⟨hpos, heq⟩ := exists_unpack_eq (hunpack.trans_ne hne) (hunpack.trans_ne hne')
  change UnpackedFloat.unpack Format.binary64
    (UnpackedFloat.pack Format.binary64 (.finite s m e hm)) = _
  rw [hpack, heq, ofBitVec_unpackSign]
  refine finite_congr ?_ ?_
  · rw [unpackMantissa_packComponents]
    exact toNat_append_of_lt hlow hhigh
  · rw [hunpack, hexp]
    omega

/-! ### Words with their highest bit set -/

section

variable {n : ℕ} (hlow : 2 ^ 63 ≤ n) (hhigh : n < 2 ^ 64)
include hlow hhigh

/-- The number is divided by `2 ^ 11` and rounded; `k` is 1 if this carries into a further bit. -/
theorem exists_round_eq :
    ∃ r m k : ℕ, IsRounding r (n / 2 ^ 11) ∧ (2 ^ 52 ≤ m ∧ m < 2 ^ 53) ∧ k ≤ 1 ∧ m * 2 ^ k = r ∧
      (Even r → Even m) ∧ ∃ hm : 0 < m, UnpackedFloat.round Format.binary64 .positive n 0 =
        .finite .positive m (11 + k) hm := by
  have hlog : n.log2 = 52 + 11 := (Nat.log2_eq_iff (by omega)).mpr ⟨hlow, hhigh⟩
  have hshift : shiftToTargetExponent Format.binary64 n 0 .exact =
      (ExtendedMantissa.ofMantissaAndAccuracy n .exact >>> 11, 11) :=
    shiftToTargetExponent_eq hlog (by decide)
  have hdecrease : decreaseExponent n 0 (Format.binary64.targetExponent (totalExponent n 0)) =
      (n, 0) := by
    rw [totalExponent, hlog]
    exact Prod.ext Nat.shiftLeft_zero rfl
  obtain ⟨r, hr⟩ : ∃ r,
      (ExtendedMantissa.ofMantissaAndAccuracy n .exact >>> 11).roundedMantissa = r := ⟨_, rfl⟩
  have hround : IsRounding r (n / 2 ^ 11) := hr ▸ ((Represents.ofNat n).shiftRight 11).isRounding
  obtain ⟨hrlow, hrhigh⟩ : 2 ^ 52 ≤ r ∧ r ≤ 2 ^ 53 := by
    apply hround.between
    · rw [le_div_iff₀ (by norm_num)]
      exact_mod_cast hlow
    · rw [div_lt_iff₀ (by norm_num)]
      exact_mod_cast hhigh
  obtain ⟨m, k, hm, hk, hmul, heven, hmant, hexp⟩ := exists_shiftToTargetExponent hrlow hrhigh
  refine ⟨r, m, k, hround, hm, hk, hmul, heven, by omega, ?_⟩
  have hne : (shiftToTargetExponent Format.binary64 r 11 .exact).1.mantissa ≠ 0 := by omega
  rw [UnpackedFloat.round, hdecrease]
  dsimp only
  rw [roundWithAccuracy, hshift]
  subst hr
  exact (dif_neg hne).trans (finite_congr hmant hexp)

theorem exists_unpack_toFloat :
    ∃ r m k : ℕ, IsRounding r (n / 2 ^ 11) ∧ m * 2 ^ k = r ∧ (Even r → Even m) ∧
      ∃ hm : 0 < m, (UInt64.ofNat n).toFloat.toModel.unpack = .finite .positive m (11 + k) hm := by
  obtain ⟨r, m, k, hround, ⟨hmlow, hmhigh⟩, hk, hmul, heven, hm, heq⟩ := exists_round_eq hlow hhigh
  have hword : (UInt64.ofNat n).toNat = n := UInt64.toNat_ofNat_of_lt hhigh
  have hpos : compare (n : ℤ) 0 = .gt := compare_gt_iff_gt.mpr (by omega)
  have hof : UnpackedFloat.ofUInt64 Format.binary64 (UInt64.ofNat n) =
      UnpackedFloat.round Format.binary64 .positive n 0 := by
    simp only [ofUInt64, UnpackedFloat.ofNat, UnpackedFloat.ofInt, UnpackedFloat.normalize, hword,
      hpos, Int.toNat_natCast]
  refine ⟨r, m, k, hround, hmul, heven, hm, ?_⟩
  rw [← unpack_pack_finite hm hmlow hmhigh (by omega) (by omega), ← heq, ← hof]
  rfl

end

theorem abs_mul_sub (a q : ℚ) : |a * 2 ^ 11 - q| = |a - q / 2 ^ 11| * 2 ^ 11 := by
  have hpos : (0 : ℚ) < 2 ^ 11 := by positivity
  rw [← abs_of_pos hpos, ← abs_mul, sub_mul, abs_of_pos hpos, div_mul_cancel₀ q hpos.ne']

/-- From `2 ^ 63` on, all that lies below is farther away than the nearest multiple of `2 ^ 11`. -/
theorem IsRounding.lt_of_lt {r : ℕ} {q a : ℚ} (h : IsRounding r (q / 2 ^ 11)) (hq : 2 ^ 63 ≤ q)
    (ha : a < 2 ^ 63) : |r * 2 ^ 11 - q| < |a - q| := by
  have hle := h.le (2 ^ 52)
  calc |r * 2 ^ 11 - q| ≤ |((2 ^ 52 : ℤ) : ℚ) * 2 ^ 11 - q| := by
        rw [abs_mul_sub, abs_mul_sub]
        exact mul_le_mul_of_nonneg_right hle (by positivity)
    _ = q - 2 ^ 63 := by
        have hmul : ((2 ^ 52 : ℤ) : ℚ) * 2 ^ 11 = 2 ^ 63 := by norm_num
        rw [hmul, abs_sub_comm, abs_of_nonneg (by linarith)]
    _ < q - a := by linarith
    _ ≤ |a - q| := by
        rw [abs_sub_comm]
        exact le_abs_self _

/-- The nearest multiple of `2 ^ 11` is the nearest floating-point number. -/
theorem isNearest_of_isRounding {x : Float} {r : ℕ} {q : ℚ} (hfinite : x.isFinite = true)
    (hexact : exact x = r * 2 ^ 11) (heven : Even r → Even (significand x)) (hq : 2 ^ 63 ≤ q)
    (hround : IsRounding r (q / 2 ^ 11)) : IsNearest x q := by
  refine ⟨hfinite, ?_, ?_⟩
  · rintro y -
    rw [hexact]
    obtain hlt | ⟨k, hk⟩ := exact_lt_or_eq_mul y
    · exact (hround.lt_of_lt hq hlt).le
    · rw [hk, abs_mul_sub, abs_mul_sub]
      exact mul_le_mul_of_nonneg_right (hround.le k) (by positivity)
  · rintro y - hne htie
    rw [hexact] at hne htie
    obtain hlt | ⟨k, hk⟩ := exact_lt_or_eq_mul y
    · exact absurd htie (hround.lt_of_lt hq hlt).ne'
    · rw [hk, abs_mul_sub, abs_mul_sub] at htie
      have hkr : k ≠ r := by
        rintro rfl
        exact hne (by rw [hk, Int.cast_natCast])
      exact heven (hround.even hkr (mul_right_cancel₀ (by positivity) htie))

/-- A word with its highest bit set is converted to the nearest floating-point number. -/
theorem isNearest_toFloat {n : ℕ} (hlow : 2 ^ 63 ≤ n) (hhigh : n < 2 ^ 64) :
    IsNearest (UInt64.ofNat n).toFloat n := by
  obtain ⟨r, m, k, hround, hmul, heven, hm, hunpack⟩ := exists_unpack_toFloat hlow hhigh
  have hsig : significand (UInt64.ofNat n).toFloat = m := by
    rw [significand, hunpack]
    rfl
  have hexp : exponent (UInt64.ofNat n).toFloat = 11 + k := by rw [exponent, hunpack]
  refine isNearest_of_isRounding ?_ ?_ ?_ (by exact_mod_cast hlow) hround
  · change UnpackedFloat.isFinite _ = true
    rw [hunpack]
    rfl
  · have hmul' : (m : ℚ) * 2 ^ k = r := by exact_mod_cast hmul
    rw [exact, hsig, hexp, ← hmul', add_comm, zpow_add₀ two_ne_zero, zpow_natCast, ← mul_assoc]
    norm_cast
  · rw [hsig, Int.even_coe_nat]
    exact heven

end PageTemplate.Decimal
