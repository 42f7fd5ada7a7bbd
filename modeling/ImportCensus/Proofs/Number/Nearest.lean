import ImportCensus.Proofs.Number.Rounding
import Mathlib

namespace ImportCensus
namespace Number

/-!
# Nearest numbers

Rounding in terms of rational numbers.  A quotient is rounded to a nearest natural number, and
what results depends on its value alone.  A binary number that a quotient is rounded to is off
by half a unit of its last place: a part in `2 ^ 53` of the quotient, or `2 ^ (-1075)` where the
numbers are evenly spaced.  A quotient that is a number of the format keeps its value.
-/

/-! ## Natural numbers -/

/-- The natural number nearest to a rational one that is not negative; a tie goes to the even one. -/
def roundEven (x : ℚ) : Nat := roundDiv x.num.toNat x.den

variable {num den : Nat} {x : ℚ}

/-- A common factor does not matter. -/
theorem roundDiv_mul_left {factor : Nat} (positive : 0 < factor) (num den : Nat) :
    roundDiv (factor * num) (factor * den) = roundDiv num den := by
  have less (a b : Nat) : 2 * (factor * a) < factor * b ↔ 2 * a < b := by
    rw [Nat.mul_left_comm]
    exact Nat.mul_lt_mul_left positive
  have more (a b : Nat) : factor * a < 2 * (factor * b) ↔ a < 2 * b := by
    rw [Nat.mul_left_comm]
    exact Nat.mul_lt_mul_left positive
  unfold roundDiv
  dsimp only
  simp only [Nat.mul_div_mul_left _ _ positive, Nat.mul_mod_mul_left, less, more]

/-- Rounding a quotient depends on its value alone. -/
theorem roundDiv_eq_roundEven (positive : 0 < den) (num : Nat) : roundDiv num den = roundEven (num / den) := by
  have notNegative : (0 : ℚ) ≤ num / den := by positivity
  have whole : (((num / den : ℚ).num.toNat : Nat) : ℤ) = (num / den : ℚ).num :=
    Int.toNat_of_nonneg (Rat.num_nonneg.2 notNegative)
  generalize same : (num / den : ℚ) = x at whole
  have cross : x.num.toNat * den = num * x.den := by
    have value := x.num_div_den
    rw [← same, div_eq_div_iff (by positivity) (by positivity), same, ← whole] at value
    exact_mod_cast value
  calc roundDiv num den = roundDiv (x.den * num) (x.den * den) := (roundDiv_mul_left x.den_pos _ _).symm
    _ = roundDiv (den * x.num.toNat) (den * x.den) := by
      rw [Nat.mul_comm x.den num, ← cross, Nat.mul_comm den x.num.toNat, Nat.mul_comm x.den den]
    _ = roundDiv x.num.toNat x.den := roundDiv_mul_left positive _ _

/-- Twice the distance to the quotient is at most one. -/
theorem roundDiv_near (positive : 0 < den) (num : Nat) :
    2 * (roundDiv num den * den) ≤ 2 * num + den ∧ 2 * num ≤ 2 * (roundDiv num den * den) + den := by
  have split := Nat.div_add_mod num den
  have small := Nat.mod_lt num positive
  rw [Nat.mul_comm] at split
  unfold roundDiv
  dsimp only
  split_ifs with less more even
  · omega
  · rw [Nat.add_mul]
    omega
  · omega
  · rw [Nat.add_mul]
    omega

theorem roundEven_near (notNegative : 0 ≤ x) : |(roundEven x : ℚ) - x| ≤ 1 / 2 := by
  have positive : (0 : ℚ) < x.den := by exact_mod_cast x.den_pos
  have whole : ((x.num.toNat : ℕ) : ℚ) = x * x.den := by
    rw [Rat.mul_den_eq_num]
    exact_mod_cast Int.toNat_of_nonneg (Rat.num_nonneg.2 notNegative)
  rcases roundDiv_near x.den_pos x.num.toNat with ⟨above, under⟩
  have above' : 2 * ((roundEven x : ℚ) * x.den) ≤ 2 * (x * x.den) + x.den := by
    rw [← whole]
    exact_mod_cast above
  have under' : 2 * (x * x.den) ≤ 2 * ((roundEven x : ℚ) * x.den) + x.den := by
    rw [← whole]
    exact_mod_cast under
  rw [abs_le]
  constructor
  · have scaled : (x - 1 / 2) * x.den ≤ (roundEven x : ℚ) * x.den := by linarith
    linarith [le_of_mul_le_mul_right scaled positive]
  · have scaled : (roundEven x : ℚ) * x.den ≤ (x + 1 / 2) * x.den := by linarith
    linarith [le_of_mul_le_mul_right scaled positive]

/-- A multiple of a unit that is nearest is off by half of the unit at most. -/
theorem roundEven_div_near {unit : ℚ} (notNegative : 0 ≤ x) (positive : 0 < unit) :
    |(roundEven (x / unit) : ℚ) * unit - x| ≤ unit / 2 := by
  have near := roundEven_near (div_nonneg notNegative positive.le)
  calc |(roundEven (x / unit) : ℚ) * unit - x| = |(roundEven (x / unit) : ℚ) - x / unit| * unit := by
        rw [← abs_of_pos positive, ← abs_mul, abs_of_pos positive, sub_mul, div_mul_cancel₀ _ positive.ne']
    _ ≤ 1 / 2 * unit := by gcongr
    _ = unit / 2 := by ring

theorem roundEven_natCast (n : Nat) : roundEven n = n := by
  have near := roundEven_near (x := n) (by positivity)
  have less : |((roundEven n : ℤ) - n : ℤ)| < 1 := by
    have half : |(((roundEven n : ℤ) - n : ℤ) : ℚ)| ≤ 1 / 2 := by exact_mod_cast near
    have below : |(((roundEven n : ℤ) - n : ℤ) : ℚ)| < 1 := lt_of_le_of_lt half (by norm_num)
    exact_mod_cast below
  have zero := Int.abs_lt_one_iff.1 less
  omega

theorem lt_roundDiv_of_odd {n : Nat} (positive : 0 < den) (odd : n % 2 = 1)
    (halfway : (2 * n + 1) * den ≤ 2 * num) : n < roundDiv num den := by
  rw [Nat.add_mul, Nat.mul_assoc, Nat.one_mul] at halfway
  have whole : n ≤ num / den := (Nat.le_div_iff_mul_le positive).2 (by omega)
  have split := Nat.div_add_mod num den
  unfold roundDiv
  dsimp only
  rcases Nat.eq_or_lt_of_le whole with same | less
  · rw [← same, Nat.mul_comm] at split
    rw [← same]
    split_ifs <;> omega
  · split_ifs <;> omega

/-- What lies halfway behind an odd number, or further, is rounded beyond it. -/
theorem lt_roundEven_of_odd {n : Nat} (odd : n % 2 = 1) (halfway : (n : ℚ) + 1 / 2 ≤ x) : n < roundEven x := by
  have notNegative : 0 ≤ x := le_trans (by positivity) halfway
  have positive : (0 : ℚ) < x.den := by exact_mod_cast x.den_pos
  have whole : ((x.num.toNat : ℕ) : ℚ) = x * x.den := by
    rw [Rat.mul_den_eq_num]
    exact_mod_cast Int.toNat_of_nonneg (Rat.num_nonneg.2 notNegative)
  apply lt_roundDiv_of_odd x.den_pos odd
  have scaled : (2 * (n : ℚ) + 1) * x.den ≤ 2 * (x.num.toNat : ℕ) := by
    rw [whole]
    nlinarith
  exact_mod_cast scaled

/-! ## Binary numbers -/

namespace Quotient

/-- The rational number that a quotient is without its sign. -/
def ratio (q : Quotient) : ℚ := q.num / q.den

theorem ratio_shift (q : Quotient) (power : Int) : (q.shift power).ratio = q.ratio * 2 ^ power := by
  unfold shift ratio
  split
  · next whole =>
    have raised : (2 : ℚ) ^ power = 2 ^ power.toNat := by
      rw [← zpow_natCast, Int.toNat_of_nonneg whole]
    rw [raised, Nat.pow_eq]
    push_cast
    ring
  · next below =>
    have raised : (2 : ℚ) ^ power = (2 ^ (-power).toNat)⁻¹ := by
      rw [← zpow_natCast, ← zpow_neg, Int.toNat_of_nonneg (by omega), neg_neg]
    rw [raised, Nat.pow_eq]
    push_cast
    rw [div_mul_eq_div_div, div_eq_mul_inv]

theorem ratio_shift_neg (q : Quotient) (power : Int) : (q.shift (-power)).ratio = q.ratio / 2 ^ power := by
  rw [ratio_shift, zpow_neg, div_eq_mul_inv]

theorem den_shift_pos {q : Quotient} (positive : 0 < q.den) (power : Int) : 0 < (q.shift power).den := by
  unfold shift
  split
  · exact positive
  · exact Nat.mul_pos positive (Nat.pow_pos (by decide))

/-- Logarithms of the parts of a quotient tell a power of two that it reaches. -/
theorem zpow_log2_le {q : Quotient} (nonzero : q.num ≠ 0) (positive : 0 < q.den) :
    (2 : ℚ) ^ ((q.num.log2 : Int) - q.den.log2 - 1) ≤ q.ratio := by
  have filled : (0 : ℚ) < q.den := by exact_mod_cast positive
  have reached : (2 : ℚ) ^ (q.num.log2 : Int) ≤ q.num := by
    rw [zpow_natCast]
    exact_mod_cast Nat.log2_self_le nonzero
  have limited : (q.den : ℚ) ≤ 2 ^ ((q.den.log2 : Int) + 1) := by
    have less : q.den ≤ 2 ^ (q.den.log2 + 1) := Nat.le_of_lt Nat.lt_log2_self
    have cast : ((q.den : ℕ) : ℚ) ≤ 2 ^ (q.den.log2 + 1) := by exact_mod_cast less
    rw [← zpow_natCast] at cast
    exact_mod_cast cast
  rw [ratio, le_div_iff₀ filled]
  calc (2 : ℚ) ^ ((q.num.log2 : Int) - q.den.log2 - 1) * q.den
      ≤ 2 ^ ((q.num.log2 : Int) - q.den.log2 - 1) * 2 ^ ((q.den.log2 : Int) + 1) := by gcongr
    _ = 2 ^ (q.num.log2 : Int) := by
      rw [← zpow_add₀ two_ne_zero]
      congr 1
      ring
    _ ≤ q.num := reached

end Quotient

variable {q : Quotient} {negative : Bool} {significand : Nat} {exponent : Int}

/-- A quotient is rounded at some power of two: the least one of the format, or one so small that the
significand fills its places. -/
theorem ofQuotient_rounds (nonzero : q.num ≠ 0) (positive : 0 < q.den)
    (made : Binary64.ofQuotient q = .finite negative significand exponent) :
    ∃ power : Int, Binary64.leastExponent ≤ power ∧
      (power = Binary64.leastExponent ∨ 2 ^ 52 * 2 ^ power ≤ q.ratio) ∧
      (significand : ℚ) * 2 ^ exponent = roundEven (q.ratio / 2 ^ power) * 2 ^ power := by
  unfold Binary64.ofQuotient at made
  rw [if_neg nonzero] at made
  extract_lets guess scaled exact power unit rounded at made
  have filled : (2 : ℚ) ^ 52 * 2 ^ exact ≤ q.ratio := by
    by_cases less : scaled.num < scaled.den * Nat.pow 2 52
    · have lowered : exact = guess - 1 := if_pos less
      calc (2 : ℚ) ^ 52 * 2 ^ exact = 2 ^ ((52 : ℤ) + (guess - 1)) := by
            rw [lowered, zpow_add₀ two_ne_zero]
            rfl
        _ = 2 ^ ((q.num.log2 : Int) - q.den.log2 - 1) := by
          congr 1
          omega
        _ ≤ q.ratio := Quotient.zpow_log2_le nonzero positive
    · have kept : exact = guess := if_neg less
      have reached : (2 : ℚ) ^ 52 ≤ scaled.ratio := by
        have cast : ((scaled.den * 2 ^ 52 : ℕ) : ℚ) ≤ scaled.num := by exact_mod_cast Nat.not_lt.1 less
        have pos : (0 : ℚ) < scaled.den := by exact_mod_cast Quotient.den_shift_pos positive _
        rw [Quotient.ratio, le_div_iff₀ pos, mul_comm]
        exact_mod_cast cast
      rw [Quotient.ratio_shift_neg, le_div_iff₀ (by positivity)] at reached
      rwa [kept]
  have value : (rounded : ℚ) = roundEven (q.ratio / 2 ^ power) := by
    rw [← Quotient.ratio_shift_neg]
    exact congrArg Nat.cast (roundDiv_eq_roundEven (Quotient.den_shift_pos positive _) _)
  have above : Binary64.leastExponent ≤ power := le_max_right _ _
  have among : power = Binary64.leastExponent ∨ 2 ^ 52 * 2 ^ power ≤ q.ratio := by
    rcases max_choice exact Binary64.leastExponent with same | same
    · refine .inr ?_
      rw [show power = exact from same]
      exact filled
    · exact .inl same
  refine ⟨power, above, among, ?_⟩
  rw [← value]
  clear_value rounded power
  by_cases carried : rounded = Nat.pow 2 53
  · rw [if_pos carried] at made
    dsimp only at made
    split_ifs at made
    cases made
    rw [carried, zpow_add_one₀ two_ne_zero]
    simp only [Nat.pow_eq]
    push_cast
    ring
  · rw [if_neg carried] at made
    dsimp only at made
    split_ifs at made
    cases made
    rfl

/-- The unit of the last place of numbers near to a quotient is a part in `2 ^ 52` of it, or the
least one of the format. -/
theorem ofQuotient_near (positive : 0 < q.den)
    (made : Binary64.ofQuotient q = .finite negative significand exponent) :
    |(significand : ℚ) * 2 ^ exponent - q.ratio| ≤ q.ratio * 2 ^ (-53 : ℤ) + 2 ^ (-1075 : ℤ) := by
  have notNegative : 0 ≤ q.ratio := by
    rw [Quotient.ratio]
    positivity
  by_cases zero : q.num = 0
  · rw [Binary64.ofQuotient, if_pos zero, Binary64.zero] at made
    cases made
    rw [Quotient.ratio, zero]
    norm_num
  · rcases ofQuotient_rounds zero positive made with ⟨power, _, among, value⟩
    have near := roundEven_div_near notNegative (show (0 : ℚ) < 2 ^ power by positivity)
    rw [← value] at near
    refine le_trans near ?_
    rcases among with rfl | filled
    · have half : (2 : ℚ) ^ Binary64.leastExponent / 2 = 2 ^ (-1075 : ℤ) := by
        rw [div_eq_mul_inv, ← zpow_sub_one₀ two_ne_zero]
        rfl
      rw [half]
      exact le_add_of_nonneg_left (by positivity)
    · have part : (2 : ℚ) ^ power / 2 = 2 ^ 52 * 2 ^ power * 2 ^ (-53 : ℤ) := by
        norm_num
        ring
      calc (2 : ℚ) ^ power / 2 = 2 ^ 52 * 2 ^ power * 2 ^ (-53 : ℤ) := part
        _ ≤ q.ratio * 2 ^ (-53 : ℤ) := by gcongr
        _ ≤ q.ratio * 2 ^ (-53 : ℤ) + 2 ^ (-1075 : ℤ) := le_add_of_nonneg_right (by positivity)

/-- A quotient that is a number of the format keeps its value. -/
theorem ofQuotient_exact (positive : 0 < q.den) {digits : Nat} {power : Int}
    (small : digits ≤ greatestSignificand) (inRange : Binary64.leastExponent ≤ power)
    (same : q.ratio = digits * 2 ^ power)
    (made : Binary64.ofQuotient q = .finite negative significand exponent) :
    (significand : ℚ) * 2 ^ exponent = q.ratio := by
  by_cases zero : q.num = 0
  · rw [Binary64.ofQuotient, if_pos zero, Binary64.zero] at made
    cases made
    rw [Quotient.ratio, zero]
    norm_num
  · rcases ofQuotient_rounds zero positive made with ⟨finer, _, among, value⟩
    have le : finer ≤ power := by
      rcases among with rfl | filled
      · exact inRange
      · have less : (2 : ℚ) ^ (52 : ℤ) * 2 ^ finer < 2 ^ (53 : ℤ) * 2 ^ power := by
          refine lt_of_le_of_lt filled ?_
          rw [same]
          have below : (digits : ℚ) < 2 ^ (53 : ℤ) := by
            exact_mod_cast Nat.lt_of_le_of_lt small greatestSignificand_lt
          gcongr
        rw [← zpow_add₀ two_ne_zero, ← zpow_add₀ two_ne_zero,
          zpow_lt_zpow_iff_right₀ (by norm_num)] at less
        omega
    have whole : q.ratio / 2 ^ finer = ((digits * 2 ^ (power - finer).toNat : ℕ) : ℚ) := by
      push_cast
      rw [same, ← zpow_natCast, Int.toNat_of_nonneg (by omega), zpow_sub₀ two_ne_zero, mul_div_assoc]
    rw [value, whole, roundEven_natCast, ← whole, div_mul_cancel₀ _ (by positivity)]

/-! ## Products -/

/-- The greatest number of the format. -/
def greatest : ℚ := greatestSignificand * 2 ^ Binary64.greatestExponent

theorem thousand_le_greatest : 1000 ≤ greatest := by
  have digits : (1000 : ℚ) ≤ greatestSignificand := by
    have whole : 1000 ≤ greatestSignificand := by decide
    exact_mod_cast whole
  have scale : (1 : ℚ) ≤ 2 ^ Binary64.greatestExponent := one_le_zpow₀ one_le_two (by decide)
  calc (1000 : ℚ) = 1000 * 1 := (mul_one _).symm
    _ ≤ greatest := mul_le_mul digits scale zero_le_one (Nat.cast_nonneg _)

/-- What is not above the greatest number is rounded to a number. -/
theorem ofQuotient_finite_of_le (positive : 0 < q.den) (below : q.ratio ≤ greatest) :
    ∃ significand exponent, Binary64.ofQuotient q = .finite q.negative significand exponent := by
  have filled : (0 : ℚ) < q.den := by exact_mod_cast positive
  refine ofQuotient_finite positive (show Binary64.greatestExponent = (971 : ℕ) from rfl) ?_
  rw [Quotient.ratio, div_le_iff₀ filled, greatest, show Binary64.greatestExponent = ((971 : ℕ) : ℤ) from rfl,
    zpow_natCast] at below
  exact_mod_cast below

/-- The exact value of a number. -/
theorem ratio_number (negative : Bool) (significand : Nat) (exponent : Int) :
    (Quotient.shift ⟨negative, significand, 1⟩ exponent).ratio = significand * 2 ^ exponent := by
  rw [Quotient.ratio_shift, Quotient.ratio, Nat.cast_one, div_one]

/-- The exact product of a number and a natural number. -/
theorem ratio_product (negative : Bool) (significand factor : Nat) (exponent : Int) :
    (Quotient.shift ⟨negative, significand * factor, 1⟩ exponent).ratio = significand * 2 ^ exponent * factor := by
  rw [ratio_number, Nat.cast_mul, mul_right_comm]

/-- A product that is not above the greatest number is a number of the same sign. -/
theorem mulNat_finite (negative : Bool) {factor : Nat} (below : (significand : ℚ) * 2 ^ exponent * factor ≤ greatest) :
    ∃ rounded power, (Binary64.finite negative significand exponent).mulNat factor = .finite negative rounded power := by
  rw [← ratio_product negative] at below
  have made := ofQuotient_finite_of_le (Quotient.den_shift_pos Nat.one_pos exponent) below
  rwa [Quotient.negative_shift] at made

/-- It is one that is nearest to the exact product. -/
theorem mulNat_near {factor rounded : Nat} {power : Int}
    (made : (Binary64.finite negative significand exponent).mulNat factor = .finite negative rounded power) :
    |(rounded : ℚ) * 2 ^ power - significand * 2 ^ exponent * factor| ≤
      significand * 2 ^ exponent * factor * 2 ^ (-53 : ℤ) + 2 ^ (-1075 : ℤ) := by
  rw [← ratio_product negative]
  exact ofQuotient_near (Quotient.den_shift_pos Nat.one_pos exponent) made

theorem le_greatest (inRange : (Binary64.finite negative significand exponent).InRange) :
    (significand : ℚ) * 2 ^ exponent ≤ greatest := by
  have small : (significand : ℚ) ≤ greatestSignificand := by exact_mod_cast inRange.1
  have limited : (2 : ℚ) ^ exponent ≤ 2 ^ Binary64.greatestExponent :=
    zpow_le_zpow_right₀ (by norm_num) inRange.2
  exact mul_le_mul small limited (zpow_nonneg zero_le_two _) (Nat.cast_nonneg _)

/-- A number of one or more is its own product with one. -/
theorem mulNat_one {rounded : Nat} {power : Int}
    (inRange : (Binary64.finite negative significand exponent).InRange)
    (large : 1 ≤ (significand : ℚ) * 2 ^ exponent)
    (made : (Binary64.finite negative significand exponent).mulNat 1 = .finite negative rounded power) :
    (rounded : ℚ) * 2 ^ power = significand * 2 ^ exponent := by
  have within : Binary64.leastExponent ≤ exponent := by
    have below : (significand : ℚ) < 2 ^ (53 : ℤ) := by
      exact_mod_cast Nat.lt_of_le_of_lt inRange.1 greatestSignificand_lt
    have less : (2 : ℚ) ^ (0 : ℤ) < 2 ^ (53 + exponent) := by
      rw [zpow_zero, zpow_add₀ two_ne_zero]
      exact lt_of_le_of_lt large (by gcongr)
    rw [zpow_lt_zpow_iff_right₀ (by norm_num)] at less
    rw [Binary64.leastExponent]
    omega
  have product : (Quotient.shift ⟨negative, significand * 1, 1⟩ exponent).ratio = significand * 2 ^ exponent := by
    rw [ratio_product, Nat.cast_one, mul_one]
  rw [← product]
  exact ofQuotient_exact (Quotient.den_shift_pos Nat.one_pos exponent) inRange.1 within product made

end Number
end ImportCensus
