import ImportCensus.Number.Decimal
import Mathlib

namespace ImportCensus
namespace Number

/-!
# Rounded numbers

Rounding does not lead out of the range of finite numbers: what is not above the greatest of
them does not become infinite, and what is rounded to some places is not negative if it was
not negative before.
-/

/-- The greatest significand. -/
def greatestSignificand : Nat := 2 ^ 53 - 1

/-- Finite numbers of the format. -/
def Binary64.InRange : Binary64 -> Prop
  | .finite _ significand exponent =>
    significand ≤ greatestSignificand ∧ exponent ≤ Binary64.greatestExponent
  | _ => False

/-- A quotient that is at most a natural number is not rounded beyond it. -/
theorem roundDiv_le {num den bound : Nat} (positive : 0 < den) (below : num ≤ bound * den) :
    roundDiv num den ≤ bound := by
  have whole : num / den ≤ bound := Nat.div_le_of_le_mul (Nat.mul_comm bound den ▸ below)
  have split := Nat.div_add_mod num den
  unfold roundDiv
  dsimp only
  by_cases exact : num / den = bound
  · have none : num % den = 0 := by
      rw [exact, Nat.mul_comm] at split
      omega
    rw [none, if_pos (by omega)]
    exact whole
  · split_ifs <;> omega

theorem Quotient.shift_neg (q : Quotient) {power : Nat} (positive : 0 < power) :
    q.shift (-(power : Int)) = ⟨q.negative, q.num, q.den * 2 ^ power⟩ := by
  rw [shift, if_neg (by omega), Int.neg_neg, Int.toNat_natCast]
  rfl

theorem Quotient.negative_shift (q : Quotient) (power : Int) : (q.shift power).negative = q.negative := by
  unfold shift
  split <;> rfl

theorem greatestSignificand_lt : greatestSignificand < 2 ^ 53 := by decide

variable {num den top : Nat}

/-- What is at most the greatest finite number is below the power of two behind it. -/
theorem lt_pow_of_le (positive : 0 < den) (below : num ≤ greatestSignificand * 2 ^ top * den) :
    num < den * 2 ^ (top + 1) * 2 ^ 52 := by
  have scale : 0 < den * 2 ^ top := Nat.mul_pos positive (Nat.pow_pos (by decide))
  calc num ≤ den * 2 ^ top * greatestSignificand := by
        rwa [Nat.mul_comm, Nat.mul_comm greatestSignificand, ← Nat.mul_assoc] at below
    _ < den * 2 ^ top * 2 ^ (1 + 52) := Nat.mul_lt_mul_of_pos_left greatestSignificand_lt scale
    _ = den * 2 ^ (top + 1) * 2 ^ 52 := by
      rw [Nat.pow_add 2 1, Nat.pow_succ 2 top, Nat.mul_assoc, Nat.mul_assoc, Nat.mul_assoc]

theorem log2_le_of_le (nonzero : num ≠ 0) (positive : 0 < den)
    (below : num ≤ greatestSignificand * 2 ^ top * den) : num.log2 ≤ den.log2 + 1 + (top + 52) := by
  have above : den < 2 ^ (den.log2 + 1) := Nat.lt_log2_self
  have less : num < 2 ^ (den.log2 + 1 + (top + 1) + 52) := by
    calc num < den * 2 ^ (top + 1) * 2 ^ 52 := lt_pow_of_le positive below
      _ ≤ 2 ^ (den.log2 + 1) * 2 ^ (top + 1) * 2 ^ 52 :=
        Nat.mul_le_mul_right _ (Nat.mul_le_mul_right _ (Nat.le_of_lt above))
      _ = 2 ^ (den.log2 + 1 + (top + 1) + 52) := by
        rw [← Nat.pow_add, ← Nat.pow_add]
  have small := (Nat.log2_lt nonzero).2 less
  omega

/-- A quotient that is not above the greatest finite number is rounded to a finite one. -/
theorem ofQuotient_finite {q : Quotient} (positive : 0 < q.den)
    (isTop : Binary64.greatestExponent = top) (below : q.num ≤ greatestSignificand * 2 ^ top * q.den) :
    ∃ significand exponent, Binary64.ofQuotient q = .finite q.negative significand exponent := by
  have least : Binary64.leastExponent ≤ top := isTop ▸ by decide
  have filled : 0 < top := by
    have positive : 0 < Binary64.greatestExponent := by decide
    omega
  unfold Binary64.ofQuotient
  by_cases zero : q.num = 0
  · rw [if_pos zero]
    exact ⟨_, _, rfl⟩
  · rw [if_neg zero]
    extract_lets guess scaled exact exponent unit significand
    have guessed : guess ≤ (top + 1 : Nat) := by
      have size := log2_le_of_le zero positive below
      omega
    -- At the very top, the guess is too large by one.
    have limited : exact ≤ top := by
      by_cases last : guess = (top + 1 : Nat)
      · have lowered : guess - 1 ≤ top := by omega
        have whole : scaled = ⟨q.negative, q.num, q.den * 2 ^ (top + 1)⟩ := by
          rw [← q.shift_neg (Nat.succ_pos top)]
          exact congrArg (fun power => q.shift (-power)) last
        have less : scaled.num < scaled.den * Nat.pow 2 52 := by
          rw [whole]
          exact lt_pow_of_le positive below
        exact Int.le_trans (Int.le_of_eq (if_pos less)) lowered
      · have near : exact = guess - 1 ∨ exact = guess := by
          by_cases less : scaled.num < scaled.den * Nat.pow 2 52
          · exact .inl (if_pos less)
          · exact .inr (if_neg less)
        omega
    have bounded : exponent ≤ top := Int.max_le.2 ⟨limited, least⟩
    -- There, the significand is at most the greatest one and is not rounded up to a power.
    have full : exponent = top -> significand ≤ greatestSignificand := by
      intro last
      have scale : unit = ⟨q.negative, q.num, q.den * 2 ^ top⟩ := by
        rw [← q.shift_neg filled]
        exact congrArg (fun power => q.shift (-power)) last
      have rounded : significand = roundDiv q.num (q.den * 2 ^ top) := by
        show roundDiv unit.num unit.den = _
        rw [scale]
      rw [rounded]
      apply roundDiv_le (Nat.mul_pos positive (Nat.pow_pos (by decide)))
      rwa [Nat.mul_comm q.den, ← Nat.mul_assoc]
    clear_value significand exponent
    by_cases carried : significand = Nat.pow 2 53
    · have inside : exponent ≠ top := by
        intro last
        have small := full last
        rw [carried] at small
        exact Nat.not_le_of_lt greatestSignificand_lt small
      rw [if_pos carried]
      dsimp only
      rw [if_neg (by omega)]
      exact ⟨_, _, rfl⟩
    · rw [if_neg carried]
      dsimp only
      rw [if_neg (by omega)]
      exact ⟨_, _, rfl⟩

/-! ## Numbers at a fixed number of places -/

variable {negative : Bool} {significand : Nat} {exponent : Int}

theorem shift_le (negative : Bool) (isTop : Binary64.greatestExponent = top) (small : significand ≤ greatestSignificand)
    (limited : exponent ≤ Binary64.greatestExponent) :
    let exact := Quotient.shift ⟨negative, significand, 1⟩ exponent
    0 < exact.den ∧ exact.num ≤ greatestSignificand * 2 ^ top * exact.den := by
  unfold Quotient.shift
  dsimp only
  by_cases whole : 0 ≤ exponent
  · rw [if_pos whole]
    have power : 2 ^ exponent.toNat ≤ 2 ^ top := Nat.pow_le_pow_right (by decide) (by omega)
    refine ⟨Nat.one_pos, ?_⟩
    rw [Nat.mul_one]
    exact Nat.mul_le_mul small power
  · rw [if_neg whole]
    have scale : 0 < 1 * Nat.pow 2 (-exponent).toNat := Nat.mul_pos Nat.one_pos (Nat.pow_pos (by decide))
    refine ⟨scale, ?_⟩
    calc significand ≤ greatestSignificand := small
      _ ≤ greatestSignificand * 2 ^ top := Nat.le_mul_of_pos_right _ (Nat.pow_pos (by decide))
      _ ≤ greatestSignificand * 2 ^ top * (1 * Nat.pow 2 (-exponent).toNat) :=
        Nat.le_mul_of_pos_right _ scale

/-- A finite number is rounded to a finite one of its sign. -/
theorem roundTo_finite (places : Nat) (inRange : (Binary64.finite negative significand exponent).InRange) :
    ∃ rounded power, roundTo places (.finite negative significand exponent) =
      .finite negative rounded power := by
  have isTop : Binary64.greatestExponent = (971 : Nat) := rfl
  rcases shift_le false isTop inRange.1 inRange.2 with ⟨positive, below⟩
  apply ofQuotient_finite (Nat.pow_pos (by decide)) isTop
  apply roundDiv_le positive
  rw [Nat.mul_right_comm]
  exact Nat.mul_le_mul_right _ below

theorem shift_num_eq_zero (negative : Bool) (den : Nat) (power : Int) :
    (Quotient.shift ⟨negative, significand, den⟩ power).num = 0 ↔ significand = 0 := by
  unfold Quotient.shift
  split
  · have filled : Nat.pow 2 power.toNat ≠ 0 := Nat.ne_of_gt (Nat.pow_pos (by decide))
    exact Nat.mul_eq_zero.trans (or_iff_left filled)
  · exact Iff.rfl

/-- A finite number is not negative if it has no sign or is zero. -/
theorem atLeast_zero : (Binary64.finite negative significand exponent).atLeast ⟨false, 0, 1⟩ = true ↔
    (negative = true -> significand = 0) := by
  unfold Binary64.atLeast Binary64.signedNum
  dsimp only
  rw [decide_eq_true_eq, ← shift_num_eq_zero negative 1 exponent, Quotient.negative_shift]
  cases negative with
  | false => simp
  | true => simp

/-- What is not negative is rounded to what is not negative. -/
theorem roundTo_not_negative (places : Nat) {x : Binary64} (inRange : x.InRange)
    (notNegative : x.atLeast ⟨false, 0, 1⟩ = true) :
    ∃ negative significand exponent, roundTo places x = .finite negative significand exponent ∧
      (roundTo places x).atLeast ⟨false, 0, 1⟩ = true := by
  cases x with
  | nan => exact inRange.elim
  | infinite negative => exact inRange.elim
  | finite negative significand exponent =>
      rcases roundTo_finite places inRange with ⟨rounded, power, same⟩
      refine ⟨negative, rounded, power, same, ?_⟩
      rw [same, atLeast_zero]
      rintro rfl
      -- A zero with a sign stays one.
      have zero := atLeast_zero.1 notNegative rfl
      have none := (shift_num_eq_zero false 1 exponent).2 zero
      unfold roundTo at same
      dsimp only at same
      have isTop : Binary64.greatestExponent = (971 : Nat) := rfl
      have positive := (shift_le false isTop inRange.1 inRange.2).1
      have nothing : roundDiv (0 * Nat.pow 10 places)
          (Quotient.shift ⟨false, significand, 1⟩ exponent).den = 0 := by
        rw [Nat.zero_mul]
        exact Nat.le_zero.1 (roundDiv_le positive (Nat.zero_le _))
      rw [none, nothing, Binary64.ofQuotient, if_pos rfl, Binary64.zero] at same
      cases same
      rfl

end Number
end ImportCensus
