import ImportCensus.Proofs.Number.Nearest
import ImportCensus.Proofs.Number.Numerals
import ImportCensus.Report.Elapsed
import Mathlib

namespace ImportCensus
namespace Report

open Number (Binary64 Quotient fixedChars fixedText roundEven spanDigits)

/-!
# What elapsed times tell

The text of an elapsed time is read again as a number of hundredths and a unit.  In exact
arithmetic it is off by half a hundredth of its unit at most.  The unit is picked by the time and
not by the number that is shown, so that a time just below a unit is shown as a thousand of the
next smaller one (`exactText_shows_thousand`); apart from that, numbers of milliseconds and
microseconds are below a thousand, and numbers of seconds and milliseconds are never below one.
With binary numbers the same holds up to the rounding of a product, and seconds are exact.
-/

/-! ## Readings -/

/-- The unit that a symbol stands for. -/
def TimeUnit.ofSymbol? (symbol : String) : Option TimeUnit :=
  [.second, .millisecond, .microsecond].find? fun unit => unit.symbol == symbol

/-- What a text tells of a time: the digits of a number, how many of them stand behind the point, and
the unit. -/
structure Reading where
  digits : Nat
  places : Nat
  unit : TimeUnit
  deriving DecidableEq, Repr

namespace Reading

def number (reading : Reading) : ℚ := reading.digits / 10 ^ reading.places

/-- The number times the unit. -/
def seconds (reading : Reading) : ℚ := reading.number / reading.unit.perSecond

/-- A unit of the last digit, in seconds. -/
def lastDigit (reading : Reading) : ℚ := 1 / 10 ^ reading.places / reading.unit.perSecond

/-- Read the text of a time: digits, a point, digits, and the symbol of a unit. -/
def read? (text : String) : Option Reading :=
  let (whole, rest) := spanDigits text.toList
  match rest with
  | '.' :: behind =>
    let (fraction, symbol) := spanDigits behind
    match Number.natural? 10 (whole ++ fraction), TimeUnit.ofSymbol? (String.ofList symbol) with
    | some digits, some unit => some ⟨digits, fraction.length, unit⟩
    | _, _ => none
  | _ => none

end Reading

/-- A number with a fixed number of places is read again in front of any unit. -/
theorem read?_fixedChars (places scaled : Nat) (unit : TimeUnit) :
    Reading.read? (String.ofList (fixedChars places scaled) ++ unit.symbol) = some ⟨scaled, places, unit⟩ := by
  rcases Number.exists_digits_fixedChars places scaled with ⟨whole, fraction, same, all, length, value⟩
  have beforePoint : spanDigits (whole ++ '.' :: (fraction ++ unit.symbol.toList)) =
      (whole, '.' :: (fraction ++ unit.symbol.toList)) := by
    apply Number.spanDigits_append fun c member => all c (List.mem_append_left _ member)
    intro c head
    cases head
    rfl
  have behindPoint : spanDigits (fraction ++ unit.symbol.toList) = (fraction, unit.symbol.toList) := by
    apply Number.spanDigits_append fun c member => all c (List.mem_append_right _ member)
    intro c head
    cases unit <;> cases head <;> rfl
  have symbol : TimeUnit.ofSymbol? (String.ofList unit.symbol.toList) = some unit := by
    rw [String.ofList_toList]
    cases unit <;> rfl
  unfold Reading.read?
  rw [String.toList_append, String.toList_ofList, same, List.append_assoc, List.cons_append, beforePoint]
  simp only [behindPoint, value, symbol, length]

/-! ## Times in exact arithmetic -/

/-- The unit in which a time is told that is known exactly. -/
def TimeUnit.ofExact (seconds : ℚ) : TimeUnit :=
  if 1 ≤ seconds then .second
  else if 1 / 1000 ≤ seconds then .millisecond
  else .microsecond

/-- A number of some unit, to the nearest hundredth. -/
def timeText (unit : TimeUnit) (number : ℚ) : String :=
  String.ofList (fixedChars 2 (roundEven (number * 100))) ++ unit.symbol

/-- The text of a time where all arithmetic is exact. -/
def exactText (seconds : ℚ) : String :=
  timeText (.ofExact seconds) (seconds * (TimeUnit.ofExact seconds).perSecond)

theorem read?_timeText (unit : TimeUnit) (number : ℚ) :
    Reading.read? (timeText unit number) = some ⟨roundEven (number * 100), 2, unit⟩ :=
  read?_fixedChars 2 _ unit

theorem TimeUnit.perSecond_pos (unit : TimeUnit) : (0 : ℚ) < unit.perSecond := by
  cases unit <;> norm_num [perSecond]

theorem TimeUnit.one_le_perSecond (unit : TimeUnit) : (1 : ℚ) ≤ unit.perSecond := by
  cases unit <;> norm_num [perSecond]

variable {seconds number error : ℚ}

theorem TimeUnit.one_le_of_ofExact (large : TimeUnit.ofExact seconds ≠ .microsecond) :
    1 ≤ seconds * (TimeUnit.ofExact seconds).perSecond := by
  unfold TimeUnit.ofExact at large ⊢
  split_ifs at large ⊢ with whole thousandth
  · rwa [perSecond, Nat.cast_one, mul_one]
  · rw [perSecond]
    push_cast
    linarith
  · exact absurd rfl large

theorem TimeUnit.lt_thousand_of_ofExact (small : TimeUnit.ofExact seconds ≠ .second) :
    seconds * (TimeUnit.ofExact seconds).perSecond < 1000 := by
  unfold TimeUnit.ofExact at small ⊢
  split_ifs at small ⊢ with whole thousandth
  · exact absurd rfl small
  · rw [perSecond]
    push_cast
    linarith
  · rw [perSecond]
    push_cast
    linarith

/-- What a reading tells of a time: the unit of its magnitude, and a number that is off by no more than
half a unit of its last digit and some slack.  It is not below one where there is a smaller unit, and
not above a thousand where there is a larger one. -/
structure Reading.Tells (seconds slack : ℚ) (reading : Reading) : Prop where
  ofMagnitude : reading.unit = .ofExact seconds
  near : |reading.seconds - seconds| ≤ reading.lastDigit / 2 + slack
  atLeastOne : reading.unit ≠ .microsecond -> 1 ≤ reading.number
  atMostThousand : reading.unit ≠ .second -> reading.number ≤ 1000

/-- A number of the unit of a time that is close to the exact one is told well enough. -/
theorem tells_of_close (close : |number - seconds * (TimeUnit.ofExact seconds).perSecond| ≤ error)
    (notNegative : 0 ≤ number) (small : error < 1 / 200) :
    Reading.Tells seconds (error / (TimeUnit.ofExact seconds).perSecond)
      ⟨roundEven (number * 100), 2, .ofExact seconds⟩ := by
  have near := abs_le.1 (Number.roundEven_near (x := number * 100) (by positivity))
  have apart := abs_le.1 close
  have positive := (TimeUnit.ofExact seconds).perSecond_pos
  have shown : (⟨roundEven (number * 100), 2, .ofExact seconds⟩ : Reading).number = roundEven (number * 100) / 100 := by
    norm_num [Reading.number]
  refine ⟨rfl, ?_, ?_, ?_⟩
  · have off : |(roundEven (number * 100) : ℚ) / 100 - seconds * (TimeUnit.ofExact seconds).perSecond| ≤
        1 / 200 + error := by
      rw [abs_le]
      constructor <;> linarith
    calc |Reading.seconds ⟨roundEven (number * 100), 2, .ofExact seconds⟩ - seconds|
        = |(roundEven (number * 100) : ℚ) / 100 - seconds * (TimeUnit.ofExact seconds).perSecond| /
            (TimeUnit.ofExact seconds).perSecond := by
          rw [Reading.seconds, shown, ← abs_of_pos positive, ← abs_div, abs_of_pos positive, sub_div,
            mul_div_cancel_right₀ _ positive.ne']
      _ ≤ (1 / 200 + error) / (TimeUnit.ofExact seconds).perSecond := by gcongr
      _ = Reading.lastDigit ⟨roundEven (number * 100), 2, .ofExact seconds⟩ / 2 +
            error / (TimeUnit.ofExact seconds).perSecond := by
          rw [Reading.lastDigit]
          ring
  · intro large
    have one := TimeUnit.one_le_of_ofExact large
    have digits : 99 < roundEven (number * 100) := by
      have cast : (99 : ℚ) < roundEven (number * 100) := by linarith
      exact_mod_cast cast
    have cast : (100 : ℚ) ≤ roundEven (number * 100) := by exact_mod_cast digits
    rw [shown]
    linarith
  · intro limited
    have thousand := TimeUnit.lt_thousand_of_ofExact limited
    have digits : roundEven (number * 100) < 100001 := by
      have cast : (roundEven (number * 100) : ℚ) < 100001 := by linarith
      exact_mod_cast cast
    have cast : (roundEven (number * 100) : ℚ) ≤ 100000 := by exact_mod_cast Nat.lt_succ_iff.1 digits
    rw [shown]
    linarith

/-- A number is shown as less than a thousand if half a hundredth and more are missing, and not otherwise. -/
theorem roundEven_lt_thousand_iff (notNegative : 0 ≤ number) :
    roundEven (number * 100) < 100000 ↔ number < 1000 - 1 / 200 := by
  have near := abs_le.1 (Number.roundEven_near (x := number * 100) (by positivity))
  constructor
  · intro less
    by_contra reached
    have above : 99999 < roundEven (number * 100) := by
      apply Number.lt_roundEven_of_odd (by decide)
      push_cast
      linarith
    omega
  · intro less
    have cast : (roundEven (number * 100) : ℚ) < 100000 := by linarith
    exact_mod_cast cast

/-! ## Times in binary arithmetic -/

variable {significand rounded : Nat} {exponent power : Int}

/-- A number is compared with a quotient by their values. -/
theorem atLeast_iff {num den : Nat} (positive : 0 < den) :
    (Binary64.finite false significand exponent).atLeast ⟨false, num, den⟩ = true ↔
      (num : ℚ) / den ≤ significand * 2 ^ exponent := by
  have filled : (0 : ℚ) < (Quotient.shift ⟨false, significand, 1⟩ exponent).den := by
    exact_mod_cast Quotient.den_shift_pos Nat.one_pos exponent
  rw [← Number.ratio_number false, Quotient.ratio, div_le_div_iff₀ (by exact_mod_cast positive) filled]
  unfold Binary64.atLeast Binary64.signedNum
  dsimp only
  rw [Quotient.negative_shift, decide_eq_true_eq, if_neg Bool.false_ne_true, if_neg Bool.false_ne_true]
  norm_cast

theorem ofSeconds_eq_ofExact :
    TimeUnit.ofSeconds (.finite false significand exponent) = .ofExact (significand * 2 ^ exponent) := by
  have whole : (Binary64.finite false significand exponent).atLeast ⟨false, 1, 1⟩ = true ↔
      1 ≤ (significand : ℚ) * 2 ^ exponent := by
    rw [atLeast_iff Nat.one_pos, Nat.cast_one, div_one]
  have thousandth : (Binary64.finite false significand exponent).atLeast ⟨false, 1, 1000⟩ = true ↔
      1 / 1000 ≤ (significand : ℚ) * 2 ^ exponent := by
    rw [atLeast_iff (by decide), Nat.cast_one, Nat.cast_ofNat]
  unfold TimeUnit.ofSeconds TimeUnit.ofExact
  simp only [whole, thousandth]

/-- The text of a time is that of the product that it makes with its unit. -/
theorem elapsedText_eq_timeText (same : (significand : ℚ) * 2 ^ exponent = seconds)
    (made : (Binary64.finite false significand exponent).mulNat (TimeUnit.ofExact seconds).perSecond =
      .finite false rounded power) :
    elapsedText (.finite false significand exponent) =
      timeText (.ofExact seconds) (rounded * 2 ^ power) := by
  have hundredths : Number.roundDiv ((Quotient.shift ⟨false, rounded, 1⟩ power).num * 10 ^ 2)
      (Quotient.shift ⟨false, rounded, 1⟩ power).den = roundEven (rounded * 2 ^ power * 100) := by
    rw [Number.roundDiv_eq_roundEven (Quotient.den_shift_pos Nat.one_pos power), ← Number.ratio_number false,
      Quotient.ratio]
    push_cast
    congr 1
    ring
  unfold elapsedText
  dsimp only
  rw [ofSeconds_eq_ofExact, same, made, timeText, ← hundredths]
  rfl

/-- Where the product with the unit is not rounded, the text is the one of exact arithmetic. -/
theorem elapsedText_eq_exactText
    (made : (Binary64.finite false significand exponent).mulNat
      (TimeUnit.ofExact (significand * 2 ^ exponent)).perSecond = .finite false rounded power)
    (exact : (rounded : ℚ) * 2 ^ power =
      significand * 2 ^ exponent * (TimeUnit.ofExact (significand * 2 ^ exponent)).perSecond) :
    elapsedText (.finite false significand exponent) = exactText (significand * 2 ^ exponent) := by
  rw [elapsedText_eq_timeText rfl made, exact]
  rfl

/-- Seconds are not rounded before they are shown. -/
theorem elapsedText_of_one_le (inRange : (Binary64.finite false significand exponent).InRange)
    (large : 1 ≤ (significand : ℚ) * 2 ^ exponent) :
    elapsedText (.finite false significand exponent) = exactText (significand * 2 ^ exponent) := by
  have unit : TimeUnit.ofExact (significand * 2 ^ exponent) = .second := if_pos large
  have below : (significand : ℚ) * 2 ^ exponent * (1 : ℕ) ≤ Number.greatest := by
    rw [Nat.cast_one, mul_one]
    exact Number.le_greatest inRange
  rcases Number.mulNat_finite false below with ⟨rounded, power, made⟩
  have same := Number.mulNat_one inRange large made
  have product : (Binary64.finite false significand exponent).mulNat
      (TimeUnit.ofExact (significand * 2 ^ exponent)).perSecond = .finite false rounded power := by
    rw [unit]
    exact made
  apply elapsedText_eq_exactText product
  rw [unit, same, TimeUnit.perSecond, Nat.cast_one, mul_one]

/-- In exact arithmetic nothing is added to half a unit of the last digit. -/
theorem tells_exactText (notNegative : 0 ≤ seconds) :
    Reading.Tells seconds 0 ⟨roundEven (seconds * (TimeUnit.ofExact seconds).perSecond * 100), 2, .ofExact seconds⟩ := by
  have close : |seconds * (TimeUnit.ofExact seconds).perSecond - seconds * (TimeUnit.ofExact seconds).perSecond| ≤ 0 := by
    rw [sub_self, abs_zero]
  have tells := tells_of_close close (mul_nonneg notNegative (TimeUnit.perSecond_pos _).le) (by norm_num)
  rwa [zero_div] at tells

theorem Reading.Tells.mono {slack more : ℚ} {reading : Reading} (tells : reading.Tells seconds slack)
    (le : slack ≤ more) : reading.Tells seconds more :=
  { tells with near := tells.near.trans (by gcongr) }

/-- In binary arithmetic the rounding of a product is added. -/
theorem exists_tells_elapsedText (inRange : (Binary64.finite false significand exponent).InRange) :
    ∃ reading, Reading.read? (elapsedText (.finite false significand exponent)) = some reading ∧
      reading.Tells (significand * 2 ^ exponent)
        (significand * 2 ^ exponent * 2 ^ (-53 : ℤ) + 2 ^ (-1075 : ℤ)) := by
  by_cases large : 1 ≤ (significand : ℚ) * 2 ^ exponent
  · refine ⟨_, ?_, (tells_exactText (le_trans zero_le_one large)).mono (by positivity)⟩
    rw [elapsedText_of_one_le inRange large]
    exact read?_timeText _ _
  · have notNegative : (0 : ℚ) ≤ significand * 2 ^ exponent := by positivity
    generalize same : (significand : ℚ) * 2 ^ exponent = seconds at large notNegative ⊢
    have small : TimeUnit.ofExact seconds ≠ .second := by
      unfold TimeUnit.ofExact
      rw [if_neg large]
      split_ifs <;> nofun
    have thousand := TimeUnit.lt_thousand_of_ofExact small
    have positive := (TimeUnit.ofExact seconds).perSecond_pos
    have below : (significand : ℚ) * 2 ^ exponent * (TimeUnit.ofExact seconds).perSecond ≤ Number.greatest := by
      rw [same]
      exact thousand.le.trans Number.thousand_le_greatest
    rcases Number.mulNat_finite false below with ⟨rounded, power, made⟩
    have near := Number.mulNat_near made
    rw [same] at near
    refine ⟨_, ?_, (tells_of_close near (by positivity) ?_).mono ?_⟩
    · rw [elapsedText_eq_timeText same made]
      exact read?_timeText _ _
    · calc seconds * (TimeUnit.ofExact seconds).perSecond * 2 ^ (-53 : ℤ) + 2 ^ (-1075 : ℤ)
          ≤ 1000 * 2 ^ (-53 : ℤ) + 2 ^ (-53 : ℤ) := by
            gcongr
            · norm_num
            · norm_num
        _ < 1 / 200 := by norm_num
    · have part : (2 : ℚ) ^ (-1075 : ℤ) / (TimeUnit.ofExact seconds).perSecond ≤ 2 ^ (-1075 : ℤ) :=
        div_le_self (by positivity) (TimeUnit.one_le_perSecond _)
      rw [add_div, mul_right_comm, mul_div_cancel_right₀ _ positive.ne']
      gcongr

/-! ## The unit of the magnitude -/

/-- In exact arithmetic, the text of a time tells a number and a unit, and their product differs from the
time by half a unit of the last digit at most.  The number is never below one where there is a smaller
unit, and not above a thousand where there is a larger one; it is below a thousand just where the time is
by more than half a hundredth below a thousand of the unit.  If the time is a binary number of the format,
its text tells the same up to the rounding of one product; it is the text of exact arithmetic wherever
that product is exact, and for a second or more. -/
theorem elapsed_told_by_magnitude (seconds : ℚ) (notNegative : 0 ≤ seconds) :
    (∃ reading, Reading.read? (exactText seconds) = some reading ∧ reading.Tells seconds 0 ∧
      (reading.number < 1000 ↔ seconds * reading.unit.perSecond < 1000 - 1 / 200)) ∧
    ∀ (significand : Nat) exponent, (Binary64.finite false significand exponent).InRange ->
      significand * 2 ^ exponent = seconds ->
      (∃ reading, Reading.read? (elapsedText (.finite false significand exponent)) = some reading ∧
        reading.Tells seconds (seconds * 2 ^ (-53 : ℤ) + 2 ^ (-1075 : ℤ))) ∧
      (∀ (rounded : Nat) power, (Binary64.finite false significand exponent).mulNat
          (TimeUnit.ofExact seconds).perSecond = .finite false rounded power ->
        rounded * 2 ^ power = seconds * (TimeUnit.ofExact seconds).perSecond ->
        elapsedText (.finite false significand exponent) = exactText seconds) ∧
      (1 ≤ seconds -> elapsedText (.finite false significand exponent) = exactText seconds) := by
  constructor
  · refine ⟨_, read?_timeText _ _, tells_exactText notNegative, ?_⟩
    have shown := roundEven_lt_thousand_iff (mul_nonneg notNegative (TimeUnit.ofExact seconds).perSecond_pos.le)
    rw [← shown, Reading.number, div_lt_iff₀ (by norm_num)]
    norm_num
  · rintro significand exponent inRange rfl
    exact ⟨exists_tells_elapsedText inRange, fun _ _ made exact => elapsedText_eq_exactText made exact,
      elapsedText_of_one_le inRange⟩

/-- Half a second is told in milliseconds, and its product with the unit is exact. -/
theorem halfSecond_told_by_magnitude :
    (Binary64.finite false 4503599627370496 (-53)).InRange ∧
      elapsedText (.finite false 4503599627370496 (-53)) = "500.00ms" ∧
      elapsedText (.finite false 4503599627370496 (-53)) = exactText (1 / 2) ∧
      Reading.read? "500.00ms" = some ⟨50000, 2, .millisecond⟩ ∧
      Reading.Tells (1 / 2) 0 ⟨50000, 2, .millisecond⟩ := by
  have inRange : (Binary64.finite false 4503599627370496 (-53)).InRange := ⟨by decide, by decide⟩
  have half : ((4503599627370496 : ℕ) : ℚ) * 2 ^ (-53 : ℤ) = 1 / 2 := by norm_num
  have unit : TimeUnit.ofExact (1 / 2) = .millisecond := by norm_num [TimeUnit.ofExact]
  have shown : elapsedText (.finite false 4503599627370496 (-53)) = "500.00ms" := by decide +kernel
  have reads : Reading.read? "500.00ms" = some ⟨50000, 2, .millisecond⟩ := by decide +kernel
  rcases elapsed_told_by_magnitude (1 / 2) (by norm_num) with ⟨⟨reading, read, tells, _⟩, binary⟩
  have exact := (binary 4503599627370496 (-53) inRange half).2.1 8796093022208000 (-44)
  rw [unit] at exact
  have same := exact (by decide +kernel) (by norm_num [TimeUnit.perSecond])
  rw [← same, shown, reads] at read
  cases read
  exact ⟨inRange, shown, same, reads, tells⟩

/-- A microsecond before a full second, a time is shown as a thousand milliseconds, in exact arithmetic
as well as in binary arithmetic. -/
theorem exactText_shows_thousand :
    exactText (999999 / 1000000) = "1000.00ms" ∧
      elapsedText (.ofDecimal false 999999 (-6)) = "1000.00ms" ∧
      Reading.read? "1000.00ms" = some ⟨100000, 2, .millisecond⟩ ∧
      ¬∀ seconds : ℚ, 0 ≤ seconds -> ∀ reading, Reading.read? (exactText seconds) = some reading ->
        reading.unit ≠ .second -> reading.number < 1000 := by
  have exact : exactText (999999 / 1000000) = "1000.00ms" := by decide +kernel
  have binary : elapsedText (.ofDecimal false 999999 (-6)) = "1000.00ms" := by decide +kernel
  have reads : Reading.read? "1000.00ms" = some ⟨100000, 2, .millisecond⟩ := by decide +kernel
  refine ⟨exact, binary, reads, fun below => ?_⟩
  have less := below (999999 / 1000000) (by norm_num) ⟨100000, 2, .millisecond⟩ (exact ▸ reads) nofun
  norm_num [Reading.number] at less

end Report
end ImportCensus
