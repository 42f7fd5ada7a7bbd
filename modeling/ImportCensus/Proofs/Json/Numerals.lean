import ImportCensus.Proofs.Json.Grammar
import ImportCensus.Proofs.Number.Numerals
import Mathlib.Data.List.DropRight
import Mathlib.Tactic.SplitIfs

namespace ImportCensus
namespace Json

open Number (Binary64)

/-!
# Numbers as they are written

An integer is written as a number of the grammar, and as the one that it is.  The shortest text of
a finite binary number always has a point or an exponent, and its whole part never begins with a
zero that others follow: it is a number of the grammar too, and never an integer.
-/

variable {digits : List Char} {point : Int}

/-! ## Integers -/

theorem head?_toDigits {n : Nat} (zero : (Nat.toDigits 10 n).head? = some '0') : n = 0 := by
  induction n using Nat.strongRecOn with
  | ind n ih =>
      by_cases small : n < 10
      · rw [Nat.toDigits_of_lt_base small] at zero
        exact Nat.digitChar_eq_zero.1 (Option.some.inj zero)
      · have large : 10 ≤ n := Nat.le_of_not_lt small
        rw [Nat.toDigits_of_base_le (by decide) large, List.head?_append,
          Option.or_of_isSome (List.isSome_head?.2 Nat.toDigits_ne_nil)] at zero
        have none := ih (n / 10) (by omega) zero
        omega

theorem isWhole_toDigits (n : Nat) : IsWhole (Nat.toDigits 10 n) where
  filled := Nat.toDigits_ne_nil
  all := Number.all_isDigit_toDigits n
  leading := by
    intro zero
    rw [head?_toDigits zero]
    rfl

/-- An integer is written as itself. -/
theorem isNumber_integerChars (value : Int) : IsNumber (integerChars value) (.integer value) := by
  have written : integerChars value =
      signChars (decide (value < 0)) ++ (Nat.toDigits 10 value.natAbs ++ ([] ++ [])) := by
    rw [List.append_nil, List.append_nil, integerChars, signChars]
    simp only [decide_eq_true_eq]
  have found : numberOf (decide (value < 0)) (Nat.toDigits 10 value.natAbs) [] none = .integer value := by
    have size : (if value < 0 then -(value.natAbs : Int) else value.natAbs) = value := by omega
    unfold numberOf
    rw [Nat.ofDigitChars_ten_toDigits]
    simp only [List.isEmpty_nil, Option.isNone_none, Bool.and_self, if_true, decide_eq_true_eq, size]
  rw [written, ← found]
  exact .mk (isWhole_toDigits _) .none .none

/-! ## Binary numbers -/

/-- The text of a number without its sign, of the kind that no integer is written in: it has a
point, or it has an exponent. -/
inductive IsReal : List Char -> Prop
  | pointed {whole fraction : List Char} (isWhole : IsWhole whole) (are : AreDigits fraction) :
      IsReal (whole ++ '.' :: fraction)
  | scaled {whole point fraction exponent : List Char} {power : Int} (isWhole : IsWhole whole)
      (isFraction : IsFraction point fraction) (isExponent : IsExponent exponent (some power)) :
      IsReal (whole ++ (point ++ exponent))

/-- Such a text is a binary number, with any sign. -/
theorem IsReal.isNumber {text : List Char} (isReal : IsReal text) (negative : Bool) :
    ∃ found, IsNumber (signChars negative ++ text) (.number found) := by
  cases isReal with
  | @pointed whole fraction isWhole are =>
      refine ⟨.ofDecimal negative (Nat.ofDigitChars 10 (whole ++ fraction) 0) (0 - fraction.length), ?_⟩
      have found : numberOf negative whole fraction none =
          .number (.ofDecimal negative (Nat.ofDigitChars 10 (whole ++ fraction) 0) (0 - fraction.length)) := by
        unfold numberOf
        rw [List.isEmpty_eq_false_iff.2 are.filled]
        rfl
      rw [← List.append_nil ('.' :: fraction), ← found]
      exact .mk isWhole (.point are) .none
  | @scaled whole point fraction exponent power isWhole isFraction isExponent =>
      refine ⟨.ofDecimal negative (Nat.ofDigitChars 10 (whole ++ fraction) 0) (power - fraction.length), ?_⟩
      have found : numberOf negative whole fraction (some power) =
          .number (.ofDecimal negative (Nat.ofDigitChars 10 (whole ++ fraction) 0) (power - fraction.length)) := by
        unfold numberOf
        rw [Option.isNone_some, Bool.and_false]
        rfl
      rw [← found]
      exact .mk isWhole isFraction isExponent

/-- Digits of which the first is no zero. -/
structure AreLeading (digits : List Char) : Prop extends AreDigits digits where
  leading : digits.head? ≠ some '0'

/-- Without the zeros at its end, a number that is not zero has the same first digit. -/
theorem areLeading_trimZeros {n : Nat} (nonzero : n ≠ 0) :
    AreLeading (Number.trimZeros (Nat.toDigits 10 n)) := by
  have isWhole := isWhole_toDigits n
  have front : Number.trimZeros (Nat.toDigits 10 n) <+: Nat.toDigits 10 n :=
    List.rdropWhile_prefix _ _
  have leading : (Nat.toDigits 10 n).head? ≠ some '0' := fun zero => nonzero (head?_toDigits zero)
  have filled : Number.trimZeros (Nat.toDigits 10 n) ≠ [] := by
    intro empty
    have zeros := List.rdropWhile_eq_nil_iff.1 empty
    rcases List.exists_cons_of_ne_nil isWhole.filled with ⟨c, rest, spelled⟩
    rw [spelled] at zeros leading
    exact leading (congrArg some (beq_iff_eq.1 (zeros c List.mem_cons_self)))
  refine ⟨⟨filled, fun c member => isWhole.all c (front.subset member)⟩, ?_⟩
  rcases List.exists_cons_of_ne_nil filled with ⟨c, rest, spelled⟩
  rcases front with ⟨behind, whole⟩
  rw [← whole, spelled] at leading
  rw [spelled]
  exact leading

theorem areDigits_zero : AreDigits ['0'] := ⟨List.cons_ne_nil _ _, by simp⟩

theorem isWhole_zero : IsWhole ['0'] := ⟨areDigits_zero, fun _ => rfl⟩

/-- With a point among them or in front of them, digits are a number that is no integer. -/
theorem isReal_pointed (are : AreLeading digits) (point : Int) :
    IsReal (Number.pointed digits point) := by
  unfold Number.pointed
  by_cases small : point ≤ 0
  · rw [if_pos small]
    have fraction : AreDigits (List.replicate (-point).toNat '0' ++ digits) := by
      refine ⟨fun empty => are.filled (List.append_eq_nil_iff.1 empty).2, ?_⟩
      intro c member
      rcases List.mem_append.1 member with zero | digit
      · exact Number.all_isDigit_replicate _ c zero
      · exact are.all c digit
    exact .pointed isWhole_zero fraction
  · rw [if_neg small]
    dsimp only
    have some : point.toNat ≠ 0 := by omega
    have whole : IsWhole (digits.take point.toNat ++
        List.replicate (point.toNat - digits.length) '0') := by
      rcases List.exists_cons_of_ne_nil are.filled with ⟨c, rest, rfl⟩
      rcases Nat.exists_eq_succ_of_ne_zero some with ⟨count, same⟩
      rw [same, List.take_succ_cons, List.cons_append]
      refine ⟨⟨List.cons_ne_nil _ _, ?_⟩, fun zero => absurd zero are.leading⟩
      intro d member
      rcases List.mem_cons.1 member with rfl | member
      · exact are.all d List.mem_cons_self
      · rcases List.mem_append.1 member with taken | zero
        · exact are.all d (List.mem_cons_of_mem _ (List.mem_of_mem_take taken))
        · exact Number.all_isDigit_replicate _ d zero
    have fraction : AreDigits (if (digits.drop point.toNat).isEmpty then ['0']
        else digits.drop point.toNat) := by
      split
      · exact areDigits_zero
      · rename_i filled
        refine ⟨fun empty => filled (List.isEmpty_iff.2 empty), ?_⟩
        intro c member
        exact are.all c (List.mem_of_mem_drop member)
    exact .pointed whole fraction

/-- In scientific notation, digits are a number that is no integer. -/
theorem isReal_scientific (are : AreLeading digits) (point : Int) :
    IsReal (Number.scientific digits point) := by
  rcases List.exists_cons_of_ne_nil are.filled with ⟨c, rest, rfl⟩
  unfold Number.scientific
  dsimp only [List.take_succ_cons, List.take_zero, List.drop_succ_cons, List.drop_zero]
  have whole : IsWhole [c] :=
    ⟨⟨List.cons_ne_nil _ _, fun d member => are.all d (by simpa using .inl (List.mem_singleton.1 member))⟩,
      fun _ => rfl⟩
  have size := isWhole_toDigits (point - 1).natAbs
  have padded : AreDigits (if (Nat.toDigits 10 (point - 1).natAbs).length < 2 then
      '0' :: Nat.toDigits 10 (point - 1).natAbs else Nat.toDigits 10 (point - 1).natAbs) := by
    split
    · refine ⟨List.cons_ne_nil _ _, ?_⟩
      intro d member
      rcases List.mem_cons.1 member with rfl | member
      · rfl
      · exact size.all d member
    · exact ⟨size.filled, size.all⟩
  have exponent : ∃ power, IsExponent ('e' :: (if point - 1 < 0 then '-' else '+') ::
      (if (Nat.toDigits 10 (point - 1).natAbs).length < 2 then
        '0' :: Nat.toDigits 10 (point - 1).natAbs else Nat.toDigits 10 (point - 1).natAbs)) (some power) := by
    by_cases negative : point - 1 < 0
    · rw [if_pos negative]
      exact ⟨_, .minus (.inl rfl) padded⟩
    · rw [if_neg negative]
      exact ⟨_, .plus (.inl rfl) padded⟩
  rcases exponent with ⟨power, exponent⟩
  cases rest with
  | nil => exact .scaled whole .none exponent
  | cons d rest =>
      have fraction : AreDigits (d :: rest) :=
        ⟨List.cons_ne_nil _ _, fun e member => are.all e (List.mem_cons_of_mem _ member)⟩
      rw [List.append_assoc]
      exact .scaled whole (.point fraction) exponent

/-- Only a decimal that reads back as the number is taken for it. -/
theorem ofDecimal_readingBack {x : Binary64} {num den count : Nat} {decimal : Number.Decimal}
    (found : Number.readingBack? x num den count = some decimal) :
    Binary64.ofDecimal false decimal.digits decimal.power = x := by
  unfold Number.readingBack? at found
  simp only [decide_eq_true_eq] at found
  split at found
  · rename_i nearest
    cases found
    exact nearest
  · split_ifs at found with below reads reads
    · cases found
      exact reads
    · cases found
      exact reads

theorem shortest_nonzero {significand : Nat} (nonzero : significand ≠ 0) (exponent : Int) :
    (Number.shortest significand exponent).digits ≠ 0 ∨
      Number.shortest significand exponent = ⟨0, 0⟩ := by
  unfold Number.shortest
  dsimp only
  split
  · rename_i decimal found
    refine .inl ?_
    intro zero
    rcases List.exists_of_findSome?_eq_some found with ⟨count, _, reads⟩
    have same := ofDecimal_readingBack reads
    rw [zero, Binary64.ofDecimal, if_pos rfl, Binary64.zero] at same
    cases same
    exact nonzero rfl
  · exact .inr rfl

/-- The shortest text of a finite number has a point or an exponent. -/
theorem shortestChars_finite (negative : Bool) (significand : Nat) (exponent : Int) :
    ∃ text, IsReal text ∧
      Number.shortestChars (.finite negative significand exponent) = signChars negative ++ text := by
  have zero : IsReal (['0'] ++ '.' :: ['0']) := .pointed isWhole_zero areDigits_zero
  unfold Number.shortestChars
  dsimp only
  by_cases none : significand = 0
  · rw [if_pos none]
    exact ⟨_, zero, rfl⟩
  · rw [if_neg none]
    refine ⟨_, ?_, rfl⟩
    rcases shortest_nonzero none exponent with nonzero | same
    · have are := areLeading_trimZeros nonzero
      split
      · exact isReal_pointed are _
      · exact isReal_scientific are _
    · rw [same]
      exact zero

/-- A finite number is written as a number. -/
theorem isNumber_shortestChars (negative : Bool) (significand : Nat) (exponent : Int) :
    ∃ found, IsNumber (Number.shortestChars (.finite negative significand exponent)) (.number found) := by
  rcases shortestChars_finite negative significand exponent with ⟨text, isReal, spelled⟩
  rw [spelled]
  exact isReal.isNumber negative

end Json
end ImportCensus
