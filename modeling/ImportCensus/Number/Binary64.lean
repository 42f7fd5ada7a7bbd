namespace ImportCensus
namespace Number

/-!
# Binary floating-point numbers

Numbers with a significand below `2 ^ 53`, a power of two that scales it, and a
sign, together with the two infinities and a value that is no number.  Numbers
are made by rounding an exact quotient to the nearest one, a tie going to the
even significand, so that every operation here is exact integer arithmetic.
-/

inductive Binary64 where
  /-- The significand times two to the exponent. -/
  | finite (negative : Bool) (significand : Nat) (exponent : Int)
  | infinite (negative : Bool)
  | nan
  deriving DecidableEq, Repr, Inhabited

/-- The quotient of two natural numbers to the nearest one; a tie goes to the even one. -/
def roundDiv (num den : Nat) : Nat :=
  let whole := num / den
  let rest := num % den
  if 2 * rest < den then whole
  else if den < 2 * rest then whole + 1
  else if whole % 2 = 0 then whole else whole + 1

/-- An exact quotient of natural numbers, with its sign. -/
structure Quotient where
  negative : Bool
  num : Nat
  den : Nat

namespace Quotient

/-- A decimal number: digits, scaled by a power of ten. -/
def ofDecimal (negative : Bool) (digits : Nat) (power : Int) : Quotient :=
  if 0 ≤ power then ⟨negative, digits * Nat.pow 10 power.toNat, 1⟩
  else ⟨negative, digits, Nat.pow 10 (-power).toNat⟩

/-- The quotient scaled by a power of two. -/
def shift (q : Quotient) (power : Int) : Quotient :=
  if 0 ≤ power then ⟨q.negative, q.num * Nat.pow 2 power.toNat, q.den⟩
  else ⟨q.negative, q.num, q.den * Nat.pow 2 (-power).toNat⟩

end Quotient

namespace Binary64

/-- The least exponent: subnormal numbers have it. -/
def leastExponent : Int := -1074

/-- The greatest exponent of a finite number. -/
def greatestExponent : Int := 971

def zero (negative : Bool) : Binary64 := .finite negative 0 leastExponent

/-- The number nearest to a quotient. -/
def ofQuotient (q : Quotient) : Binary64 :=
  if q.num = 0 then zero q.negative
  else
    let guess : Int := (q.num.log2 : Int) - (q.den.log2 : Int) - 52
    let scaled := q.shift (-guess)
    let exact := if scaled.num < scaled.den * Nat.pow 2 52 then guess - 1 else guess
    let exponent := max exact leastExponent
    let unit := q.shift (-exponent)
    let significand := roundDiv unit.num unit.den
    let (significand, exponent) :=
      if significand = Nat.pow 2 53 then (Nat.pow 2 52, exponent + 1) else (significand, exponent)
    if greatestExponent < exponent then .infinite q.negative
    else .finite q.negative significand exponent

/-- The number nearest to a decimal one.  Powers of ten that are out of every
range are decided without computing them. -/
def ofDecimal (negative : Bool) (digits : Nat) (power : Int) : Binary64 :=
  if digits = 0 then zero negative
  else
    let size : Int := (Nat.toDigits 10 digits).length
    if 400 < size + power then .infinite negative
    else if size + power < -400 then zero negative
    else ofQuotient (.ofDecimal negative digits power)

/-- The number nearest to an integer. -/
def ofInt (value : Int) : Binary64 :=
  ofQuotient ⟨decide (value < 0), value.natAbs, 1⟩

/-- The exact value of a finite number. -/
def quotient? : Binary64 -> Option Quotient
  | .finite negative significand exponent =>
    some (Quotient.shift ⟨negative, significand, 1⟩ exponent)
  | _ => none

/-- The product with a natural number, rounded. -/
def mulNat (x : Binary64) (factor : Nat) : Binary64 :=
  match x with
  | .finite negative significand exponent =>
    ofQuotient (Quotient.shift ⟨negative, significand * factor, 1⟩ exponent)
  | other => other

/-- The sign of a quotient on its numerator. -/
def signedNum (q : Quotient) : Int := if q.negative then -(q.num : Int) else q.num

/-- The product of two numbers, rounded. -/
def mul (x y : Binary64) : Binary64 :=
  match x, y with
  | .nan, _ | _, .nan => .nan
  | .infinite negative, .infinite other => .infinite (negative != other)
  | .infinite negative, .finite other significand _
  | .finite other significand _, .infinite negative =>
    if significand = 0 then .nan else .infinite (negative != other)
  | .finite negative significand exponent, .finite other factor power =>
    ofQuotient (Quotient.shift ⟨negative != other, significand * factor, 1⟩ (exponent + power))

/-- The sum of two numbers, rounded; opposite numbers have a sum without a sign. -/
def add (x y : Binary64) : Binary64 :=
  match x, y with
  | .nan, _ | _, .nan => .nan
  | .infinite negative, .infinite other => if negative = other then .infinite negative else .nan
  | .infinite negative, _ | _, .infinite negative => .infinite negative
  | .finite negative significand exponent, .finite other summand power =>
    let first := Quotient.shift ⟨negative, significand, 1⟩ exponent
    let second := Quotient.shift ⟨other, summand, 1⟩ power
    let sum := signedNum first * second.den + signedNum second * first.den
    let isNegative := if sum = 0 then negative && other else decide (sum < 0)
    ofQuotient ⟨isNegative, sum.natAbs, first.den * second.den⟩

/-- Whether a number is at least as large as a quotient; no number is not. -/
def atLeast (x : Binary64) (bound : Quotient) : Bool :=
  match x with
  | .nan => false
  | .infinite negative => !negative
  | .finite negative significand exponent =>
    let value := Quotient.shift ⟨negative, significand, 1⟩ exponent
    decide (signedNum bound * value.den ≤ signedNum value * bound.den)

end Binary64

end Number
end ImportCensus
