import ImportCensus.Number.Decimal
import ImportCensus.Number.Numeral

namespace ImportCensus
namespace Number

/-!
# Numerals of natural numbers

A natural number that is written in decimal is read again, also where an integer is asked
for.  With a fixed number of places, what stands before the point and behind it spells the number.
-/

variable {digits rest : List Char}

theorem takeWhile_isDigit (all : ∀ c ∈ digits, c.isDigit = true)
    (ends : ∀ c, rest.head? = some c -> c.isDigit = false) :
    (digits ++ rest).takeWhile Char.isDigit = digits := by
  rw [List.takeWhile_append_of_pos all]
  cases rest with
  | nil => simp
  | cons c rest => rw [List.takeWhile_cons_of_neg (by simp [ends c rfl]), List.append_nil]

theorem spanDigits_append (all : ∀ c ∈ digits, c.isDigit = true)
    (ends : ∀ c, rest.head? = some c -> c.isDigit = false) : spanDigits (digits ++ rest) = (digits, rest) := by
  have taken := takeWhile_isDigit all ends
  have split := List.takeWhile_append_dropWhile (p := Char.isDigit) (l := digits ++ rest)
  rw [taken] at split
  rw [spanDigits, taken, List.append_cancel_left split]

theorem all_isDigit_replicate (count : Nat) : ∀ c ∈ List.replicate count '0', c.isDigit = true := by
  intro c member
  rw [(List.mem_replicate.1 member).2]
  rfl

theorem digitIn?_digit {c : Char} (digit : c.isDigit = true) :
    digitIn? 10 c = some (c.toNat - '0'.toNat) := by
  have range : 48 ≤ c.toNat ∧ c.toNat ≤ 57 := by
    simpa [Char.isDigit, UInt32.le_iff_toNat_le] using digit
  have notLower : ('a' ≤ c && c ≤ 'z') = false := by
    rw [Bool.and_eq_false_iff]
    refine .inl (decide_eq_false ?_)
    rw [Char.le_def, UInt32.le_iff_toNat_le]
    exact Nat.not_le_of_lt (Nat.lt_of_le_of_lt range.2 (by decide))
  have notUpper : ('A' ≤ c && c ≤ 'Z') = false := by
    rw [Bool.and_eq_false_iff]
    refine .inl (decide_eq_false ?_)
    rw [Char.le_def, UInt32.le_iff_toNat_le]
    exact Nat.not_le_of_lt (Nat.lt_of_le_of_lt range.2 (by decide))
  have small : c.toNat - 48 < 10 := by omega
  unfold digitIn? Text.decimalValue?
  rw [notLower, notUpper, digit]
  simpa using small

/-- Digits add up behind those that have been read. -/
theorem digitsFrom_digits (all : ∀ c ∈ digits, c.isDigit = true) (value : Nat) :
    digitsFrom 10 value true digits = some (Nat.ofDigitChars 10 digits value) := by
  induction digits generalizing value with
  | nil => rfl
  | cons c rest ih =>
      have digit := all c List.mem_cons_self
      have proper : c ≠ '_' := by
        rintro rfl
        cases digit
      rw [digitsFrom, if_neg proper, digitIn?_digit digit]
      dsimp only
      rw [ih fun d member => all d (List.mem_cons_of_mem _ member), Nat.ofDigitChars_cons,
        Nat.mul_comm]

/-- A first digit is read like any other one. -/
theorem natural?_digits (filled : digits ≠ []) (all : ∀ c ∈ digits, c.isDigit = true) :
    natural? 10 digits = some (Nat.ofDigitChars 10 digits 0) := by
  rw [← digitsFrom_digits all]
  rcases List.exists_cons_of_ne_nil filled with ⟨c, rest, rfl⟩
  have proper : c ≠ '_' := by
    rintro rfl
    cases all '_' List.mem_cons_self
  rw [natural?, digitsFrom, digitsFrom, if_neg proper, if_neg proper]

theorem all_isDigit_toDigits (n : Nat) : ∀ c ∈ Nat.toDigits 10 n, c.isDigit = true :=
  fun _ member => Nat.isDigit_of_mem_toDigits (by decide) (by decide) member

theorem natural?_toDigits (n : Nat) : natural? 10 (Nat.toDigits 10 n) = some n := by
  rw [natural?_digits Nat.toDigits_ne_nil (all_isDigit_toDigits n), Nat.ofDigitChars_ten_toDigits]

/-- A text without white space stays as it is. -/
theorem trim_eq_self (plain : ∀ c ∈ digits, Text.isWhite c = false) : Text.trim digits = digits := by
  have unchanged : ∀ text : List Char, (∀ c ∈ text, Text.isWhite c = false) ->
      text.dropWhile Text.isWhite = text := by
    intro text plain
    cases text with
    | nil => rfl
    | cons c rest => rw [List.dropWhile_cons, plain c List.mem_cons_self, if_neg Bool.false_ne_true]
  rw [Text.trim, Text.trimEnd, unchanged _ plain,
    unchanged _ fun c member => plain c (List.mem_reverse.1 member), List.reverse_reverse]

theorem integer?_toDigits (n : Nat) : integer? 10 (Nat.toDigits 10 n) = some (n : Int) := by
  have all := all_isDigit_toDigits n
  have plain : ∀ c ∈ Nat.toDigits 10 n, Text.isWhite c = false := by
    intro c member
    have digit : 48 ≤ c.toNat ∧ c.toNat ≤ 57 := by
      simpa [Char.isDigit, UInt32.le_iff_toNat_le] using all c member
    simp [Text.isWhite]
    omega
  have unsigned : splitSign (Nat.toDigits 10 n) = (false, Nat.toDigits 10 n) := by
    unfold splitSign
    split
    · rename_i rest same
      have dash := all '-' (same ▸ List.mem_cons_self)
      cases dash
    · rename_i rest same
      have sum := all '+' (same ▸ List.mem_cons_self)
      cases sum
    · rfl
  rw [integer?, trim_eq_self plain, unsigned]
  dsimp only
  rw [natural?_toDigits]
  rfl

/-! ## How large a number can be -/

theorem lt_of_digitIn? {base digit : Nat} {c : Char} (found : digitIn? base c = some digit) :
    digit < base := by
  unfold digitIn? at found
  have small := Option.mem_filter_iff.1 found
  exact of_decide_eq_true small.2

/-- With every digit a number grows at most to the base times its next one. -/
theorem digitsFrom_lt {base value n : Nat} {afterDigit : Bool} {text : List Char} (positive : 0 < base)
    (read : digitsFrom base value afterDigit text = some n) :
    n < (value + 1) * Nat.pow base (text.countP fun c => (digitIn? base c).isSome) := by
  induction text generalizing value afterDigit with
  | nil =>
      rw [digitsFrom] at read
      split at read
      · cases read
        simp
      · cases read
  | cons c rest ih =>
      rw [digitsFrom] at read
      rw [List.countP_cons]
      split at read
      · split at read
        · refine Nat.lt_of_lt_of_le (ih read) (Nat.mul_le_mul_left _ ?_)
          exact Nat.pow_le_pow_right positive (Nat.le_add_right _ _)
        · cases read
      · split at read
        · rename_i digit found
          have small := lt_of_digitIn? found
          have next : ∀ count, Nat.pow base (count + 1) = base * Nat.pow base count :=
            fun _ => Nat.pow_succ'
          rw [found, Option.isSome_some, if_pos rfl, next, ← Nat.mul_assoc]
          refine Nat.lt_of_lt_of_le (ih read) (Nat.mul_le_mul_right _ ?_)
          rw [Nat.add_mul, Nat.one_mul, Nat.add_assoc]
          exact Nat.add_le_add_left small _
        · cases read

theorem splitSign_sublist (text : List Char) : (splitSign text).2.Sublist text := by
  unfold splitSign
  split
  · exact List.sublist_cons_self _ _
  · exact List.sublist_cons_self _ _
  · exact List.Sublist.refl _

theorem trim_sublist (text : List Char) : (Text.trim text).Sublist text := by
  have ends : (Text.trim text).Sublist (text.dropWhile Text.isWhite) := by
    rw [Text.trim, Text.trimEnd, ← List.reverse_sublist, List.reverse_reverse]
    exact List.dropWhile_sublist _
  exact ends.trans (List.dropWhile_sublist _)

/-- An integer is no larger than the digits in its text allow. -/
theorem natAbs_lt_of_integer? {base : Nat} {value : Int} {text : List Char} (positive : 0 < base)
    (read : integer? base text = some value) :
    value.natAbs < Nat.pow base (text.countP fun c => (digitIn? base c).isSome) := by
  have within := (splitSign_sublist (Text.trim text)).trans (trim_sublist text)
  unfold integer? at read
  dsimp only at read
  cases spelled : natural? base (splitSign (Text.trim text)).2 with
  | none =>
      rw [spelled] at read
      cases read
  | some n =>
      rw [spelled] at read
      have small := digitsFrom_lt positive spelled
      rw [Nat.zero_add, Nat.one_mul] at small
      have absolute : value.natAbs = n := by
        cases read
        split
        · exact (Int.natAbs_neg _).trans (Int.natAbs_natCast n)
        · exact Int.natAbs_natCast n
      rw [absolute]
      exact Nat.lt_of_lt_of_le small (Nat.pow_le_pow_right positive within.countP_le)

/-- A text with a fixed number of places has digits before its point and just so many behind it, and
together they spell the number. -/
theorem exists_digits_fixedChars (places scaled : Nat) :
    ∃ whole fraction, fixedChars places scaled = whole ++ '.' :: fraction ∧
      (∀ c ∈ whole ++ fraction, c.isDigit = true) ∧ fraction.length = places ∧
      natural? 10 (whole ++ fraction) = some scaled := by
  have padded : ∃ padded, padded = List.replicate (places + 1 - (Nat.toDigits 10 scaled).length) '0' ++
      Nat.toDigits 10 scaled := ⟨_, rfl⟩
  rcases padded with ⟨padded, same⟩
  have all : ∀ c ∈ padded, c.isDigit = true := by
    intro c member
    rw [same] at member
    rcases List.mem_append.1 member with zero | digit
    · exact all_isDigit_replicate _ c zero
    · exact all_isDigit_toDigits scaled c digit
  have long : places < padded.length := by
    rw [same, List.length_append, List.length_replicate]
    omega
  refine ⟨padded.take (padded.length - places), padded.drop (padded.length - places), ?_, ?_, ?_, ?_⟩
  · rw [same]
    rfl
  · rwa [List.take_append_drop]
  · rw [List.length_drop]
    omega
  · rw [List.take_append_drop, natural?_digits (List.ne_nil_of_length_pos (by omega)) all, same,
      Nat.ofDigitChars_append, Nat.ofDigitChars_replicate_zero, Nat.mul_zero, Nat.ofDigitChars_ten_toDigits]

end Number
end ImportCensus
