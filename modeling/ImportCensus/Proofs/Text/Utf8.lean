import ImportCensus.Text.Utf8

namespace ImportCensus
namespace Text

/-!
# UTF-8 is decoded exactly

A code point is spread over as few bytes as it takes, and neither surrogates nor numbers beyond
the last code point are spread over any (`IsSequence`).  A byte string is decoded if and only if
it is a row of such sequences, to the characters that they stand for, and every text has one
row of them (`decode_eq_ok_iff`).
-/

/-- The sequences of bytes that stand for a code point.  All bytes but the first begin with the
bits 10; the first one tells by the bits in front how many follow. -/
inductive IsSequence : List Nat -> Nat -> Prop
  | one {a : Nat} (bits : a < 128) : IsSequence [a] a
  | two {a b : Nat} (first : a < 32) (second : b < 64)
      (shortest : 0x80 ≤ a * 64 + b) : IsSequence [0xc0 + a, 0x80 + b] (a * 64 + b)
  | three {a b c : Nat} (first : a < 16) (second : b < 64) (third : c < 64)
      (shortest : 0x800 ≤ a * 4096 + b * 64 + c)
      (noSurrogate : a * 4096 + b * 64 + c < 0xd800 ∨ 0xe000 ≤ a * 4096 + b * 64 + c) :
      IsSequence [0xe0 + a, 0x80 + b, 0x80 + c] (a * 4096 + b * 64 + c)
  | four {a b c d : Nat} (first : a < 8) (second : b < 64) (third : c < 64) (fourth : d < 64)
      (shortest : 0x10000 ≤ a * 262144 + b * 4096 + c * 64 + d)
      (notBeyond : a * 262144 + b * 4096 + c * 64 + d < 0x110000) :
      IsSequence [0xf0 + a, 0x80 + b, 0x80 + c, 0x80 + d] (a * 262144 + b * 4096 + c * 64 + d)

/-- Bytes that are the sequences of the characters of a text, one after the other. -/
inductive Encodes : List Char -> List Nat -> Prop
  | nil : Encodes [] []
  | cons {c : Char} {text : List Char} {sequence bytes : List Nat}
      (first : IsSequence sequence c.toNat) (rest : Encodes text bytes) :
      Encodes (c :: text) (sequence ++ bytes)

/-- Bytes that are those of some text: well-formed UTF-8. -/
def IsUtf8 (bytes : List Nat) : Prop := ∃ text, Encodes text bytes

variable {code first size limit position : Nat} {sequence bytes more rest : List Nat} {c : Char}
  {text done : List Char}

namespace IsSequence

/-- What a sequence stands for is the code point of a character. -/
theorem isValidChar (stands : IsSequence sequence code) : code.isValidChar := by
  unfold Nat.isValidChar
  cases stands <;> omega

theorem toNat_ofNat (stands : IsSequence sequence code) : (Char.ofNat code).toNat = code := by
  unfold Char.ofNat
  rw [dif_pos stands.isValidChar]
  rfl

theorem ne_nil (stands : IsSequence sequence code) : sequence ≠ [] := by
  cases stands <;> exact List.cons_ne_nil _ _

/-- A code point is spread over bytes in one way only. -/
theorem unique {other : List Nat} (stands : IsSequence sequence code)
    (standsToo : IsSequence other code) : sequence = other := by
  generalize same : code = number at standsToo
  cases stands <;> cases standsToo <;> simp only [List.cons.injEq, and_true, reduceCtorEq, and_false] <;>
    omega

end IsSequence

/-! ## Single characters -/

theorem isContinuation_iff {byte : Nat} :
    isContinuation byte = true ↔ ∃ bits, bits < 64 ∧ byte = 0x80 + bits := by
  simp only [isContinuation, Bool.and_eq_true, decide_eq_true_eq]
  constructor
  · rintro ⟨least, most⟩
    exact ⟨byte - 0x80, by omega, by omega⟩
  · rintro ⟨bits, few, rfl⟩
    omega

theorem payload_add {bits : Nat} (few : bits < 64) : payload (0x80 + bits) = bits := by
  unfold payload
  omega

theorem goesWith_iff {second : Nat} : goesWith first second = true ↔
    isContinuation second = true ∧ (first = 0xe0 -> 0xa0 ≤ second) ∧
      (first = 0xed -> second < 0xa0) ∧ (first = 0xf0 -> 0x90 ≤ second) ∧
      (first = 0xf4 -> second < 0x90) := by
  unfold goesWith
  grind

/-- A sequence is decoded to the character that it stands for, whatever is behind it. -/
theorem decodeOne_of_isSequence (stands : IsSequence (first :: more) code) (rest : List Nat) :
    decodeOne first (more ++ rest) = .char (Char.ofNat code) (more.length + 1) := by
  have goesOn : ∀ {bits : Nat}, bits < 64 -> isContinuation (0x80 + bits) = true :=
    fun few => isContinuation_iff.2 ⟨_, few, rfl⟩
  unfold decodeOne
  cases stands with
  | one bits => rw [if_pos bits]; rfl
  | @two a b lead second shortest =>
      rw [if_neg (by omega), if_neg (by omega), if_pos (by omega)]
      dsimp only [List.cons_append, List.nil_append]
      rw [if_pos (goesOn second), payload_add second, Nat.add_sub_cancel_left]
      rfl
  | @three a b c lead second third shortest noSurrogate =>
      rw [if_neg (by omega), if_neg (by omega), if_neg (by omega), if_pos (by omega)]
      dsimp only [List.cons_append, List.nil_append]
      have goes : goesWith (0xe0 + a) (0x80 + b) = true :=
        goesWith_iff.2 ⟨goesOn second, by omega, by omega, by omega, by omega⟩
      rw [if_pos goes, if_pos (goesOn third), payload_add second, payload_add third,
        Nat.add_sub_cancel_left]
      rfl
  | @four a b c d lead second third fourth shortest notBeyond =>
      rw [if_neg (by omega), if_neg (by omega), if_neg (by omega), if_neg (by omega),
        if_pos (by omega)]
      dsimp only [List.cons_append, List.nil_append]
      have goes : goesWith (0xf0 + a) (0x80 + b) = true :=
        goesWith_iff.2 ⟨goesOn second, by omega, by omega, by omega, by omega⟩
      rw [if_pos goes, if_pos (goesOn third), if_pos (goesOn fourth), payload_add second,
        payload_add third, payload_add fourth, Nat.add_sub_cancel_left]
      rfl

/-! The tests that a decoder makes of two, three or four bytes leave sequences only. -/

theorem isSequence_two {second : Nat} (least : 0xc2 ≤ first) (lead : first < 0xe0)
    (goesOn : isContinuation second = true) :
    IsSequence [first, second] ((first - 0xc0) * 64 + payload second) := by
  rcases isContinuation_iff.1 goesOn with ⟨b, few, rfl⟩
  rcases Nat.exists_eq_add_of_le (by omega : 0xc0 ≤ first) with ⟨a, rfl⟩
  rw [payload_add few, Nat.add_sub_cancel_left]
  exact .two (by omega) few (by omega)

theorem isSequence_three {second third : Nat} (least : 0xe0 ≤ first) (lead : first < 0xf0)
    (goes : goesWith first second = true) (goesOn : isContinuation third = true) :
    IsSequence [first, second, third]
      ((first - 0xe0) * 4096 + payload second * 64 + payload third) := by
  rcases goesWith_iff.1 goes with ⟨goesOnSecond, noOverlong, noSurrogate, _, _⟩
  rcases isContinuation_iff.1 goesOnSecond with ⟨b, few, rfl⟩
  rcases isContinuation_iff.1 goesOn with ⟨c, fewThird, rfl⟩
  rcases Nat.exists_eq_add_of_le least with ⟨a, rfl⟩
  rw [payload_add few, payload_add fewThird, Nat.add_sub_cancel_left]
  exact .three (by omega) few fewThird (by omega) (by omega)

theorem isSequence_four {second third fourth : Nat} (least : 0xf0 ≤ first) (lead : first < 0xf5)
    (goes : goesWith first second = true) (goesOn : isContinuation third = true)
    (goesOnLast : isContinuation fourth = true) :
    IsSequence [first, second, third, fourth]
      ((first - 0xf0) * 262144 + payload second * 4096 + payload third * 64 + payload fourth) := by
  rcases goesWith_iff.1 goes with ⟨goesOnSecond, _, _, noOverlong, notBeyond⟩
  rcases isContinuation_iff.1 goesOnSecond with ⟨b, few, rfl⟩
  rcases isContinuation_iff.1 goesOn with ⟨c, fewThird, rfl⟩
  rcases isContinuation_iff.1 goesOnLast with ⟨d, fewFourth, rfl⟩
  rcases Nat.exists_eq_add_of_le least with ⟨a, rfl⟩
  rw [payload_add few, payload_add fewThird, payload_add fewFourth, Nat.add_sub_cancel_left]
  exact .four (by omega) few fewThird fewFourth (by omega) (by omega)

/-- What is decoded is a sequence, and the character that it stands for. -/
theorem isSequence_of_decodeOne (decoded : decodeOne first rest = .char c size) :
    ∃ more behind, rest = more ++ behind ∧ size = more.length + 1 ∧
      IsSequence (first :: more) c.toNat := by
  suffices found : ∃ more behind code, rest = more ++ behind ∧
      Decoded.char (Char.ofNat code) (more.length + 1) = .char c size ∧
      IsSequence (first :: more) code by
    rcases found with ⟨more, behind, code, parted, same, stands⟩
    cases same
    refine ⟨more, behind, parted, rfl, ?_⟩
    rw [stands.toNat_ofNat]
    exact stands
  unfold decodeOne at decoded
  split at decoded
  · rename_i ascii
    exact ⟨[], rest, first, rfl, decoded, .one ascii⟩
  split at decoded
  · cases decoded
  rename_i notLess
  have least : 0xc2 ≤ first := Nat.le_of_not_lt notLess
  split at decoded
  · rename_i lead
    split at decoded
    · cases decoded
    split at decoded
    · rename_i goesOn
      exact ⟨[_], _, _, rfl, decoded, isSequence_two least lead goesOn⟩
    · cases decoded
  split at decoded
  · rename_i notTwo lead
    split at decoded
    · cases decoded
    split at decoded
    · rename_i goes
      split at decoded
      · cases decoded
      split at decoded
      · rename_i goesOn
        exact ⟨[_, _], _, _, rfl, decoded,
          isSequence_three (Nat.le_of_not_lt notTwo) lead goes goesOn⟩
      · cases decoded
    · cases decoded
  split at decoded
  · rename_i notThree lead
    split at decoded
    · cases decoded
    split at decoded
    · rename_i goes
      split at decoded
      · cases decoded
      split at decoded
      · rename_i goesOn
        split at decoded
        · cases decoded
        split at decoded
        · rename_i goesOnLast
          exact ⟨[_, _, _], _, _, rfl, decoded,
            isSequence_four (Nat.le_of_not_lt notThree) lead goes goesOn goesOnLast⟩
        · cases decoded
      · cases decoded
    · cases decoded
  · cases decoded

/-- A byte is what it is made from, if that is small enough. -/
theorem toNat_byte {n m : Nat} (same : n = m) (small : m < 256) : (UInt8.ofNat n).toNat = m := by
  rw [same, UInt8.toNat_ofNat', Nat.mod_eq_of_lt small]

/-- The bytes of a character are the sequence that stands for it. -/
theorem isSequence_utf8EncodeChar (c : Char) :
    IsSequence ((String.utf8EncodeChar c).map UInt8.toNat) c.toNat := by
  have valid : c.toNat.isValidChar := c.valid
  have same : c.val.toNat = c.toNat := rfl
  unfold Nat.isValidChar at valid
  unfold String.utf8EncodeChar
  dsimp only
  rw [same]
  generalize c.toNat = code at *
  have middle : ∀ bits, (UInt8.ofNat (bits % 64 + 0x80)).toNat = 0x80 + bits % 64 := fun bits =>
    toNat_byte (by omega) (by omega)
  split
  · rw [List.map_singleton, toNat_byte rfl (by omega)]
    exact .one (by omega)
  split
  · have lead : (UInt8.ofNat (code / 64 % 0x20 + 0xc0)).toNat = 0xc0 + code / 64 :=
      toNat_byte (by omega) (by omega)
    have whole : code / 64 * 64 + code % 64 = code := by omega
    simp only [List.map_cons, List.map_nil, lead, middle]
    have stands := @IsSequence.two (code / 64) (code % 64) (by omega) (by omega) (by omega)
    rwa [whole] at stands
  split
  · have lead : (UInt8.ofNat (code / 4096 % 0x10 + 0xe0)).toNat = 0xe0 + code / 4096 :=
      toNat_byte (by omega) (by omega)
    have whole : code / 4096 * 4096 + code / 64 % 64 * 64 + code % 64 = code := by omega
    simp only [List.map_cons, List.map_nil, lead, middle]
    have stands := @IsSequence.three (code / 4096) (code / 64 % 64) (code % 64) (by omega) (by omega)
      (by omega) (by omega) (by omega)
    rwa [whole] at stands
  · have lead : (UInt8.ofNat (code / 262144 % 0x08 + 0xf0)).toNat = 0xf0 + code / 262144 :=
      toNat_byte (by omega) (by omega)
    have whole : code / 262144 * 262144 + code / 4096 % 64 * 4096 + code / 64 % 64 * 64 + code % 64 =
        code := by omega
    simp only [List.map_cons, List.map_nil, lead, middle]
    have stands := @IsSequence.four (code / 262144) (code / 4096 % 64) (code / 64 % 64) (code % 64)
      (by omega) (by omega) (by omega) (by omega) (by omega) (by omega)
    rwa [whole] at stands

/-! ## Texts -/

/-- Bytes are those of a text if what is decoded first is its first character, and what is left
is the rest of it. -/
theorem encodes_cons_iff : Encodes text (first :: rest) ↔ ∃ c size more,
    decodeOne first rest = .char c size ∧ text = c :: more ∧
      Encodes more (rest.drop (size - 1)) := by
  constructor
  · intro encodes
    generalize whole : first :: rest = bytes at encodes
    cases encodes with
    | nil => cases whole
    | @cons c text sequence bytes stands behind =>
        cases sequence with
        | nil => exact absurd rfl stands.ne_nil
        | cons lead more =>
            rw [List.cons_append, List.cons.injEq] at whole
            rcases whole with ⟨rfl, rfl⟩
            have decoded := decodeOne_of_isSequence stands bytes
            rw [Char.ofNat_toNat] at decoded
            refine ⟨c, _, text, decoded, rfl, ?_⟩
            rw [Nat.add_sub_cancel, List.drop_left]
            exact behind
  · rintro ⟨c, size, text, decoded, rfl, behind⟩
    rcases isSequence_of_decodeOne decoded with ⟨more, left, rfl, rfl, stands⟩
    rw [Nat.add_sub_cancel, List.drop_left] at behind
    exact .cons stands behind

theorem encodes_nil_iff : Encodes text [] ↔ text = [] := by
  constructor
  · intro encodes
    generalize whole : ([] : List Nat) = bytes at encodes
    cases encodes with
    | nil => rfl
    | cons stands => exact absurd (List.append_eq_nil_iff.1 whole.symm).1 stands.ne_nil
  · rintro rfl
    exact .nil

/-- Decoding goes on with the text that the bytes ahead are those of, if there is one. -/
theorem decodeFrom_eq_ok_iff (enough : bytes.length ≤ limit) :
    decodeFrom position done limit bytes = .ok text ↔
      ∃ ahead, text = done.reverse ++ ahead ∧ Encodes ahead bytes := by
  induction limit generalizing position done bytes with
  | zero =>
      rw [List.length_eq_zero_iff.1 (Nat.le_zero.1 enough), decodeFrom]
      simp [encodes_nil_iff, eq_comm]
  | succ limit ih =>
      cases bytes with
      | nil =>
          rw [decodeFrom]
          simp [encodes_nil_iff, eq_comm]
      | cons first rest =>
          have fewer : ∀ n, (rest.drop n).length ≤ limit := by
            intro n
            rw [List.length_drop]
            rw [List.length_cons] at enough
            omega
          rw [decodeFrom]
          simp only [encodes_cons_iff]
          cases decodeOne first rest with
          | fault length reason => simp
          | char c size =>
              dsimp only
              rw [ih (fewer _)]
              simp only [Decoded.char.injEq]
              constructor
              · rintro ⟨ahead, rfl, encodes⟩
                exact ⟨c :: ahead, by simp, c, size, ahead, ⟨rfl, rfl⟩, rfl, encodes⟩
              · rintro ⟨_, rfl, _, _, ahead, ⟨rfl, rfl⟩, rfl, encodes⟩
                exact ⟨ahead, by simp, encodes⟩

/-- To decode bytes is to tell the text that they are those of. -/
theorem decode_eq_ok_iff : decode bytes = .ok text ↔ Encodes text bytes := by
  rw [decode, decodeFrom_eq_ok_iff (Nat.le_refl _)]
  simp

theorem encodes_encode (text : List Char) : Encodes text (encode text) := by
  induction text with
  | nil => exact .nil
  | cons c text ih => exact .cons (isSequence_utf8EncodeChar c) ih

/-- A text has one row of bytes. -/
theorem encodes_iff : Encodes text bytes ↔ encode text = bytes := by
  constructor
  · intro encodes
    induction encodes with
    | nil => rfl
    | @cons c text sequence bytes stands _ ih =>
        rw [← ih, stands.unique (isSequence_utf8EncodeChar c)]
        rfl
  · rintro rfl
    exact encodes_encode text

end Text
end ImportCensus
