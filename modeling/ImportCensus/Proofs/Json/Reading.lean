import ImportCensus.Json.Reader
import ImportCensus.Proofs.Json.Grammar
import ImportCensus.Proofs.Number.Numerals

namespace ImportCensus
namespace Json

/-!
# Texts of the grammar are read

The reader finds what stands at the beginning of a text, as long as what is left behind it does
not go on like a number.  So a whole text that denotes a value is read as this value
(`Denotes.read_eq`), and no text denotes two (`Denotes.unique`).  The fuel of the reader is enough
for as many values as there are characters before what is left.
-/

variable {text rest decoded digits whole fraction point exponent : List Char} {c : Char} {n : Nat}

/-! ## White space -/

theorem Blank.skip_eq (blank : Blank text rest) : skip text = skip rest := by
  induction blank with
  | none => rfl
  | @more c text rest blank others ih =>
      have white : isBlank c = true := by
        simp only [List.mem_cons, List.not_mem_nil, or_false] at blank
        rcases blank with rfl | rfl | rfl | rfl <;> rfl
      rw [← ih]
      exact List.dropWhile_cons_of_pos white

theorem Blank.length_le (blank : Blank text rest) : rest.length ≤ text.length := by
  induction blank with
  | none => exact Nat.le_refl _
  | more _ _ ih => exact Nat.le_succ_of_le ih

theorem skip_cons {c : Char} (black : isBlank c = false) (rest : List Char) : skip (c :: rest) = c :: rest := by
  rw [skip, List.dropWhile_cons_of_neg (by simp [black])]

theorem Blank.skip_eq_cons (blank : Blank text (c :: rest)) (black : isBlank c = false) : skip text = c :: rest := by
  rw [blank.skip_eq, skip_cons black]

theorem readValue_congr {first second : List Char} (same : skip first = skip second) (limit : Nat) :
    readValue limit first = readValue limit second := by
  cases limit with
  | zero => rfl
  | succ limit => rw [readValue, readValue, same]

/-! ## Strings -/

theorem hexValue?_of_mem : ∀ digit ∈ hexDigits, hexValue? digit.1 = some digit.2 := by decide

theorem Hex4.hex4?_eq (hex : Hex4 digits n rest) : hex4? digits = some (n, rest) := by
  cases hex with
  | digits first second third fourth =>
      simp only [hex4?, hexValue?_of_mem _ first, hexValue?_of_mem _ second, hexValue?_of_mem _ third,
        hexValue?_of_mem _ fourth, Option.bind_eq_bind, Option.bind_some]
      rfl

theorem Hex4.length_eq (hex : Hex4 digits n rest) : digits.length = rest.length + 4 := by
  cases hex
  rfl

theorem numericEscape?_of_scalar (hex : Hex4 digits n rest) (scalar : n < 0xd800 ∨ 0xe000 ≤ n) :
    numericEscape? digits = some (Char.ofNat n, rest) := by
  have notHigh : isHighSurrogate n = false := by
    simp only [isHighSurrogate, Bool.and_eq_false_iff, decide_eq_false_iff_not]
    omega
  have notLow : isLowSurrogate n = false := by
    simp only [isLowSurrogate, Bool.and_eq_false_iff, decide_eq_false_iff_not]
    omega
  simp only [numericEscape?, hex.hex4?_eq, Option.bind_eq_bind, Option.bind_some, notHigh, notLow,
    Bool.false_eq_true, if_false]
  rfl

theorem numericEscape?_of_pair {high low : Nat} {more : List Char} (first : Hex4 digits high ('\\' :: 'u' :: more))
    (isHigh : 0xd800 ≤ high ∧ high < 0xdc00) (second : Hex4 more low rest) (isLow : 0xdc00 ≤ low ∧ low < 0xe000) :
    numericEscape? digits = some (Char.ofNat (0x10000 + (high - 0xd800) * 0x400 + (low - 0xdc00)), rest) := by
  have highHalf : isHighSurrogate high = true := by simp [isHighSurrogate, isHigh]
  have lowHalf : isLowSurrogate low = true := by simp [isLowSurrogate, isLow]
  simp only [numericEscape?, first.hex4?_eq, second.hex4?_eq, Option.bind_eq_bind, Option.bind_some, highHalf, lowHalf,
    if_true]
  rfl

theorem Spells.length_lt (spells : Spells text decoded rest) : rest.length < text.length := by
  induction spells with
  | close => exact Nat.lt_succ_self _
  | plain _ _ _ _ ih => exact Nat.lt_succ_of_lt ih
  | short _ _ ih => exact Nat.lt_succ_of_lt (Nat.lt_succ_of_lt ih)
  | code hex _ _ ih =>
      have size := hex.length_eq
      simp only [List.length_cons]
      omega
  | pair first _ second _ _ ih =>
      have size := first.length_eq
      have sizeMore := second.length_eq
      simp only [List.length_cons] at size ⊢
      omega

theorem readString_short {letter : Char} (means : (letter, c) ∈ shortEscapes) (done text : List Char) (limit : Nat) :
    readString done (limit + 1) ('\\' :: letter :: text) = readString (c :: done) limit text := by
  simp only [shortEscapes, List.mem_cons, Prod.mk.injEq, List.not_mem_nil, or_false] at means
  rcases means with ⟨rfl, rfl⟩ | ⟨rfl, rfl⟩ | ⟨rfl, rfl⟩ | ⟨rfl, rfl⟩ | ⟨rfl, rfl⟩ | ⟨rfl, rfl⟩ | ⟨rfl, rfl⟩ |
    ⟨rfl, rfl⟩ <;> rfl

theorem readString_numeric (escape : numericEscape? digits = some (c, text)) (done : List Char) (limit : Nat) :
    readString done (limit + 1) ('\\' :: 'u' :: digits) = readString (c :: done) limit text := by
  simp only [readString, escape]
  rfl

/-- A string is read up to the quote that closes it. -/
theorem Spells.readString_eq (spells : Spells text decoded rest) (done : List Char) {limit : Nat}
    (enough : text.length < limit) : readString done limit text = some (done.reverse ++ decoded, rest) := by
  induction spells generalizing done limit with
  | close =>
      rcases Nat.exists_eq_add_of_lt enough with ⟨extra, rfl⟩
      rw [List.append_nil]
      rfl
  | @plain c text decoded rest visible notQuote notBackslash others ih =>
      rcases Nat.exists_eq_add_of_lt enough with ⟨extra, rfl⟩
      have fewer : text.length < (c :: text).length + extra := by
        rw [List.length_cons]
        omega
      rw [readString.eq_def]
      dsimp only
      rw [if_neg notQuote, if_neg notBackslash, if_neg (Nat.not_lt.2 visible), ih _ fewer, List.reverse_cons,
        List.append_assoc]
      rfl
  | @short letter c text decoded rest means others ih =>
      rcases Nat.exists_eq_add_of_lt enough with ⟨extra, rfl⟩
      have fewer : text.length < ('\\' :: letter :: text).length + extra := by
        simp only [List.length_cons]
        omega
      rw [readString_short means, ih _ fewer, List.reverse_cons, List.append_assoc]
      rfl
  | @code code digits text decoded rest hex scalar others ih =>
      rcases Nat.exists_eq_add_of_lt enough with ⟨extra, rfl⟩
      have size := hex.length_eq
      have fewer : text.length < ('\\' :: 'u' :: digits).length + extra := by
        simp only [List.length_cons]
        omega
      rw [readString_numeric (numericEscape?_of_scalar hex scalar), ih _ fewer, List.reverse_cons, List.append_assoc]
      rfl
  | @pair high low digits more text decoded rest first isHigh second isLow others ih =>
      rcases Nat.exists_eq_add_of_lt enough with ⟨extra, rfl⟩
      have size := first.length_eq
      have sizeMore := second.length_eq
      have fewer : text.length < ('\\' :: 'u' :: digits).length + extra := by
        simp only [List.length_cons] at size ⊢
        omega
      rw [readString_numeric (numericEscape?_of_pair first isHigh second isLow), ih _ fewer, List.reverse_cons,
        List.append_assoc]
      rfl

/-! ## Numbers -/

/-- What may stand behind a number without being taken for a part of it. -/
def EndsNumber (rest : List Char) : Prop :=
  ∀ c, rest.head? = some c -> c.isDigit = false ∧ c ≠ '.' ∧ c ≠ 'e' ∧ c ≠ 'E'

theorem EndsNumber.nil : EndsNumber [] := nofun

theorem endsNumber_cons (ends : c.isDigit = false ∧ c ≠ '.' ∧ c ≠ 'e' ∧ c ≠ 'E') (rest : List Char) :
    EndsNumber (c :: rest) := by
  intro first head
  rw [← Option.some.inj head]
  exact ends

/-- White space ends a number. -/
theorem Blank.endsNumber (blank : Blank text rest) (ends : EndsNumber rest) : EndsNumber text := by
  cases blank with
  | none => exact ends
  | more white _ =>
      simp only [List.mem_cons, List.not_mem_nil, or_false] at white
      rcases white with rfl | rfl | rfl | rfl <;> exact endsNumber_cons (by decide) _

/-- What becomes of an exponent behind its sign. -/
def behindScale (negative : Bool) (text : List Char) : Option (Option Int × List Char) :=
  let digits := text.takeWhile Char.isDigit
  if digits.isEmpty then none
  else
    let size : Int := digitsValue digits
    some (some (if negative then -size else size), text.drop digits.length)

theorem behindScale_digits (are : AreDigits digits) (ends : EndsNumber rest) (negative : Bool) :
    behindScale negative (digits ++ rest) =
      some (some (if negative then -(Nat.ofDigitChars 10 digits 0 : Int) else Nat.ofDigitChars 10 digits 0), rest) := by
  unfold behindScale
  dsimp only
  rw [Number.takeWhile_isDigit are.all fun c head => (ends c head).1, List.isEmpty_eq_false_iff.2 are.filled, List.drop_left]
  rfl

theorem readExponent_plain {letter : Char} (scales : letter = 'e' ∨ letter = 'E') (are : AreDigits digits)
    (rest : List Char) : readExponent (letter :: (digits ++ rest)) = behindScale false (digits ++ rest) := by
  rcases List.exists_cons_of_ne_nil are.filled with ⟨c, others, rfl⟩
  have digit : c.isDigit = true := are.all c List.mem_cons_self
  rw [List.cons_append]
  unfold readExponent
  dsimp only
  rw [if_pos (by simpa using scales)]
  split
  · rename_i same
    cases (List.cons.inj same).1
    cases digit
  · rename_i same
    cases (List.cons.inj same).1
    cases digit
  · rfl

/-- An exponent is read with its sign, and where there is none nothing is. -/
theorem readExponent_eq {power : Option Int} (isExponent : IsExponent exponent power)
    (ends : EndsNumber rest) : readExponent (exponent ++ rest) = some (power, rest) := by
  cases isExponent with
  | none =>
      cases rest with
      | nil => rfl
      | cons c rest =>
          have own := (ends c rfl).2.2
          show (if (c = 'e' || c = 'E') = true then _ else _) = _
          rw [if_neg (by simpa using own)]
          rfl
  | bare scales are =>
      rw [List.cons_append, readExponent_plain scales are, behindScale_digits are ends]
      rfl
  | @plus letter digits scales are =>
      have signed : readExponent (letter :: '+' :: (digits ++ rest)) = behindScale false (digits ++ rest) := by
        rcases scales with rfl | rfl <;> rfl
      rw [List.cons_append, List.cons_append, signed, behindScale_digits are ends]
      rfl
  | @minus letter digits scales are =>
      have signed : readExponent (letter :: '-' :: (digits ++ rest)) = behindScale true (digits ++ rest) := by
        rcases scales with rfl | rfl <;> rfl
      rw [List.cons_append, List.cons_append, signed, behindScale_digits are ends]
      rfl

/-- A fraction is read with its point, and where there is none nothing is. -/
theorem readFraction_eq (isFraction : IsFraction point fraction)
    (ends : ∀ c, rest.head? = some c -> c.isDigit = false ∧ c ≠ '.') :
    readFraction (point ++ rest) = some (fraction, rest) := by
  cases isFraction with
  | none =>
      rw [List.nil_append]
      unfold readFraction
      split
      · exact absurd rfl (ends '.' rfl).2
      · rfl
  | point are =>
      have taken := Number.takeWhile_isDigit are.all fun c head => (ends c head).1
      show (if ((fraction ++ rest).takeWhile Char.isDigit).isEmpty then none
        else some ((fraction ++ rest).takeWhile Char.isDigit,
          (fraction ++ rest).drop ((fraction ++ rest).takeWhile Char.isDigit).length)) = _
      rw [taken, List.isEmpty_eq_false_iff.2 are.filled, List.drop_left]
      rfl

/-- What becomes of a number behind its whole part. -/
def behindWhole (negative : Bool) (whole tail : List Char) : Option (Value × List Char) := do
  let (fraction, behind) ← readFraction tail
  let (power, behind) ← readExponent behind
  if fraction.isEmpty && power.isNone then
    let size : Int := digitsValue whole
    return (.integer (if negative then -size else size), behind)
  else
    let digits := digitsValue (whole ++ fraction)
    let power := power.getD 0 - fraction.length
    return (.number (.ofDecimal negative digits power), behind)

/-- What becomes of a number behind its sign. -/
def behindSign (negative : Bool) (text : List Char) : Option (Value × List Char) :=
  let whole := text.takeWhile Char.isDigit
  if whole.isEmpty || (whole.head? == some '0' && 1 < whole.length) then none
  else behindWhole negative whole (text.drop whole.length)

theorem readNumber_minus (text : List Char) : readNumber ('-' :: text) = behindSign true text := rfl

theorem readNumber_plain {c : Char} (unsigned : c ≠ '-') (text : List Char) :
    readNumber (c :: text) = behindSign false (c :: text) := by
  unfold readNumber
  split
  rename_i negative behind parts
  split at parts
  · rename_i same
    exact absurd (List.cons.inj same).1 unsigned
  · cases parts
    rfl

/-- A number is read sign first, then its whole part. -/
theorem readNumber_whole {negative : Bool} {tail : List Char} (isWhole : IsWhole whole)
    (ends : ∀ c, tail.head? = some c -> c.isDigit = false) :
    readNumber (signChars negative ++ (whole ++ tail)) = behindWhole negative whole tail := by
  have filled : whole.isEmpty = false := List.isEmpty_eq_false_iff.2 isWhole.filled
  have leading : (whole.head? == some '0' && decide (1 < whole.length)) = false := by
    cases zero : whole.head? == some '0' with
    | false => rfl
    | true =>
        rw [isWhole.leading (beq_iff_eq.1 zero)]
        rfl
  have signed : readNumber (signChars negative ++ (whole ++ tail)) =
      behindSign negative (whole ++ tail) := by
    cases negative with
    | true => exact readNumber_minus _
    | false =>
        rcases List.exists_cons_of_ne_nil isWhole.filled with ⟨c, others, rfl⟩
        apply readNumber_plain
        rintro rfl
        cases isWhole.all '-' List.mem_cons_self
  rw [signed, behindSign, Number.takeWhile_isDigit isWhole.all ends, filled, leading, List.drop_left]
  rfl

/-- A number is read up to what ends it. -/
theorem IsNumber.readNumber_eq {value : Value} (isNumber : IsNumber text value) (ends : EndsNumber rest) :
    readNumber (text ++ rest) = some (value, rest) := by
  rcases isNumber with @⟨negative, whole, point, fraction, exponent, power, isWhole, isFraction, isExponent⟩
  have behindPoint : ∀ c, (exponent ++ rest).head? = some c -> c.isDigit = false ∧ c ≠ '.' := by
    intro c head
    cases isExponent with
    | none => exact ⟨(ends c head).1, (ends c head).2.1⟩
    | bare scales _ | plus scales _ | minus scales _ =>
        cases head
        rcases scales with rfl | rfl <;> decide
  have behindDigits : ∀ c, (point ++ (exponent ++ rest)).head? = some c -> c.isDigit = false := by
    intro c head
    cases isFraction with
    | none => exact (behindPoint c head).1
    | point _ =>
        cases head
        rfl
  rw [List.append_assoc, List.append_assoc, List.append_assoc, readNumber_whole isWhole behindDigits, behindWhole,
    readFraction_eq isFraction behindPoint]
  simp only [Option.bind_eq_bind, Option.bind_some]
  rw [readExponent_eq isExponent ends]
  simp only [Option.bind_some]
  unfold numberOf
  split <;> rfl

/-! ## Values -/

theorem IsNumber.head {value : Value} (isNumber : IsNumber text value) :
    ∃ c others, text = c :: others ∧ (c.isDigit = true ∨ c = '-') := by
  rcases isNumber with @⟨negative, whole, point, fraction, exponent, power, isWhole, _, _⟩
  cases negative with
  | true => exact ⟨'-', _, rfl, .inr rfl⟩
  | false =>
      rcases List.exists_cons_of_ne_nil isWhole.filled with ⟨c, others, rfl⟩
      exact ⟨c, _, rfl, .inl (isWhole.all c List.mem_cons_self)⟩

/-- A value that begins like a number is one. -/
theorem readValue_number (digit : c.isDigit = true ∨ c = '-') (limit : Nat) (rest : List Char) :
    readValue (limit + 1) (c :: rest) = readNumber (c :: rest) := by
  have others : c ∉ [' ', '\t', '\n', '\r', '"', '[', '\x7b', 'n', 't', 'f'] := by
    intro member
    simp only [List.mem_cons, List.not_mem_nil, or_false] at member
    rcases member with rfl | rfl | rfl | rfl | rfl | rfl | rfl | rfl | rfl | rfl <;>
      exact absurd digit (by decide)
  simp only [List.mem_cons, List.not_mem_nil, or_false, not_or] at others
  rcases others with ⟨notBlank, notTab, notFeed, notReturn, notQuote, notBracket, notBrace, notN,
    notT, notF⟩
  have black : isBlank c = false := by
    simp [isBlank, notBlank, notTab, notFeed, notReturn]
  rw [readValue, skip_cons black]
  dsimp only
  rw [if_neg notQuote, if_neg notBracket, if_neg notBrace, if_neg notN, if_neg notT, if_neg notF]

/-- A value is read at the beginning of a text, with fuel for what is in front of the rest. -/
structure ReadsAs (text : List Char) (value : Value) (rest : List Char) : Prop where
  shorter : rest.length < text.length
  reads : EndsNumber rest -> ∀ limit, text.length ≤ limit + rest.length ->
    readValue limit text = some (value, rest)

/-- Elements are read up to the bracket that closes them. -/
structure ElementsReadAs (text : List Char) (elements : List Value) (rest : List Char) : Prop where
  shorter : rest.length < text.length
  reads : ∀ limit, text.length ≤ limit + rest.length -> readElements limit text = some (elements, rest)

/-- What becomes of an element behind it. -/
def behindElement (limit : Nat) (value : Value) (behind : List Char) : Option (List Value × List Char) :=
  match skip behind with
  | ',' :: rest => (readElements limit rest).bind fun others => some (value :: others.1, others.2)
  | ']' :: rest => some ([value], rest)
  | _ => none

/-- What becomes of a member behind its value. -/
def behindMember (limit : Nat) (member : String × Value) (behind : List Char) :
    Option (List (String × Value) × List Char) :=
  match skip behind with
  | ',' :: rest => (readMembers limit rest).bind fun others => some (member :: others.1, others.2)
  | '\x7d' :: rest => some ([member], rest)
  | _ => none

/-- A member is read up to the end of its value. -/
structure MemberReadsAs (text : List Char) (member : String × Value) (rest : List Char) : Prop where
  shorter : rest.length < text.length
  reads : EndsNumber rest -> ∀ limit, text.length ≤ limit + rest.length ->
    readMembers (limit + 1) text = behindMember limit member rest

/-- Members are read up to the brace that closes them. -/
structure MembersReadAs (text : List Char) (members : List (String × Value)) (rest : List Char) : Prop where
  shorter : rest.length < text.length
  reads : ∀ limit, text.length ≤ limit + rest.length -> readMembers limit text = some (members, rest)

/-- Fuel that covers what is behind the first character is enough for one step more. -/
theorem readsAs_cons {value : Value} (fewer : rest.length ≤ text.length)
    (reads : EndsNumber rest -> ∀ limit, text.length ≤ limit + rest.length ->
      readValue (limit + 1) (c :: text) = some (value, rest)) : ReadsAs (c :: text) value rest := by
  refine ⟨Nat.lt_succ_of_le fewer, ?_⟩
  intro ends limit enough
  rw [List.length_cons] at enough
  cases limit with
  | zero => omega
  | succ limit => exact reads ends limit (by omega)

theorem readsAs_word (letters : List Char) {value : Value}
    (reads : ∀ limit, readValue (limit + 1) (c :: (letters ++ rest)) = some (value, rest)) :
    ReadsAs (c :: (letters ++ rest)) value rest := by
  refine readsAs_cons ?_ fun _ limit _ => reads limit
  rw [List.length_append]
  omega

theorem readsAs_number {value : Value} (isNumber : IsNumber text value) : ReadsAs (text ++ rest) value rest := by
  rcases isNumber.head with ⟨c, others, rfl, digit⟩
  rw [List.cons_append]
  refine readsAs_cons ?_ fun ends limit _ => ?_
  · rw [List.length_append]
    omega
  · rw [readValue_number digit]
    exact isNumber.readNumber_eq ends

theorem readsAs_string (spells : Spells text decoded rest) :
    ReadsAs ('"' :: text) (.string (String.ofList decoded)) rest := by
  refine readsAs_cons (Nat.le_of_lt spells.length_lt) fun _ limit _ => ?_
  rw [readValue, skip_cons (by decide)]
  dsimp only
  rw [if_pos rfl, spells.readString_eq [] (Nat.lt_succ_self _)]
  rfl

/-- No element begins with the bracket that closes an array. -/
theorem readElements_closed {behind : List Char} (closed : skip text = ']' :: behind) (limit : Nat) :
    readElements limit text = none := by
  have none : readValue (limit - 1) text = none := by
    cases limit - 1 with
    | zero => rfl
    | succ fewer =>
        rw [readValue, closed]
        rfl
  cases limit with
  | zero => rfl
  | succ limit =>
      rw [readElements, show readValue limit text = _ from none]
      rfl

/-- No member begins with the brace that closes an object. -/
theorem readMembers_closed {behind : List Char} (closed : skip text = '\x7d' :: behind) (limit : Nat) :
    readMembers limit text = none := by
  cases limit with
  | zero => rfl
  | succ limit =>
      rw [readMembers, closed]
      rfl

theorem readsAs_emptyArray (within : Blank text (']' :: rest)) : ReadsAs ('[' :: text) (.array []) rest := by
  refine readsAs_cons (Nat.le_of_succ_le within.length_le) fun _ limit _ => ?_
  rw [readValue, skip_cons (by decide)]
  dsimp only
  rw [if_neg (by decide), if_pos rfl, within.skip_eq_cons (by decide)]
  rfl

theorem readsAs_array {elements : List Value} (read : ElementsReadAs text elements rest) :
    ReadsAs ('[' :: text) (.array elements) rest := by
  refine readsAs_cons (Nat.le_of_lt read.shorter) fun _ limit enough => ?_
  have reads := read.reads limit enough
  rw [readValue, skip_cons (by decide)]
  dsimp only
  rw [if_neg (by decide), if_pos rfl]
  split
  · rename_i closed
    cases (readElements_closed closed limit).symm.trans reads
  · rw [reads]
    rfl

theorem readsAs_emptyObject (within : Blank text ('\x7d' :: rest)) : ReadsAs ('\x7b' :: text) (.object []) rest := by
  refine readsAs_cons (Nat.le_of_succ_le within.length_le) fun _ limit _ => ?_
  rw [readValue, skip_cons (by decide)]
  dsimp only
  rw [if_neg (by decide), if_neg (by decide), if_pos rfl, within.skip_eq_cons (by decide)]
  rfl

theorem readsAs_object {members : List (String × Value)} (read : MembersReadAs text members rest) :
    ReadsAs ('\x7b' :: text) (.object members) rest := by
  refine readsAs_cons (Nat.le_of_lt read.shorter) fun _ limit enough => ?_
  have reads := read.reads limit enough
  rw [readValue, skip_cons (by decide)]
  dsimp only
  rw [if_neg (by decide), if_neg (by decide), if_pos rfl]
  split
  · rename_i closed
    cases (readMembers_closed closed limit).symm.trans reads
  · rw [reads]
    rfl

/-- The first element is read behind white space. -/
theorem readElements_first {first second : List Char} {value : Value} {limit : Nat} (before : Blank text first)
    (read : ReadsAs first value second) (ends : EndsNumber second) (enough : first.length ≤ limit + second.length) :
    readElements (limit + 1) text = behindElement limit value second := by
  rw [readElements, readValue_congr before.skip_eq, read.reads ends limit enough]
  rfl

theorem elementsReadAs_step {elements : List Value} (shorter : rest.length < text.length)
    (reads : ∀ limit, text.length ≤ limit + 1 + rest.length -> readElements (limit + 1) text = some (elements, rest)) :
    ElementsReadAs text elements rest := by
  refine ⟨shorter, ?_⟩
  intro limit enough
  cases limit with
  | zero => omega
  | succ limit => exact reads limit enough

theorem elementsReadAs_last {first second : List Char} {value : Value} (before : Blank text first)
    (read : ReadsAs first value second) (behind : Blank second (']' :: rest)) : ElementsReadAs text [value] rest := by
  have shorter := read.shorter
  have fewer := before.length_le
  have closes := behind.length_le
  rw [List.length_cons] at closes
  refine elementsReadAs_step (by omega) fun limit enough => ?_
  have ends := behind.endsNumber (endsNumber_cons (by decide) _)
  rw [readElements_first before read ends (by omega), behindElement, behind.skip_eq_cons (by decide)]
  rfl

theorem elementsReadAs_more {first second third : List Char} {value : Value} {others : List Value}
    (before : Blank text first) (read : ReadsAs first value second) (behind : Blank second (',' :: third))
    (readOthers : ElementsReadAs third others rest) : ElementsReadAs text (value :: others) rest := by
  have shorter := read.shorter
  have shorterOthers := readOthers.shorter
  have fewer := before.length_le
  have closes := behind.length_le
  rw [List.length_cons] at closes
  refine elementsReadAs_step (by omega) fun limit enough => ?_
  have ends := behind.endsNumber (endsNumber_cons (by decide) _)
  rw [readElements_first before read ends (by omega), behindElement, behind.skip_eq_cons (by decide)]
  show (readElements limit third).bind (fun others => some (value :: others.1, others.2)) = _
  rw [readOthers.reads limit (by omega)]
  rfl

/-- What becomes of a member behind its name. -/
def behindName (limit : Nat) (named : List Char × List Char) : Option (List (String × Value) × List Char) :=
  match skip named.2 with
  | ':' :: behind =>
    (readValue limit behind).bind fun read => behindMember limit (String.ofList named.1, read.1) read.2
  | _ => none

theorem memberReadsAs_named {spelling named colon first : List Char} {value : Value}
    (before : Blank text ('"' :: spelling)) (spells : Spells spelling decoded named)
    (behindQuote : Blank named (':' :: colon)) (behindColon : Blank colon first)
    (read : ReadsAs first value rest) : MemberReadsAs text (String.ofList decoded, value) rest := by
  have shorter := read.shorter
  have fewer := before.length_le
  have shorterName := spells.length_lt
  have parts := behindQuote.length_le
  have fewerValue := behindColon.length_le
  rw [List.length_cons] at fewer parts
  refine ⟨by omega, ?_⟩
  intro ends limit enough
  have name := spells.readString_eq [] (Nat.lt_succ_self _)
  rw [readMembers, before.skip_eq_cons (by decide)]
  show (readString [] (spelling.length + 1) spelling).bind (behindName limit) = _
  rw [name]
  show behindName limit (decoded, named) = _
  rw [behindName, behindQuote.skip_eq_cons (by decide)]
  show (readValue limit colon).bind _ = _
  rw [readValue_congr behindColon.skip_eq, read.reads ends limit (by omega)]
  rfl

theorem membersReadAs_step {members : List (String × Value)} (shorter : rest.length < text.length)
    (reads : ∀ limit, text.length ≤ limit + 1 + rest.length -> readMembers (limit + 1) text = some (members, rest)) :
    MembersReadAs text members rest := by
  refine ⟨shorter, ?_⟩
  intro limit enough
  cases limit with
  | zero => omega
  | succ limit => exact reads limit enough

theorem membersReadAs_last {second : List Char} {member : String × Value} (read : MemberReadsAs text member second)
    (behind : Blank second ('\x7d' :: rest)) : MembersReadAs text [member] rest := by
  have shorter := read.shorter
  have closes := behind.length_le
  rw [List.length_cons] at closes
  refine membersReadAs_step (by omega) fun limit enough => ?_
  have ends := behind.endsNumber (endsNumber_cons (by decide) _)
  rw [read.reads ends limit (by omega), behindMember, behind.skip_eq_cons (by decide)]
  rfl

theorem membersReadAs_more {second third : List Char} {member : String × Value} {others : List (String × Value)}
    (read : MemberReadsAs text member second) (behind : Blank second (',' :: third))
    (readOthers : MembersReadAs third others rest) : MembersReadAs text (member :: others) rest := by
  have shorter := read.shorter
  have shorterOthers := readOthers.shorter
  have closes := behind.length_le
  rw [List.length_cons] at closes
  refine membersReadAs_step (by omega) fun limit enough => ?_
  have ends := behind.endsNumber (endsNumber_cons (by decide) _)
  rw [read.reads ends limit (by omega), behindMember, behind.skip_eq_cons (by decide)]
  show (readMembers limit third).bind (fun others => some (member :: others.1, others.2)) = _
  rw [readOthers.reads limit (by omega)]
  rfl

mutual

/-- What stands at the beginning of a text is read as its value. -/
theorem readsAs_of_isValue : ∀ {text rest : List Char} {value : Value}, IsValue text value rest ->
    ReadsAs text value rest
  | _, _, _, .null => readsAs_word ['u', 'l', 'l'] fun _ => rfl
  | _, _, _, .true => readsAs_word ['r', 'u', 'e'] fun _ => rfl
  | _, _, _, .false => readsAs_word ['a', 'l', 's', 'e'] fun _ => rfl
  | _, _, _, .number isNumber => readsAs_number isNumber
  | _, _, _, .string spells => readsAs_string spells
  | _, _, _, .emptyArray within => readsAs_emptyArray within
  | _, _, _, .array are => readsAs_array (elementsReadAs_of_areElements are)
  | _, _, _, .emptyObject within => readsAs_emptyObject within
  | _, _, _, .object are => readsAs_object (membersReadAs_of_areMembers are)

theorem elementsReadAs_of_areElements : ∀ {text rest : List Char} {elements : List Value},
    AreElements text elements rest -> ElementsReadAs text elements rest
  | _, _, _, .last before isValue behind => elementsReadAs_last before (readsAs_of_isValue isValue) behind
  | _, _, _, .more before isValue behind areOthers =>
    elementsReadAs_more before (readsAs_of_isValue isValue) behind (elementsReadAs_of_areElements areOthers)

theorem memberReadsAs_of_isMember : ∀ {text rest : List Char} {member : String × Value},
    IsMember text member rest -> MemberReadsAs text member rest
  | _, _, _, .named before spells behindName behindColon isValue =>
    memberReadsAs_named before spells behindName behindColon (readsAs_of_isValue isValue)

theorem membersReadAs_of_areMembers : ∀ {text rest : List Char} {members : List (String × Value)},
    AreMembers text members rest -> MembersReadAs text members rest
  | _, _, _, .last isMember behind => membersReadAs_last (memberReadsAs_of_isMember isMember) behind
  | _, _, _, .more isMember behind areOthers =>
    membersReadAs_more (memberReadsAs_of_isMember isMember) behind (membersReadAs_of_areMembers areOthers)

end

/-! ## Whole texts -/

/-- A text that denotes a value is read as this value. -/
theorem Denotes.read_eq {value : Value} (denotes : Denotes text value) : read text = some value := by
  rcases denotes with @⟨first, second, _, before, isValue, behind⟩
  have reads := readsAs_of_isValue isValue
  have fewer := before.length_le
  have found := reads.reads (behind.endsNumber .nil) (text.length + 1) (by omega)
  have blank : skip second = [] := behind.skip_eq
  unfold read
  rw [readValue_congr before.skip_eq, found]
  simp only [Option.bind_eq_bind, Option.bind_some, blank, List.isEmpty_nil, if_true]
  rfl

/-- No text denotes two values. -/
theorem Denotes.unique {value other : Value} (denotes : Denotes text value) (denotesOther : Denotes text other) :
    value = other :=
  Option.some.inj (denotes.read_eq.symm.trans denotesOther.read_eq)

end Json
end ImportCensus
