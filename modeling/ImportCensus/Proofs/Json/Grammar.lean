import ImportCensus.Json.Value

namespace ImportCensus
namespace Json

/-!
# The grammar of JSON texts

The grammar of RFC 8259, with the value that a text denotes.  Each relation says what stands at the
beginning of a text and what is left behind it.  White space may stand around every token.  A
number is an integer if it has neither a fraction nor an exponent, however many digits it has; the
members of an object are kept in their order.  Escapes that are half of a pair denote no character
and are left out.
-/

/-- White space, up to what is left. -/
inductive Blank : List Char -> List Char -> Prop
  | none {rest : List Char} : Blank rest rest
  | more {c : Char} {text rest : List Char} (blank : c ∈ [' ', '\t', '\n', '\r'])
      (others : Blank text rest) : Blank (c :: text) rest

/-! ## Strings -/

/-- The hexadecimal digits, with letters of either case, and their values. -/
def hexDigits : List (Char × Nat) :=
  "0123456789abcdef".toList.zip (List.range 16) ++ "ABCDEF".toList.zip (List.range' 10 6)

/-- Four hexadecimal digits. -/
inductive Hex4 : List Char -> Nat -> List Char -> Prop
  | digits {a b c d : Char} {k l m n : Nat} {rest : List Char} (first : (a, k) ∈ hexDigits)
      (second : (b, l) ∈ hexDigits) (third : (c, m) ∈ hexDigits) (fourth : (d, n) ∈ hexDigits) :
      Hex4 (a :: b :: c :: d :: rest) (k * 4096 + l * 256 + m * 16 + n) rest

/-- The letters of the short escapes, with the characters that they stand for. -/
def shortEscapes : List (Char × Char) :=
  [('"', '"'), ('\\', '\\'), ('/', '/'), ('b', '\x08'), ('f', '\x0c'), ('n', '\n'), ('r', '\r'), ('t', '\t')]

/-- The characters of a string behind its opening quote, and what is left behind the quote that
closes it. -/
inductive Spells : List Char -> List Char -> List Char -> Prop
  | close {rest : List Char} : Spells ('"' :: rest) [] rest
  | plain {c : Char} {text decoded rest : List Char} (visible : 32 ≤ c.toNat) (notQuote : c ≠ '"')
      (notBackslash : c ≠ '\\') (others : Spells text decoded rest) : Spells (c :: text) (c :: decoded) rest
  | short {letter c : Char} {text decoded rest : List Char} (means : (letter, c) ∈ shortEscapes)
      (others : Spells text decoded rest) : Spells ('\\' :: letter :: text) (c :: decoded) rest
  | code {code : Nat} {digits text decoded rest : List Char} (hex : Hex4 digits code text)
      (scalar : code < 0xd800 ∨ 0xe000 ≤ code) (others : Spells text decoded rest) :
      Spells ('\\' :: 'u' :: digits) (Char.ofNat code :: decoded) rest
  /-- A character beyond the basic plane, as a pair of escapes. -/
  | pair {high low : Nat} {digits more text decoded rest : List Char} (first : Hex4 digits high ('\\' :: 'u' :: more))
      (isHigh : 0xd800 ≤ high ∧ high < 0xdc00) (second : Hex4 more low text)
      (isLow : 0xdc00 ≤ low ∧ low < 0xe000) (others : Spells text decoded rest) :
      Spells ('\\' :: 'u' :: digits)
        (Char.ofNat (0x10000 + (high - 0xd800) * 0x400 + (low - 0xdc00)) :: decoded) rest

/-! ## Numbers -/

/-- The sign of a number that is written in decimal. -/
def signChars (negative : Bool) : List Char := if negative then ['-'] else []

/-- Digits as they stand behind a point or in an exponent. -/
structure AreDigits (digits : List Char) : Prop where
  filled : digits ≠ []
  all : ∀ c ∈ digits, c.isDigit = true

/-- Digits that may stand in front of a point: no zero leads others. -/
structure IsWhole (digits : List Char) : Prop extends AreDigits digits where
  leading : digits.head? = some '0' -> digits.length = 1

/-- A fraction with its point, or none. -/
inductive IsFraction : List Char -> List Char -> Prop
  | none : IsFraction [] []
  | point {fraction : List Char} (are : AreDigits fraction) : IsFraction ('.' :: fraction) fraction

/-- An exponent with its letter and its sign, or none. -/
inductive IsExponent : List Char -> Option Int -> Prop
  | none : IsExponent [] none
  | bare {letter : Char} {digits : List Char} (scales : letter = 'e' ∨ letter = 'E') (are : AreDigits digits) :
      IsExponent (letter :: digits) (some (Nat.ofDigitChars 10 digits 0))
  | plus {letter : Char} {digits : List Char} (scales : letter = 'e' ∨ letter = 'E') (are : AreDigits digits) :
      IsExponent (letter :: '+' :: digits) (some (Nat.ofDigitChars 10 digits 0))
  | minus {letter : Char} {digits : List Char} (scales : letter = 'e' ∨ letter = 'E') (are : AreDigits digits) :
      IsExponent (letter :: '-' :: digits) (some (-(Nat.ofDigitChars 10 digits 0 : Int)))

/-- The value of a number with these digits. -/
def numberOf (negative : Bool) (whole fraction : List Char) (power : Option Int) : Value :=
  if fraction.isEmpty && power.isNone then
    let size : Int := Nat.ofDigitChars 10 whole 0
    .integer (if negative then -size else size)
  else .number (.ofDecimal negative (Nat.ofDigitChars 10 (whole ++ fraction) 0) (power.getD 0 - fraction.length))

/-- A number in decimal. -/
inductive IsNumber : List Char -> Value -> Prop
  | mk {negative : Bool} {whole point fraction exponent : List Char} {power : Option Int} (isWhole : IsWhole whole)
      (isFraction : IsFraction point fraction) (isExponent : IsExponent exponent power) :
      IsNumber (signChars negative ++ (whole ++ (point ++ exponent))) (numberOf negative whole fraction power)

/-! ## Values -/

mutual

/-- A value at the beginning of a text. -/
inductive IsValue : List Char -> Value -> List Char -> Prop
  | null {rest : List Char} : IsValue ('n' :: 'u' :: 'l' :: 'l' :: rest) .null rest
  | true {rest : List Char} : IsValue ('t' :: 'r' :: 'u' :: 'e' :: rest) (.boolean true) rest
  | false {rest : List Char} : IsValue ('f' :: 'a' :: 'l' :: 's' :: 'e' :: rest) (.boolean false) rest
  | number {text rest : List Char} {value : Value} (isNumber : IsNumber text value) : IsValue (text ++ rest) value rest
  | string {text decoded rest : List Char} (spells : Spells text decoded rest) :
      IsValue ('"' :: text) (.string (String.ofList decoded)) rest
  | emptyArray {text rest : List Char} (within : Blank text (']' :: rest)) : IsValue ('[' :: text) (.array []) rest
  | array {text rest : List Char} {elements : List Value} (are : AreElements text elements rest) :
      IsValue ('[' :: text) (.array elements) rest
  | emptyObject {text rest : List Char} (within : Blank text ('\x7d' :: rest)) :
      IsValue ('\x7b' :: text) (.object []) rest
  | object {text rest : List Char} {members : List (String × Value)} (are : AreMembers text members rest) :
      IsValue ('\x7b' :: text) (.object members) rest

/-- Elements with commas between them, and the bracket that closes the array. -/
inductive AreElements : List Char -> List Value -> List Char -> Prop
  | last {text first second rest : List Char} {value : Value} (before : Blank text first)
      (isValue : IsValue first value second) (behind : Blank second (']' :: rest)) : AreElements text [value] rest
  | more {text first second third rest : List Char} {value : Value} {others : List Value} (before : Blank text first)
      (isValue : IsValue first value second) (behind : Blank second (',' :: third))
      (areOthers : AreElements third others rest) : AreElements text (value :: others) rest

/-- A member: its name, a colon and its value. -/
inductive IsMember : List Char -> String × Value -> List Char -> Prop
  | named {text spelling decoded named colon first rest : List Char} {value : Value}
      (before : Blank text ('"' :: spelling)) (spells : Spells spelling decoded named)
      (behindName : Blank named (':' :: colon)) (behindColon : Blank colon first)
      (isValue : IsValue first value rest) : IsMember text (String.ofList decoded, value) rest

/-- Members with commas between them, and the brace that closes the object. -/
inductive AreMembers : List Char -> List (String × Value) -> List Char -> Prop
  | last {text second rest : List Char} {member : String × Value} (isMember : IsMember text member second)
      (behind : Blank second ('\x7d' :: rest)) : AreMembers text [member] rest
  | more {text second third rest : List Char} {member : String × Value} {others : List (String × Value)}
      (isMember : IsMember text member second) (behind : Blank second (',' :: third))
      (areOthers : AreMembers third others rest) : AreMembers text (member :: others) rest

end

/-- A whole text denotes a value. -/
inductive Denotes : List Char -> Value -> Prop
  | text {text first second : List Char} {value : Value} (before : Blank text first)
      (isValue : IsValue first value second) (behind : Blank second []) : Denotes text value

end Json
end ImportCensus
