import ImportCensus.Proofs.Json.Numerals
import ImportCensus.Proofs.Json.Reading
import Mathlib.Data.List.Forall2

namespace ImportCensus
namespace Json

/-!
# Written values denote themselves

The text of a value is a text of the grammar in front of whatever comes behind it (`WritesAs`).  The
value that it denotes is the one that was written, except for binary numbers, where it is some
number; arrays and objects denote what their parts denote.  Of the characters outside of ASCII and
of those below the blank, the text holds just the former ones of the strings (`filter_write`).
-/

variable {text rest decoded : List Char}

/-! ## Strings -/

theorem hexDigit_mem : ∀ n < 16, (hexDigit n, n) ∈ hexDigits := by decide

/-- Two digits are enough for a character below the blank. -/
theorem hex4_control {n : Nat} (control : n < 32) (rest : List Char) :
    Hex4 ('0' :: '0' :: hexDigit (n / 16) :: hexDigit (n % 16) :: rest) n rest := by
  have zero : ('0', 0) ∈ hexDigits := by decide
  have digits : Hex4 ('0' :: '0' :: hexDigit (n / 16) :: hexDigit (n % 16) :: rest)
      (0 * 4096 + 0 * 256 + n / 16 * 16 + n % 16) rest :=
    .digits zero zero (hexDigit_mem _ (by omega)) (hexDigit_mem _ (by omega))
  have code : 0 * 4096 + 0 * 256 + n / 16 * 16 + n % 16 = n := by omega
  rw [code] at digits
  exact digits

/-- A character without a short escape is written by its code or as it is. -/
theorem escapeChar_of_not_short {c : Char} (long : c ∉ ['"', '\\', '\n', '\r', '\t', '\x08', '\x0c']) :
    escapeChar c =
      if c.toNat < 32 then ['\\', 'u', '0', '0', hexDigit (c.toNat / 16), hexDigit (c.toNat % 16)] else [c] := by
  simp only [List.mem_cons, List.not_mem_nil, or_false, not_or] at long
  rcases long with ⟨notQuote, notBackslash, notFeed, notReturn, notTab, notBack, notForm⟩
  rw [escapeChar, if_neg notQuote, if_neg notBackslash, if_neg notFeed, if_neg notReturn, if_neg notTab,
    if_neg notBack, if_neg notForm]

/-- A character is spelled by what is written for it. -/
theorem Spells.escapeChar (others : Spells text decoded rest) (c : Char) :
    Spells (Json.escapeChar c ++ text) (c :: decoded) rest := by
  by_cases short : c ∈ ['"', '\\', '\n', '\r', '\t', '\x08', '\x0c']
  · simp only [List.mem_cons, List.not_mem_nil, or_false] at short
    rcases short with rfl | rfl | rfl | rfl | rfl | rfl | rfl <;> exact .short (by decide) others
  · have notQuote : c ≠ '"' := by
      rintro rfl
      exact short (by decide)
    have notBackslash : c ≠ '\\' := by
      rintro rfl
      exact short (by decide)
    rw [escapeChar_of_not_short short]
    by_cases control : c.toNat < 32
    · have spelled := Spells.code (hex4_control control text) (.inl (by omega)) others
      rw [Char.ofNat_toNat] at spelled
      rw [if_pos control]
      exact spelled
    · rw [if_neg control]
      exact .plain (Nat.le_of_not_lt control) notQuote notBackslash others

theorem spells_flatMap (decoded rest : List Char) :
    Spells (decoded.flatMap escapeChar ++ '"' :: rest) decoded rest := by
  induction decoded with
  | nil => exact .close
  | cons c decoded ih =>
      rw [List.flatMap_cons, List.append_assoc]
      exact ih.escapeChar c

theorem quote_append (text rest : List Char) :
    quote text ++ rest = '"' :: (text.flatMap escapeChar ++ '"' :: rest) := by
  rw [quote, List.cons_append, List.append_assoc]
  rfl

/-! ## Values -/

/-- In front of anything, the text of a value is a text of some value. -/
def WritesAs (value found : Value) : Prop := ∀ rest, IsValue (write value ++ rest) found rest

theorem writesAs_integer (value : Int) : WritesAs (.integer value) (.integer value) :=
  fun _ => .number (isNumber_integerChars value)

theorem writesAs_number (negative : Bool) (significand : Nat) (exponent : Int) :
    ∃ found, WritesAs (.number (.finite negative significand exponent)) (.number found) := by
  rcases isNumber_shortestChars negative significand exponent with ⟨found, isNumber⟩
  exact ⟨found, fun _ => .number isNumber⟩

theorem writesAs_string (value : String) : WritesAs (.string value) (.string value) := by
  intro rest
  have spells := IsValue.string (spells_flatMap value.toList rest)
  rw [String.ofList_toList] at spells
  rw [write, quote_append]
  exact spells

theorem AreElements.blank {elements : List Value} (are : AreElements text elements rest) :
    AreElements (' ' :: text) elements rest := by
  cases are with
  | last before isValue behind => exact .last (.more (by decide) before) isValue behind
  | more before isValue behind areOthers => exact .more (.more (by decide) before) isValue behind areOthers

/-- Elements with a comma and a blank between them are the elements of an array. -/
theorem areElements_write {elements founds : List Value} (filled : elements ≠ [])
    (writes : List.Forall₂ WritesAs elements founds) (rest : List Char) :
    AreElements (writeElements elements ++ ']' :: rest) founds rest := by
  induction writes with
  | nil => exact absurd rfl filled
  | @cons value found elements founds first others ih =>
      cases others with
      | nil => exact .last .none (first _) .none
      | @cons next nextFound elements founds second others =>
          have text : writeElements (value :: next :: elements) ++ ']' :: rest =
              write value ++ ',' :: ' ' :: (writeElements (next :: elements) ++ ']' :: rest) :=
            List.append_assoc (write value) (',' :: ' ' :: writeElements (next :: elements)) (']' :: rest)
          rw [text]
          exact .more .none (first _) .none (ih (List.cons_ne_nil _ _)).blank

/-- An array denotes the array of what its elements denote. -/
theorem writesAs_array {elements founds : List Value} (writes : List.Forall₂ WritesAs elements founds) :
    WritesAs (.array elements) (.array founds) := by
  intro rest
  have text : write (.array elements) ++ rest = '[' :: (writeElements elements ++ ']' :: rest) := by
    rw [write, List.cons_append, List.append_assoc]
    rfl
  rw [text]
  cases writes with
  | nil => exact .emptyArray .none
  | cons first others => exact .array (areElements_write (List.cons_ne_nil _ _) (.cons first others) rest)

/-- Members with the same names, of which one writes as the other. -/
def MemberWritesAs (member found : String × Value) : Prop := found.1 = member.1 ∧ WritesAs member.2 found.2

/-- The text of a member. -/
def writeMember (member : String × Value) : List Char := quote member.1.toList ++ ':' :: ' ' :: write member.2

theorem isMember_writeMember {member found : String × Value} (writes : MemberWritesAs member found) (rest : List Char) :
    IsMember (writeMember member ++ rest) found rest := by
  rcases member with ⟨name, value⟩
  rcases found with ⟨foundName, foundValue⟩
  rcases writes with ⟨same, writes⟩
  dsimp only at same writes
  subst same
  have text : writeMember (foundName, value) ++ rest =
      '"' :: (foundName.toList.flatMap escapeChar ++ '"' :: ':' :: ' ' :: (write value ++ rest)) := by
    rw [writeMember, List.append_assoc, quote_append]
    rfl
  have blank : Blank (' ' :: (write value ++ rest)) (write value ++ rest) := .more (by decide) .none
  have isMember := IsMember.named .none (spells_flatMap foundName.toList _) .none blank (writes rest)
  rw [String.ofList_toList] at isMember
  rw [text]
  exact isMember

theorem IsMember.blank {member : String × Value} (isMember : IsMember text member rest) :
    IsMember (' ' :: text) member rest := by
  cases isMember with
  | named before spells behindName behindColon isValue =>
      exact .named (.more (by decide) before) spells behindName behindColon isValue

theorem AreMembers.blank {members : List (String × Value)} (are : AreMembers text members rest) :
    AreMembers (' ' :: text) members rest := by
  cases are with
  | last isMember behind => exact .last isMember.blank behind
  | more isMember behind areOthers => exact .more isMember.blank behind areOthers

/-- Members with a comma and a blank between them are the members of an object. -/
theorem areMembers_write {members founds : List (String × Value)} (filled : members ≠ [])
    (writes : List.Forall₂ MemberWritesAs members founds) (rest : List Char) :
    AreMembers (writeMembers members ++ '\x7d' :: rest) founds rest := by
  induction writes with
  | nil => exact absurd rfl filled
  | @cons member found members founds first others ih =>
      cases others with
      | nil => exact .last (isMember_writeMember first _) .none
      | @cons next nextFound members founds second others =>
          have text : writeMembers (member :: next :: members) ++ '\x7d' :: rest =
              writeMember member ++ ',' :: ' ' :: (writeMembers (next :: members) ++ '\x7d' :: rest) := by
            show (quote member.1.toList ++ ':' :: ' ' ::
              (write member.2 ++ ',' :: ' ' :: writeMembers (next :: members))) ++ '\x7d' :: rest = _
            rw [writeMember]
            simp only [List.append_assoc, List.cons_append]
          rw [text]
          exact .more (isMember_writeMember first _) .none (ih (List.cons_ne_nil _ _)).blank

/-- An object denotes the object of what its members denote. -/
theorem writesAs_object {members founds : List (String × Value)} (writes : List.Forall₂ MemberWritesAs members founds) :
    WritesAs (.object members) (.object founds) := by
  intro rest
  have text : write (.object members) ++ rest = '\x7b' :: (writeMembers members ++ '\x7d' :: rest) := by
    rw [write, List.cons_append, List.append_assoc]
    rfl
  rw [text]
  cases writes with
  | nil => exact .emptyObject .none
  | cons first others => exact .object (areMembers_write (List.cons_ne_nil _ _) (.cons first others) rest)

/-- A whole text denotes a value, whatever white space stands behind it. -/
theorem WritesAs.denotes {value found : Value} (writes : WritesAs value found) (blank : Blank rest []) :
    Denotes (write value ++ rest) found :=
  .text .none (writes rest) blank

/-! ## Values without binary numbers -/

theorem Value.toList_text (value : Value) : value.text.toList = write value := String.toList_ofList

/-- Whether a character is outside of ASCII. -/
def isForeign (c : Char) : Bool := 127 < c.toNat

/-- Whether a character is below the blank or outside of ASCII. -/
def isUnusual (c : Char) : Bool := c.toNat < 32 || isForeign c

mutual

/-- The characters of the names and the strings in a value, in their order. -/
def Value.spelled : Value -> List Char
  | .string value => value.toList
  | .array elements => spelledElements elements
  | .object members => spelledMembers members
  | _ => []

def spelledElements : List Value -> List Char
  | [] => []
  | value :: rest => value.spelled ++ spelledElements rest

def spelledMembers : List (String × Value) -> List Char
  | [] => []
  | (name, value) :: rest => name.toList ++ (value.spelled ++ spelledMembers rest)

end

theorem isUnusual_digit {c : Char} (digit : c.isDigit = true) : isUnusual c = false := by
  have bounds : 48 ≤ c.toNat ∧ c.toNat ≤ 57 := Char.isDigit_iff_toNat.1 digit
  simp only [isUnusual, isForeign, Bool.or_eq_false_iff, decide_eq_false_iff_not]
  omega

theorem AreDigits.filter_eq {digits : List Char} (are : AreDigits digits) : digits.filter isUnusual = [] :=
  List.filter_eq_nil_iff.2 fun c member => by simp [isUnusual_digit (are.all c member)]

/-- Nothing in a number is unusual. -/
theorem IsNumber.filter_eq {value : Value} (isNumber : IsNumber text value) : text.filter isUnusual = [] := by
  rcases isNumber with @⟨negative, whole, point, fraction, exponent, power, isWhole, isFraction, isExponent⟩
  have sign : (signChars negative).filter isUnusual = [] := by cases negative <;> rfl
  have behindPoint : point.filter isUnusual = [] := by
    cases isFraction with
    | none => rfl
    | point are => exact are.filter_eq
  have scale : exponent.filter isUnusual = [] := by
    cases isExponent with
    | none => rfl
    | bare scales are | plus scales are | minus scales are => rcases scales with rfl | rfl <;> exact are.filter_eq
  rw [List.filter_append, List.filter_append, List.filter_append, sign, isWhole.filter_eq, behindPoint, scale]
  rfl

theorem filter_numberChars (value : Number.Binary64) : (numberChars value).filter isUnusual = [] := by
  cases value with
  | nan => decide
  | infinite negative => cases negative <;> decide
  | finite negative significand exponent =>
      rcases isNumber_shortestChars negative significand exponent with ⟨found, isNumber⟩
      exact isNumber.filter_eq

/-- Just a character outside of ASCII is unusual in what is written for it. -/
theorem filter_escapeChar (c : Char) : (escapeChar c).filter isUnusual = [c].filter isForeign := by
  by_cases short : c ∈ ['"', '\\', '\n', '\r', '\t', '\x08', '\x0c']
  · simp only [List.mem_cons, List.not_mem_nil, or_false] at short
    rcases short with rfl | rfl | rfl | rfl | rfl | rfl | rfl <;> decide
  · rw [escapeChar_of_not_short short]
    by_cases control : c.toNat < 32
    · have digit : ∀ n < 16, isUnusual (hexDigit n) = false := by decide
      have native : isForeign c = false := by
        simp only [isForeign, decide_eq_false_iff_not]
        omega
      have first := digit (c.toNat / 16) (by omega)
      have second := digit (c.toNat % 16) (by omega)
      have escape : isUnusual '\\' = false ∧ isUnusual 'u' = false ∧ isUnusual '0' = false := by decide
      rw [if_pos control]
      simp [first, second, escape, native]
    · have same : isUnusual c = isForeign c := by simp [isUnusual, control]
      rw [if_neg control, List.filter_singleton, List.filter_singleton, same]

theorem filter_flatMap_escapeChar (text : List Char) :
    (text.flatMap escapeChar).filter isUnusual = text.filter isForeign := by
  induction text with
  | nil => rfl
  | cons c text ih =>
      rw [List.flatMap_cons, List.filter_append, ih, filter_escapeChar, ← List.filter_append]
      rfl

theorem filter_quote (text : List Char) : (quote text).filter isUnusual = text.filter isForeign := by
  show (text.flatMap escapeChar ++ ['"']).filter isUnusual = _
  rw [List.filter_append, filter_flatMap_escapeChar]
  exact List.append_nil _

mutual

/-- No character below the blank is in the text of a value, and the ones outside of ASCII are
those of the names and the strings, in their order. -/
theorem filter_write : ∀ value : Value, (write value).filter isUnusual = value.spelled.filter isForeign
  | .null => rfl
  | .boolean true => rfl
  | .boolean false => rfl
  | .integer value => (isNumber_integerChars value).filter_eq
  | .number value => filter_numberChars value
  | .string value => filter_quote value.toList
  | .array elements => by
      show (writeElements elements ++ [']']).filter isUnusual = (spelledElements elements).filter isForeign
      rw [List.filter_append, filter_writeElements elements]
      exact List.append_nil _
  | .object members => by
      show (writeMembers members ++ ['\x7d']).filter isUnusual = (spelledMembers members).filter isForeign
      rw [List.filter_append, filter_writeMembers members]
      exact List.append_nil _

theorem filter_writeElements : ∀ elements : List Value,
    (writeElements elements).filter isUnusual = (spelledElements elements).filter isForeign
  | [] => rfl
  | [value] => by
      rw [spelledElements, spelledElements, List.append_nil]
      exact filter_write value
  | value :: next :: rest => by
      show (write value ++ ([',', ' '] ++ writeElements (next :: rest))).filter isUnusual = _
      rw [spelledElements, List.filter_append, List.filter_append, List.filter_append, filter_write value,
        filter_writeElements (next :: rest)]
      rfl

theorem filter_writeMembers : ∀ members : List (String × Value),
    (writeMembers members).filter isUnusual = (spelledMembers members).filter isForeign
  | [] => rfl
  | [(name, value)] => by
      show (quote name.toList ++ ([':', ' '] ++ write value)).filter isUnusual = _
      rw [spelledMembers, spelledMembers, List.append_nil, List.filter_append, List.filter_append, List.filter_append,
        filter_quote, filter_write value]
      rfl
  | (name, value) :: next :: rest => by
      show (quote name.toList ++ ([':', ' '] ++ (write value ++ ([',', ' '] ++ writeMembers (next :: rest))))).filter
        isUnusual = _
      rw [spelledMembers, List.filter_append, List.filter_append, List.filter_append, List.filter_append,
        List.filter_append, List.filter_append, filter_quote, filter_write value, filter_writeMembers (next :: rest)]
      rfl

end

end Json
end ImportCensus
