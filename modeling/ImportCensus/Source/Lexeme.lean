import ImportCensus.Text.Identifier

namespace ImportCensus
namespace Source

/-!
# Lexemes

A source text is cut into lexemes without loss: blanks, comments and stray
characters are lexemes too, so the characters of all lexemes, one after the
other, are the text again (`scan_flatten`).  Positions are therefore never
computed here; they follow from the lexemes alone.

Strings are cut into their opening and closing quotes, plain text, escape
sequences and replacement fields.  What stands in a field is ordinary code, so
the scanner keeps a stack of modes.  A line feed ends a line only at the bottom
of this stack and outside all brackets.  A quote that is never closed is a stray
lexeme, and what follows it is code; quotes around replacement fields are taken
on trust.
-/

inductive LexemeKind where
  /-- White space inside a line, or a line feed that ends no line. -/
  | blank
  | newline
  /-- A backslash with the line feed it hides. -/
  | continuation
  | comment
  | name
  /-- A reserved word. -/
  | keyword
  | integer
  | float
  /-- An operator or a delimiter. -/
  | symbol
  | stringOpen
  | stringText
  | escape
  /-- A brace written twice in a string with replacement fields. -/
  | doubledBrace
  | stringClose
  /-- The conversion letter of a replacement field, with its exclamation mark. -/
  | conversion
  /-- Plain text of a format specification. -/
  | formatText
  /-- A character that begins no lexeme where it stands. -/
  | stray
  deriving DecidableEq, Repr

/-- A piece of source text with the part it plays. -/
structure Lexeme where
  kind : LexemeKind
  text : List Char
  deriving DecidableEq, Repr

/-- The words that are never names. -/
def reservedWords : List String :=
  ["False", "None", "True", "and", "as", "assert", "async", "await", "break", "class",
   "continue", "def", "del", "elif", "else", "except", "finally", "for", "from", "global",
   "if", "import", "in", "is", "lambda", "nonlocal", "not", "or", "pass", "raise",
   "return", "try", "while", "with", "yield"]

/-- How a string is delimited and which notations it admits. -/
structure Quote where
  mark : Char
  triple : Bool
  raw : Bool
  bytes : Bool
  /-- Whether braces open replacement fields. -/
  fields : Bool
  deriving DecidableEq, Repr

/-- What the scanner stands in, innermost first in a stack of modes. -/
inductive Mode where
  /-- Code inside so many open brackets. -/
  | code (brackets : Nat)
  /-- The content of a string. -/
  | content (quote : Quote)
  /-- A replacement field, inside so many brackets of its own, with so many
  lambda headers still waiting for their colon. -/
  | field (brackets lambdas : Nat)
  /-- The format specification that ends a replacement field. -/
  | spec
  deriving DecidableEq, Repr

/-- White space inside a line: tab, vertical tab, form feed, carriage return,
space, and three invisible characters. -/
def isBlank (c : Char) : Bool :=
  c == ' ' || c == '\t' || c == '\r' || c == '\x0b' || c == '\x0c' ||
    c == '\u200b' || c == '\u2060' || c == '\ufeff'

/-- Characters that a comment may hold: a line feed ends it, and the null
character stands nowhere. -/
def isRemark (c : Char) : Bool := c != '\n' && c != '\x00'

namespace Numeral

/-- Length of the leading decimal digits, each group of them followed by at
most one underscore. -/
def digitRun (afterDigit : Bool) : List Char -> Nat
  | [] => 0
  | c :: rest =>
    if c.isDigit then 1 + digitRun true rest
    else if c == '_' && afterDigit then 1 + digitRun false rest
    else 0

/-- Length of the leading digits of a radix, each group of them preceded by at
most one underscore. -/
def radixRun (isDigit : Char -> Bool) : List Char -> Nat
  | [] => 0
  | [c] => if isDigit c then 1 else 0
  | c :: d :: rest =>
    if isDigit c || (c == '_' && isDigit d) then 1 + radixRun isDigit (d :: rest) else 0

def isHexDigit (c : Char) : Bool :=
  c.isDigit || ('a' ≤ c && c ≤ 'f') || ('A' ≤ c && c ≤ 'F')

/-- The digits that go with the letter of a radix mark. -/
def radixDigit? (letter : Char) : Option (Char -> Bool) :=
  if letter == 'x' || letter == 'X' then some isHexDigit
  else if letter == 'o' || letter == 'O' then some fun c => '0' ≤ c && c ≤ '7'
  else if letter == 'b' || letter == 'B' then some fun c => c == '0' || c == '1'
  else none

/-- Length of an exponent, zero where none stands. -/
def exponentRun : List Char -> Nat
  | e :: rest =>
    if e == 'e' || e == 'E' then
      match rest with
      | sign :: digits =>
        if sign == '+' || sign == '-' then
          let run := digitRun false digits
          if run = 0 then 0 else run + 2
        else
          let run := digitRun false rest
          if run = 0 then 0 else run + 1
      | [] => 0
    else 0
  | [] => 0

/-- One for a first character in the class, else zero. -/
def suffixRun (accepts : Char -> Bool) : List Char -> Nat
  | c :: _ => if accepts c then 1 else 0
  | [] => 0

def isLongMark (c : Char) : Bool := c == 'l' || c == 'L'

def isImaginaryMark (c : Char) : Bool := c == 'j' || c == 'J'

/-- Length of the radix literal that begins with a zero, if one does. -/
def radixLiteral? : List Char -> Option Nat
  | '0' :: letter :: rest =>
    match radixDigit? letter with
    | some isDigit =>
      let run := radixRun isDigit rest
      if run = 0 then none
      else some (2 + run + suffixRun isLongMark (rest.drop run))
    | none => none
  | _ => none

/-- Length and kind of the decimal literal at the beginning, zero where none stands. -/
def decimalLiteral (text : List Char) : Nat × LexemeKind :=
  let whole := digitRun false text
  let behind := text.drop whole
  match behind with
  | '.' :: digits =>
    let fraction := digitRun false digits
    if whole = 0 && fraction = 0 then (0, .stray)
    else
      let power := exponentRun (digits.drop fraction)
      let size := whole + 1 + fraction + power
      (size + suffixRun isImaginaryMark (text.drop size), .float)
  | _ =>
    let power := exponentRun behind
    if whole = 0 then (0, .stray)
    else if power = 0 then
      (whole + suffixRun (fun c => isLongMark c || isImaginaryMark c) behind, .integer)
    else
      let size := whole + power
      (size + suffixRun isImaginaryMark (text.drop size), .float)

/-- Length and kind of the number at the beginning, zero where none stands. -/
def literal (text : List Char) : Nat × LexemeKind :=
  match radixLiteral? text with
  | some size => (size, .integer)
  | none => decimalLiteral text

end Numeral

namespace Operator

/-- Operators and delimiters of three, two and one characters. -/
def triples : List (List Char) :=
  [['*', '*', '='], ['/', '/', '='], ['>', '>', '='], ['<', '<', '=']]

def pairs : List (List Char) :=
  [['*', '*'], ['/', '/'], ['>', '>'], ['<', '<'], ['<', '='], ['>', '='], ['=', '='],
   ['!', '='], ['<', '>'], ['-', '>'], [':', '='], ['+', '='], ['-', '='], ['*', '='],
   ['/', '='], ['%', '='], ['@', '='], ['&', '='], ['|', '='], ['^', '=']]

def singles : List Char :=
  ['+', '-', '*', '/', '%', '@', '&', '|', '^', '~', '<', '>', '=', '(', ')', '[', ']',
   '\x7b', '\x7d', ',', ':', '.', ';']

/-- Length of the longest operator at the beginning, zero where none stands. -/
def run (c : Char) (rest : List Char) : Nat :=
  if triples.contains (c :: rest.take 2) then 3
  else if pairs.contains (c :: rest.take 1) then 2
  else if singles.contains c then 1
  else 0

end Operator

namespace Quote

/-- The letters that may stand before an opening quote, in any mixture. -/
def isFlag (c : Char) : Bool :=
  ['f', 'F', 't', 'T', 'r', 'R', 'b', 'B', 'u', 'U'].contains c

def isMark (c : Char) : Bool := c == '\'' || c == '"' || c == '\x60'

def ofFlags (flags : List Char) (mark : Char) (triple : Bool) : Quote where
  mark := mark
  triple := triple
  raw := flags.any fun c => c == 'r' || c == 'R'
  bytes := flags.any fun c => c == 'b' || c == 'B'
  fields := flags.any fun c => c == 'f' || c == 'F' || c == 't' || c == 'T'

/-- Whether the two characters behind a mark make it a triple one.  Back
quotes are never tripled. -/
def isTriple (mark : Char) (behind : List Char) : Bool :=
  mark != '\x60' && behind.take 2 == [mark, mark]

/-- The opening of a string at the beginning of a text, with its length. -/
def open? (text : List Char) : Option (Quote × Nat) :=
  let flags := text.takeWhile isFlag
  match text.drop flags.length with
  | mark :: behind =>
    if isMark mark then
      let triple := isTriple mark behind
      some (ofFlags flags mark triple, flags.length + if triple then 3 else 1)
    else none
  | [] => none

/-- Length of the escape sequence behind a backslash, if one stands there. -/
def escapeRun? (bytes : Bool) : List Char -> Option Nat
  | [] => none
  | c :: rest =>
    let hex (count : Nat) : Option Nat :=
      if (rest.take count).length = count && (rest.take count).all Numeral.isHexDigit
      then some (count + 1) else none
    if c == '\n' then some 1
    else if c == '\r' then if rest.head? == some '\n' then some 2 else none
    else if ['\'', '"', 'a', 'b', 'f', 'r', 'n', 't', 'v', '\\'].contains c then some 1
    else if c == 'x' then hex 2
    else if c.isDigit then some (1 + ((rest.take 2).takeWhile Char.isDigit).length)
    else if bytes then none
    else if c == 'u' then hex 4
    else if c == 'U' then hex 8
    else if c == 'N' then
      match rest with
      | '\x7b' :: inner =>
        let size := (inner.takeWhile fun d => d != '\x7d').length
        if size = 0 || size = inner.length then none else some (size + 3)
      | _ => none
    else none

/-- How many characters behind a backslash of a raw string belong to it. -/
def rawEscapeRun (quote : Quote) (rest : List Char) : Nat :=
  let step := match rest with
    | c :: _ => if c == quote.mark || c == '\\' then 1 else 0
    | [] => 0
  step + match rest.drop step with
    | '\r' :: '\n' :: _ => 2
    | '\r' :: _ => 1
    | '\n' :: _ => 1
    | _ => 0

/-- Whether a string is closed in the text behind its opening quote.  Line feeds
end the search unless the quote is a triple one. -/
def isClosedIn (quote : Quote) : List Char -> Bool
  | [] => false
  | c :: rest =>
    if c == quote.mark then
      !quote.triple || rest.take 2 == [quote.mark, quote.mark] || quote.isClosedIn rest
    else if c == '\\' then
      let size := if quote.raw then quote.rawEscapeRun rest
        else (escapeRun? quote.bytes rest).getD 0
      quote.isClosedIn (rest.drop size)
    else if c == '\n' && !quote.triple then false
    else quote.isClosedIn rest
termination_by text => text.length
decreasing_by all_goals simp only [List.length_cons, List.length_drop]; omega

/-- Characters of a string's content that have no meaning of their own. -/
def isPlain (quote : Quote) (c : Char) : Bool :=
  c != '\x00' && c != quote.mark && c != '\\' && (quote.triple || c != '\n') &&
    (!quote.fields || (c != '\x7b' && c != '\x7d'))

end Quote

/-- One step of the scanner: the kind of the lexeme, how many characters it
has beyond the first, and the modes behind it. -/
structure Step where
  kind : LexemeKind
  more : Nat
  modes : List Mode
  deriving DecidableEq, Repr

namespace Step

/-- The modes behind a bracket or a colon. -/
def modesBehind (symbol : List Char) : List Mode -> List Mode
  | .code brackets :: outer =>
    match symbol with
    | ['('] | ['['] | ['\x7b'] => .code (brackets + 1) :: outer
    | [')'] | [']'] | ['\x7d'] => .code (brackets - 1) :: outer
    | _ => .code brackets :: outer
  | .field brackets lambdas :: outer =>
    match symbol with
    | ['('] | ['['] | ['\x7b'] => .field (brackets + 1) lambdas :: outer
    | [')'] | [']'] => .field (brackets - 1) lambdas :: outer
    | ['\x7d'] => if brackets = 0 then outer else .field (brackets - 1) lambdas :: outer
    | [':'] =>
      if brackets = 0 then
        if lambdas = 0 then .spec :: outer else .field brackets (lambdas - 1) :: outer
      else .field brackets lambdas :: outer
    | _ => .field brackets lambdas :: outer
  | modes => modes

/-- The modes behind a word: a lambda outside the brackets of a replacement
field claims the next colon for itself. -/
def modesBehindWord (word : List Char) : List Mode -> List Mode
  | .field 0 lambdas :: outer =>
    if word = ['l', 'a', 'm', 'b', 'd', 'a'] then .field 0 (lambdas + 1) :: outer
    else .field 0 lambdas :: outer
  | modes => modes

def isField : List Mode -> Bool
  | .field _ _ :: _ => true
  | _ => false

/-- A step in code or in a replacement field. -/
def ofCode (modes : List Mode) (c : Char) (rest : List Char) : Step :=
  if c == '\n' then ⟨if modes = [.code 0] then .newline else .blank, 0, modes⟩
  else if isBlank c then ⟨.blank, (rest.takeWhile isBlank).length, modes⟩
  else if c == '#' then ⟨.comment, (rest.takeWhile isRemark).length, modes⟩
  else if c == '\\' then
    match rest with
    | '\n' :: _ => ⟨.continuation, 1, modes⟩
    | '\r' :: '\n' :: _ => ⟨.continuation, 2, modes⟩
    | _ => ⟨.stray, 0, modes⟩
  else
    match Quote.open? (c :: rest) with
    | some (quote, size) =>
      if quote.fields || quote.isClosedIn (rest.drop (size - 1)) then
        ⟨.stringOpen, size - 1, .content quote :: modes⟩
      else ⟨.stray, size - 1, modes⟩
    | none =>
      if Text.isIdentifierStart c then
        let tail := rest.takeWhile Text.isIdentifierContinue
        let kind := if reservedWords.contains (String.ofList (c :: tail)) then .keyword else .name
        ⟨kind, tail.length, modesBehindWord (c :: tail) modes⟩
      else
        let (size, kind) := Numeral.literal (c :: rest)
        if 0 < size then ⟨kind, size - 1, modes⟩
        else
          let size := Operator.run c rest
          if 0 < size then ⟨.symbol, size - 1, modesBehind (c :: rest.take (size - 1)) modes⟩
          else if c == '!' && isField modes && (rest.head?.any Char.isLower) then
            ⟨.conversion, 1, modes⟩
          else ⟨.stray, 0, modes⟩

/-- A step in the content of a string. -/
def ofContent (quote : Quote) (outer : List Mode) (c : Char) (rest : List Char) : Step :=
  let modes := .content quote :: outer
  if c == quote.mark then
    if quote.triple then
      if rest.take 2 == [quote.mark, quote.mark] then ⟨.stringClose, 2, outer⟩
      else ⟨.stringText, 0, modes⟩
    else ⟨.stringClose, 0, outer⟩
  else if c == '\\' then
    if quote.raw then ⟨.stringText, quote.rawEscapeRun rest, modes⟩
    else
      match Quote.escapeRun? quote.bytes rest with
      | some size => ⟨.escape, size, modes⟩
      | none => ⟨.stringText, 0, modes⟩
  else if quote.isPlain c then ⟨.stringText, (rest.takeWhile quote.isPlain).length, modes⟩
  else if c == '\n' then ⟨.stray, 0, outer⟩
  else if c == '\x00' then ⟨.stray, 0, modes⟩
  else if rest.head? == some c then ⟨.doubledBrace, 1, modes⟩
  else if c == '\x7b' then ⟨.symbol, 0, .field 0 0 :: modes⟩
  else ⟨.stray, 0, modes⟩

/-- A step in a format specification. -/
def ofSpec (outer : List Mode) (c : Char) (rest : List Char) : Step :=
  let isText (d : Char) : Bool := isRemark d && d != '\x7b' && d != '\x7d'
  if c == '\x7b' then ⟨.symbol, 0, .field 0 0 :: .spec :: outer⟩
  else if c == '\x7d' then ⟨.symbol, 0, outer⟩
  else if c == '\n' then ⟨.blank, 0, .spec :: outer⟩
  else if c == '\x00' then ⟨.stray, 0, .spec :: outer⟩
  else ⟨.formatText, (rest.takeWhile isText).length, .spec :: outer⟩

end Step

/-- The step at a character that is followed by the rest of the text. -/
def step (modes : List Mode) (c : Char) (rest : List Char) : Step :=
  match modes with
  | .content quote :: outer => Step.ofContent quote outer c rest
  | .spec :: outer => Step.ofSpec outer c rest
  | _ => Step.ofCode modes c rest

/-- The lexemes of a text that is read in the given modes. -/
def scan (modes : List Mode) : List Char -> List Lexeme
  | [] => []
  | c :: rest =>
    let next := step modes c rest
    ⟨next.kind, c :: rest.take next.more⟩ :: scan next.modes (rest.drop next.more)
termination_by text => text.length
decreasing_by simp only [List.length_cons, List.length_drop]; omega

/-- The lexemes of a whole source text. -/
def lexemes (text : List Char) : List Lexeme :=
  scan [.code 0] text

/-- Nothing of a text is lost or changed between the lexemes. -/
theorem scan_flatten (modes : List Mode) (text : List Char) :
    (scan modes text).flatMap Lexeme.text = text := by
  fun_induction scan modes text with
  | case1 => rfl
  | case2 modes c rest next ih => simp [ih]

end Source
end ImportCensus
