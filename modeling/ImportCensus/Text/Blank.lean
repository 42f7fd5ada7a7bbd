namespace ImportCensus
namespace Text

/-!
# White space, lines and digits

Three character classes beyond ASCII: white space as it is trimmed from texts,
the characters that end a line, and the decimal digits of all scripts.
-/

/-- White space of all scripts, with the separators among the control characters. -/
def isWhite (c : Char) : Bool :=
  let code := c.toNat
  (9 ≤ code && code ≤ 13) || (28 ≤ code && code ≤ 32) || code == 0x85 || code == 0xa0 ||
    code == 0x1680 || (0x2000 ≤ code && code ≤ 0x200a) || code == 0x2028 || code == 0x2029 ||
    code == 0x202f || code == 0x205f || code == 0x3000

/-- A text without the white space at its end. -/
def trimEnd (text : List Char) : List Char := (text.reverse.dropWhile isWhite).reverse

/-- A text without the white space at both ends. -/
def trim (text : List Char) : List Char := trimEnd (text.dropWhile isWhite)

/-- The characters that end a line. -/
def isLineEnd (c : Char) : Bool :=
  let code := c.toNat
  (10 ≤ code && code ≤ 13) || (28 ≤ code && code ≤ 30) || code == 0x85 || code == 0x2028 ||
    code == 0x2029

/-- The lines of a text, given the characters of the first, last one first.  A
carriage return and the line feed behind it end one line together, and a text that
ends with a line's end has no empty line behind it. -/
def linesFrom (done : List Char) : List Char -> List (List Char)
  | [] => if done.isEmpty then [] else [done.reverse]
  | '\r' :: '\n' :: rest => done.reverse :: linesFrom [] rest
  | c :: rest =>
    if isLineEnd c then done.reverse :: linesFrom [] rest else linesFrom (c :: done) rest

/-- The lines of a text. -/
def lines (text : List Char) : List (List Char) := linesFrom [] text

/-- The zeros of all scripts; the nine other digits follow each of them. -/
def zeros : List Nat :=
  [0x660, 0x6f0, 0x7c0, 0x966, 0x9e6, 0xa66, 0xae6, 0xb66, 0xbe6, 0xc66, 0xce6, 0xd66, 0xde6,
   0xe50, 0xed0, 0xf20, 0x1040, 0x1090, 0x17e0, 0x1810, 0x1946, 0x19d0, 0x1a80, 0x1a90, 0x1b50,
   0x1bb0, 0x1c40, 0x1c50, 0xa620, 0xa8d0, 0xa900, 0xa9d0, 0xa9f0, 0xaa50, 0xabf0, 0xff10,
   0x104a0, 0x10d30, 0x11066, 0x110f0, 0x11136, 0x111d0, 0x112f0, 0x11450, 0x114d0, 0x11650,
   0x116c0, 0x11730, 0x118e0, 0x11950, 0x11c50, 0x11d50, 0x11da0, 0x16a60, 0x16ac0, 0x16b50,
   0x1d7ce, 0x1d7d8, 0x1d7e2, 0x1d7ec, 0x1d7f6, 0x1e140, 0x1e2f0, 0x1e950, 0x1fbf0]

/-- The value of a decimal digit of any script. -/
def digitValue? (c : Char) : Option Nat :=
  zeros.findSome? fun first =>
    if first ≤ c.toNat && c.toNat < first + 10 then some (c.toNat - first) else none

/-- The value of a decimal digit, ASCII digits first. -/
def decimalValue? (c : Char) : Option Nat :=
  if c.isDigit then some (c.toNat - '0'.toNat) else digitValue? c

end Text
end ImportCensus
