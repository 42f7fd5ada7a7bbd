import ImportCensus.Text.Identifier
import ImportCensus.Text.PrintableRanges

namespace ImportCensus
namespace Text

/-!
# Quoted texts

A text in quotes, as it is shown in messages: in single quotes, unless it holds
single quotes and no double ones.  The quote and the backslash are escaped, line
feed, carriage return and tab have short escapes, and other characters that are
not printable are shown by their codes.
-/

def isPrintable (c : Char) : Bool :=
  if c.toNat < 128 then 32 ≤ c.toNat && c.toNat < 127 else inRanges printableRanges c.toNat

/-- A number in a fixed count of hexadecimal digits. -/
def hexChars (width n : Nat) : List Char :=
  let digits := Nat.toDigits 16 n
  List.replicate (width - digits.length) '0' ++ digits

/-- How a character is shown between the given quotes. -/
def quotedChar (mark c : Char) : List Char :=
  if c = mark || c = '\\' then ['\\', c]
  else if c = '\n' then ['\\', 'n']
  else if c = '\r' then ['\\', 'r']
  else if c = '\t' then ['\\', 't']
  else if isPrintable c then [c]
  else if c.toNat < 0x100 then '\\' :: 'x' :: hexChars 2 c.toNat
  else if c.toNat < 0x10000 then '\\' :: 'u' :: hexChars 4 c.toNat
  else '\\' :: 'U' :: hexChars 8 c.toNat

/-- The quotes that a text is shown in. -/
def quoteMark (text : List Char) : Char :=
  if text.contains '\'' && !text.contains '"' then '"' else '\''

/-- A text in quotes. -/
def quotedChars (text : List Char) : List Char :=
  let mark := quoteMark text
  mark :: (text.flatMap (quotedChar mark) ++ [mark])

def quoted (text : String) : String := String.ofList (quotedChars text.toList)

end Text
end ImportCensus
