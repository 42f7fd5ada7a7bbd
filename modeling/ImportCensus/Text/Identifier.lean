import ImportCensus.Text.IdentifierRanges

namespace ImportCensus
namespace Text

/-!
# Characters of identifiers

An identifier begins with a letter or an underscore and goes on with letters,
digits, marks and joining punctuation.  ASCII characters are decided by a rule,
all others by the tables of `IdentifierRanges`.
-/

/-- Membership of a code point in a table of closed ranges. -/
def inRanges (table : List (Nat × Nat)) (code : Nat) : Bool :=
  table.any fun range => decide (range.1 ≤ code) && decide (code ≤ range.2)

/-- The characters that may begin an identifier. -/
def isIdentifierStart (c : Char) : Bool :=
  if c.toNat < 128 then c.isAlpha || c == '_'
  else inRanges identifierStartRanges c.toNat

/-- The characters that may follow the first one of an identifier. -/
def isIdentifierContinue (c : Char) : Bool :=
  isIdentifierStart c ||
    (if c.toNat < 128 then c.isDigit else inRanges identifierExtraRanges c.toNat)

theorem isIdentifierContinue_of_start {c : Char} (h : isIdentifierStart c = true) :
    isIdentifierContinue c = true := by
  simp [isIdentifierContinue, h]

end Text
end ImportCensus
