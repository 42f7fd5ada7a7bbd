namespace ImportCensus
namespace Text

/-!
# Positions in a text

A position counts the characters before it, the line feeds before it, and the
UTF-8 bytes since the last of these.  Rows and columns start at zero.  Only a
line feed ends a row.
-/

/-- A place between two characters of a text. -/
structure Position where
  offset : Nat
  row : Nat
  column : Nat
  deriving DecidableEq, Repr, Inhabited

namespace Position

/-- The place before the first character. -/
def origin : Position := ⟨0, 0, 0⟩

/-- The place behind one more character. -/
def advance (p : Position) (c : Char) : Position :=
  if c = '\n' then ⟨p.offset + 1, p.row + 1, 0⟩
  else ⟨p.offset + 1, p.row, p.column + c.utf8Size⟩

/-- The place behind a run of characters. -/
def advanceAll (p : Position) (text : List Char) : Position :=
  text.foldl advance p

@[simp] theorem advanceAll_nil (p : Position) : p.advanceAll [] = p := rfl

theorem advanceAll_append (p : Position) (first second : List Char) :
    p.advanceAll (first ++ second) = (p.advanceAll first).advanceAll second := by
  simp [advanceAll]

@[simp] theorem offset_advance (p : Position) (c : Char) :
    (p.advance c).offset = p.offset + 1 := by
  unfold advance; split <;> rfl

theorem offset_advanceAll (p : Position) (text : List Char) :
    (p.advanceAll text).offset = p.offset + text.length := by
  induction text generalizing p with
  | nil => rfl
  | cons c rest ih =>
    rw [show p.advanceAll (c :: rest) = (p.advance c).advanceAll rest from rfl, ih]
    simp; omega

end Position

/-- The stretch of a text between two places. -/
structure Span where
  start : Position
  stop : Position
  deriving DecidableEq, Repr, Inhabited

/-- The characters of a text that a span covers. -/
def Span.slice (span : Span) (text : List Char) : List Char :=
  (text.drop span.start.offset).take (span.stop.offset - span.start.offset)

end Text
end ImportCensus
