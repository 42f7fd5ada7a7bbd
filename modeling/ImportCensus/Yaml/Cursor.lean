namespace ImportCensus
namespace Yaml

/-!
# Places in a document

A mark is a place in the text of a document.  A cursor is a mark with the text
behind it; reading beyond the end finds null characters, which no document holds.
-/

/-- The characters before a place, and its line and column, all from zero. -/
structure Mark where
  index : Nat
  line : Nat
  column : Nat
  deriving DecidableEq, Repr, Inhabited

structure Cursor where
  rest : List Char
  mark : Mark
  deriving Repr, Inhabited

/-- What is found beyond the end of a document. -/
def endMark : Char := '\x00'

/-- The byte order mark, which takes no room. -/
def orderMark : Char := '\ufeff'

/-- The characters that end a line. -/
def isBreak (c : Char) : Bool :=
  c == '\n' || c == '\r' || c == '\x85' || c == '\u2028' || c == '\u2029'

/-- The line ends that are read as line feeds. -/
def isPlainBreak (c : Char) : Bool := c == '\n' || c == '\r' || c == '\x85'

/-- The end of a line or of the document. -/
def isEnd (c : Char) : Bool := c == endMark || isPlainBreak c

/-- White space, or the end of a line or of the document. -/
def isSpaceOrEnd (c : Char) : Bool := c == ' ' || c == '\t' || isEnd c

/-- A blank, or any end of a line or of the document. -/
def isBlankOrBreak (c : Char) : Bool := c == ' ' || c == endMark || isBreak c

namespace Cursor

/-- The cursor in front of a text. -/
def ofText (text : List Char) : Cursor := ⟨text, ⟨0, 0, 0⟩⟩

/-- The character so far ahead. -/
def peek (cursor : Cursor) (ahead : Nat) : Char := cursor.rest.getD ahead endMark

/-- The next character. -/
def next (cursor : Cursor) : Char := cursor.rest.headD endMark

/-- The place behind a character, given what follows it. -/
def markBehind (mark : Mark) (c : Char) (rest : List Char) : Mark :=
  if c = '\n' || c = '\x85' || c = '\u2028' || c = '\u2029' ||
      (c = '\r' && rest.head? != some '\n') then
    ⟨mark.index + 1, mark.line + 1, 0⟩
  else if c = orderMark then { mark with index := mark.index + 1 }
  else { mark with index := mark.index + 1, column := mark.column + 1 }

/-- The cursor behind so many characters. -/
def advance : Nat -> Cursor -> Cursor
  | 0, cursor => cursor
  | _, ⟨[], mark⟩ => ⟨[], mark⟩
  | count + 1, ⟨c :: rest, mark⟩ => advance count ⟨rest, markBehind mark c rest⟩

/-- The characters ahead as long as they are of a class. -/
def ahead (cursor : Cursor) (accepts : Char -> Bool) : List Char := cursor.rest.takeWhile accepts

/-- The cursor behind the characters of a class. -/
def skip (cursor : Cursor) (accepts : Char -> Bool) : Cursor :=
  cursor.advance (cursor.ahead accepts).length
where
  advance (cursor : Cursor) (count : Nat) : Cursor := Cursor.advance count cursor

/-- Whether the next characters are a given row. -/
def startsWith (cursor : Cursor) (word : List Char) : Bool := word.isPrefixOf cursor.rest

/-- A line end ahead, as it is read, and the cursor behind it. -/
def lineBreak? (cursor : Cursor) : Option (Char × Cursor) :=
  let c := cursor.next
  if cursor.startsWith ['\r', '\n'] then some ('\n', Cursor.advance 2 cursor)
  else if isPlainBreak c then some ('\n', Cursor.advance 1 cursor)
  else if isBreak c then some (c, Cursor.advance 1 cursor)
  else none

/-- Whether a mark between documents stands here: three equal characters at the
beginning of a line, with nothing directly behind them. -/
def atSeparator (cursor : Cursor) (word : List Char) : Bool :=
  cursor.mark.column == 0 && cursor.startsWith word && isSpaceOrEnd (cursor.peek 3)

def documentStart : List Char := ['-', '-', '-']

def documentEnd : List Char := ['.', '.', '.']

/-- Whether a document begins or ends here, wherever in the line this is. -/
def atDocumentEdge (cursor : Cursor) : Bool :=
  (cursor.startsWith documentStart || cursor.startsWith documentEnd) &&
    isSpaceOrEnd (cursor.peek 3)

end Cursor

end Yaml
end ImportCensus
