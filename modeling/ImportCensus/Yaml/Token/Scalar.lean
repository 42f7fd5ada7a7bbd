import ImportCensus.Yaml.Fault
import ImportCensus.Yaml.Token

namespace ImportCensus
namespace Yaml

/-!
# Scalars

The three ways to write a scalar: plain, in quotes, and as an indented block.
Lines are folded: one line end within a scalar reads as a blank, and of several
all but the first are kept.  Loops run at most once for each character ahead.
-/

/-- The line ends ahead, with the blanks in front of each of them skipped. -/
def lineBreaks (isBlank : Char -> Bool) (limit : Nat) (cursor : Cursor) : List Char × Cursor :=
  let cursor := cursor.skip isBlank
  match limit, cursor.lineBreak? with
  | limit + 1, some (c, behind) =>
    let (others, stop) := lineBreaks isBlank limit behind
    (c :: others, stop)
  | _, _ => ([], cursor)

/-- What a line end with more line ends behind it folds to. -/
def folded (first : Char) (others : List Char) : List Char :=
  if first ≠ '\n' then first :: others
  else if others.isEmpty then [' '] else others

/-! ## Scalars in quotes -/

def isSpaceOrTab (c : Char) : Bool := c == ' ' || c == '\t'

/-- The characters between quotes that stand for themselves. -/
def isQuotable (c : Char) : Bool :=
  !(c == ' ' || c == '\t' || c == '\'' || c == '"' || c == '\\' || c == endMark || isBreak c)

/-- The character of a short escape. -/
def shortEscape? (c : Char) : Option Char :=
  match c with
  | '0' => some '\x00'
  | 'a' => some '\x07'
  | 'b' => some '\x08'
  | 't' => some '\t'
  | '\t' => some '\t'
  | 'n' => some '\n'
  | 'v' => some '\x0b'
  | 'f' => some '\x0c'
  | 'r' => some '\r'
  | 'e' => some '\x1b'
  | ' ' => some ' '
  | '"' => some '"'
  | '/' => some '/'
  | '\\' => some '\\'
  | 'N' => some '\x85'
  | '_' => some '\xa0'
  | 'L' => some '\u2028'
  | 'P' => some '\u2029'
  | _ => none

/-- How many digits follow the letter of a numeric escape. -/
def escapeDigits? (c : Char) : Option Nat :=
  match c with
  | 'x' => some 2
  | 'u' => some 4
  | 'U' => some 8
  | _ => none

/-- The value of a hexadecimal digit. -/
def hexDigit? (c : Char) : Option Nat :=
  if c.isDigit then some (c.toNat - '0'.toNat)
  else if 'a' ≤ c && c ≤ 'f' then some (c.toNat - 'a'.toNat + 10)
  else if 'A' ≤ c && c ≤ 'F' then some (c.toNat - 'A'.toNat + 10)
  else none

/-- The number of some hexadecimal digits; the first character that is none is
the fault. -/
def hexNumber (count : Nat) (cursor : Cursor) : Except Char Nat :=
  (List.range count).foldlM (fun value ahead =>
    match hexDigit? (cursor.peek ahead) with
    | some digit => .ok (value * 16 + digit)
    | none => .error (cursor.peek ahead)) 0

/-- The character of a code, and the cursor behind it.  Two halves of a pair make
one character; a half without the other is replaced. -/
def charOfCode (code : Nat) (cursor : Cursor) : Char × Cursor :=
  if 0xd800 ≤ code && code < 0xe000 then
    let low := Cursor.advance 2 cursor
    match cursor.startsWith ['\\', 'u'], hexNumber 4 low with
    | true, .ok second =>
      if code < 0xdc00 && 0xdc00 ≤ second && second < 0xe000 then
        (Char.ofNat (0x10000 + (code - 0xd800) * 0x400 + (second - 0xdc00)),
          Cursor.advance 4 low)
      else ('\ufffd', cursor)
    | _, _ => ('\ufffd', cursor)
  else (Char.ofNat code, cursor)

/-- How a line ends within quotes: no line of a scalar may begin or end a document. -/
def quotedBreaks (start : Mark) (limit : Nat) (cursor : Cursor) :
    Except Fault (List Char × Cursor) :=
  if cursor.atDocumentEdge then .error (.inside .quotedScalar start .documentEdge cursor.mark)
  else
    let cursor := cursor.skip isSpaceOrTab
    match limit, cursor.lineBreak? with
    | limit + 1, some (c, behind) => do
      let (others, stop) ← quotedBreaks start limit behind
      return (c :: others, stop)
    | _, _ => .ok ([], cursor)

/-- What the escape behind a backslash stands for. -/
def escaped (start : Mark) (cursor : Cursor) : Except Fault (List Char × Cursor) :=
  let c := cursor.next
  let behind := Cursor.advance 1 cursor
  match shortEscape? c, escapeDigits? c, cursor.lineBreak? with
  | some meant, _, _ => .ok ([meant], behind)
  | _, some count, _ =>
    match hexNumber count behind with
    | .error found =>
      .error (.inside .doubleQuoted start (.expected
        ("escape sequence of " ++ toString count ++ " hexdecimal numbers") found) behind.mark)
    | .ok code =>
      if 0x110000 ≤ code then .error (.value (.noCharacter code))
      else
        let (meant, stop) := charOfCode code (Cursor.advance count behind)
        .ok ([meant], stop)
  | _, _, some (_, behind) => quotedBreaks start behind.rest.length behind
  | _, _, none => .error (.inside .doubleQuoted start (.unknownEscape c) cursor.mark)

/-- The characters between quotes up to white space or the end, given those
before, last one first. -/
def quotedRun (double : Bool) (start : Mark) (limit : Nat) (done : List Char) (cursor : Cursor) :
    Except Fault (List Char × Cursor) :=
  let run := cursor.ahead isQuotable
  let done := run.reverse ++ done
  let cursor := Cursor.advance run.length cursor
  let c := cursor.next
  match limit with
  | 0 => .ok (done, cursor)
  | limit + 1 =>
    if !double && cursor.startsWith ['\'', '\''] then
      quotedRun double start limit ('\'' :: done) (Cursor.advance 2 cursor)
    else if (double && c == '\'') || (!double && (c == '"' || c == '\\')) then
      quotedRun double start limit (c :: done) (Cursor.advance 1 cursor)
    else if double && c == '\\' then
      match escaped start (Cursor.advance 1 cursor) with
      | .error fault => .error fault
      | .ok (meant, behind) => quotedRun double start limit (meant.reverse ++ done) behind
    else .ok (done, cursor)

/-- The white space between quotes ahead; line ends in it are folded. -/
def quotedSpace (start : Mark) (cursor : Cursor) : Except Fault (List Char × Cursor) :=
  let space := cursor.ahead isSpaceOrTab
  let cursor := Cursor.advance space.length cursor
  if cursor.next = endMark then .error (.inside .quotedScalar start .endOfText cursor.mark)
  else match cursor.lineBreak? with
    | none => .ok (space, cursor)
    | some (first, behind) => do
      let (others, stop) ← quotedBreaks start behind.rest.length behind
      return (folded first others, stop)

/-- The quote that a scalar stands in. -/
def quote (double : Bool) : Char := if double then '"' else '\''

/-- The rest of a scalar in quotes, given what comes before, last character first. -/
def quotedRest (double : Bool) (start : Mark) (limit : Nat) (done : List Char)
    (cursor : Cursor) : Except Fault (List Char × Cursor) := do
  let (done, cursor) ← quotedRun double start cursor.rest.length done cursor
  if cursor.next = quote double then
    return (done.reverse, Cursor.advance 1 cursor)
  else match limit with
    | 0 => .error (.inside .quotedScalar start .endOfText cursor.mark)
    | limit + 1 =>
      let (space, cursor) ← quotedSpace start cursor
      quotedRest double start limit (space.reverse ++ done) cursor

/-- The scalar in quotes at a cursor, and the cursor behind it. -/
def quotedScalar (double : Bool) (cursor : Cursor) : Except Fault (Token × Cursor) := do
  let inner := Cursor.advance 1 cursor
  let (text, stop) ← quotedRest double cursor.mark inner.rest.length [] inner
  return (⟨.scalar (String.ofList text) .quoted, cursor.mark, stop.mark⟩, stop)

/-! ## Plain scalars -/

/-- What decides how far a plain scalar goes. -/
structure PlainContext where
  /-- Whether the scalar stands between brackets. -/
  inFlow : Bool
  /-- The indentation that a further line needs. -/
  indent : Int
  /-- Whether the older version of the format is in force. -/
  isOld : Bool

/-- Whether a plain scalar ends at a character, given the one behind it. -/
def PlainContext.ends (context : PlainContext) (c next : Char) : Bool :=
  if c == ':' && !isSpaceOrEnd next then false
  else if c == '?' && !context.isOld then false
  else isSpaceOrEnd c || c == ':' && !context.inFlow ||
    context.inFlow && (c == ',' || c == ':' || c == '?' || c == '[' || c == ']' ||
      c == '\x7b' || c == '\x7d')

/-- The characters of a plain scalar up to where it ends or is interrupted. -/
def PlainContext.run (context : PlainContext) : List Char -> List Char
  | [] => []
  | c :: rest => if context.ends c (rest.headD endMark) then [] else c :: context.run rest

/-- The white space behind a part of a plain scalar. -/
structure PlainSpace where
  /-- What it folds to; nothing if the scalar ends here. -/
  text : List Char
  /-- Whether it holds the end of a line. -/
  lineEnded : Bool
  stop : Cursor

/-- The further line ends in a plain scalar; none if a document ends among them. -/
def plainBreaks (limit : Nat) (done : List Char) (cursor : Cursor) :
    Option (List Char) × Cursor :=
  let cursor := cursor.skip fun c => c == ' '
  match limit, cursor.lineBreak? with
  | limit + 1, some (c, behind) =>
    if behind.atDocumentEdge then (none, behind) else plainBreaks limit (c :: done) behind
  | _, _ => (some done.reverse, cursor)

def plainSpace (cursor : Cursor) : PlainSpace :=
  let blanks := cursor.ahead fun c => c == ' '
  let cursor := Cursor.advance blanks.length cursor
  match cursor.lineBreak? with
  | none => ⟨blanks, false, cursor⟩
  | some (first, behind) =>
    if behind.atDocumentEdge then ⟨[], true, behind⟩
    else match plainBreaks behind.rest.length [] behind with
      | (none, stop) => ⟨[], true, stop⟩
      | (some others, stop) => ⟨folded first others, true, stop⟩

/-- A plain scalar that has been read so far. -/
structure PlainPart where
  /-- Its characters, last one first. -/
  done : List Char
  stop : Mark
  /-- Whether the last white space behind it held the end of a line. -/
  lineEnded : Bool
  cursor : Cursor

/-- The rest of a plain scalar, given what comes before and the white space
between the two. -/
def plainRest (context : PlainContext) (limit : Nat) (part : PlainPart) (space : List Char) :
    PlainPart :=
  let run := context.run part.cursor.rest
  if part.cursor.next == '#' || run.isEmpty then part
  else
    let behind := Cursor.advance run.length part.cursor
    let found := plainSpace behind
    let whole : PlainPart :=
      ⟨run.reverse ++ (space.reverse ++ part.done), behind.mark, found.lineEnded, found.stop⟩
    match limit with
    | 0 => whole
    | limit + 1 =>
      if found.text.isEmpty || found.stop.next == '#' ||
          (!context.inFlow && decide ((found.stop.mark.column : Int) < context.indent)) then whole
      else plainRest context limit whole found.text

/-- The plain scalar at a cursor, whether a line ended behind it, and the cursor
behind that. -/
def plainScalar (context : PlainContext) (cursor : Cursor) : Token × Bool × Cursor :=
  let part := plainRest context cursor.rest.length ⟨[], cursor.mark, false, cursor⟩ []
  (⟨.scalar (String.ofList part.done.reverse) .plain, cursor.mark, part.stop⟩, part.lineEnded,
    part.cursor)

/-! ## Block scalars -/

/-- What happens to the line ends at the end of a block. -/
inductive Chomping where
  | clip
  | keep
  | strip
  deriving DecidableEq, Repr

/-- The chomping that a mark asks for. -/
def chomping? (c : Char) : Option Chomping :=
  if c = '+' then some .keep else if c = '-' then some .strip else none

/-- The indentation that a digit of a header asks for, and the cursor behind it. -/
def indentDigit (start : Mark) (cursor : Cursor) : Except Fault (Option Nat × Cursor) :=
  let c := cursor.next
  if c = '0' then .error (.inside .blockScalar start .noIndentation cursor.mark)
  else if c.isDigit then .ok (some (c.toNat - '0'.toNat), Cursor.advance 1 cursor)
  else .ok (none, cursor)

/-- What the header of a block says. -/
structure BlockHeader where
  chomping : Chomping
  indent : Option Nat

/-- The header of a block up to the end of its line. -/
def blockHeader (start : Mark) (cursor : Cursor) : Except Fault (BlockHeader × Cursor) := do
  let (header, cursor) ← match chomping? cursor.next with
    | some chomping =>
      let (indent, cursor) ← indentDigit start (Cursor.advance 1 cursor)
      pure (⟨chomping, indent⟩, cursor)
    | none =>
      let (indent, cursor) ← indentDigit start cursor
      match indent, chomping? cursor.next with
      | some indent, some chomping => pure (⟨chomping, some indent⟩, Cursor.advance 1 cursor)
      | indent, _ => pure (⟨.clip, indent⟩, cursor)
  if !isBlankOrBreak cursor.next then
    .error (.inside .blockScalar start
      (.expected "chomping or indentation indicators" cursor.next) cursor.mark)
  let cursor := cursor.skip fun c => c == ' '
  let cursor := if cursor.next == '#' then cursor.skip fun c => !isEnd c else cursor
  if cursor.next ≠ endMark && !isBreak cursor.next then
    .error (.inside .blockScalar start (.expected "a comment or a line break" cursor.next)
      cursor.mark)
  return (header, match cursor.lineBreak? with
    | some (_, behind) => behind
    | none => cursor)

/-- The empty lines in front of a block: their ends, the column of the first of
them, the greatest column reached, the end of the last one, and the cursor behind. -/
structure BlockIndent where
  breaks : List Char
  first : Option Nat
  greatest : Nat
  stop : Mark
  cursor : Cursor

/-- Find the indentation of a block, given what has been found so far. -/
def blockIndent (limit : Nat) (found : BlockIndent) : BlockIndent :=
  match limit with
  | 0 => found
  | limit + 1 =>
    match found.cursor.lineBreak? with
    | some (c, behind) =>
      blockIndent limit
        ⟨found.breaks ++ [c], found.first.or (some found.cursor.mark.column), found.greatest,
          behind.mark, behind⟩
    | none =>
      if found.cursor.next == ' ' then
        let behind := Cursor.advance 1 found.cursor
        blockIndent limit
          { found with greatest := max found.greatest behind.mark.column, cursor := behind }
      else found

/-- Blanks ahead, but not beyond a column. -/
def skipIndent (indent : Nat) (cursor : Cursor) : Cursor :=
  let blanks := (cursor.ahead fun c => c == ' ').length
  Cursor.advance (min blanks (indent - cursor.mark.column)) cursor

/-- The empty lines within a block, the end of the last one, and the cursor at
the next line. -/
def blockBreaks (indent : Nat) (limit : Nat) (stop : Mark) (cursor : Cursor) :
    List Char × Mark × Cursor :=
  let cursor := skipIndent indent cursor
  match limit, cursor.lineBreak? with
  | limit + 1, some (c, behind) =>
    let (others, last) := blockBreaks indent limit behind.mark behind
    (c :: others, last)
  | _, _ => ([], stop, cursor)

/-- What a block needs to know about itself. -/
structure BlockContext where
  isFolded : Bool
  indent : Nat
  /-- Whether the block may begin at the first column, where a document may end. -/
  atMargin : Bool

/-- The lines of a block. -/
structure BlockLines where
  /-- The characters so far, last one first. -/
  done : List Char
  /-- The end of the last line. -/
  lineBreak : List Char
  /-- The ends of the empty lines behind it. -/
  breaks : List Char
  stop : Mark
  cursor : Cursor

def blockLines (context : BlockContext) (limit : Nat) (lines : BlockLines) : BlockLines :=
  let cursor := lines.cursor
  match limit with
  | 0 => lines
  | limit + 1 =>
    if cursor.mark.column ≠ context.indent || cursor.next == endMark then lines
    else
      let line := cursor.ahead fun c => !isEnd c
      let ended := Cursor.advance line.length cursor
      let (lineBreak, behind) := match ended.lineBreak? with
        | some (c, behind) => ([c], behind)
        | none => ([], ended)
      let (breaks, stop, next) := blockBreaks context.indent behind.rest.length behind.mark behind
      let done := line.reverse ++ (lines.breaks.reverse ++ lines.done)
      let goesOn := next.mark.column = context.indent && next.next != endMark &&
        !(context.atMargin && (next.atSeparator Cursor.documentStart ||
          next.atSeparator Cursor.documentEnd))
      if !goesOn then ⟨done, lineBreak, breaks, stop, next⟩
      else
        let isFolded := context.isFolded && lineBreak == ['\n'] &&
          !isSpaceOrTab cursor.next && !isSpaceOrTab next.next
        let between := if isFolded then (if breaks.isEmpty then [' '] else []) else lineBreak
        blockLines context limit ⟨between.reverse ++ done, [], breaks, stop, next⟩

/-- The block scalar at a cursor, with the indentation of what is around it. -/
def blockScalar (isFolded : Bool) (around : Int) (cursor : Cursor) :
    Except Fault (Token × Cursor) := do
  let (header, body) ← blockHeader cursor.mark (Cursor.advance 1 cursor)
  let least := (around + 1).toNat
  let lines ← match header.indent with
    | none =>
      let found := blockIndent body.rest.length ⟨[], none, 0, body.mark, body⟩
      if found.first.any fun first => 0 < first && first < found.greatest then
        .error (.marked (some (.unevenBlockScalar, some found.cursor.mark)) none)
      let context : BlockContext := ⟨isFolded, max least found.greatest, least = 0⟩
      pure (blockLines context body.rest.length
        ⟨[], [], found.breaks, found.stop, found.cursor⟩)
    | some indent =>
      let indent := max least 1 + indent - 1
      let (breaks, stop, next) := blockBreaks indent body.rest.length body.mark body
      pure (blockLines ⟨isFolded, indent, false⟩ body.rest.length ⟨[], [], breaks, stop, next⟩)
  let ending := match header.chomping with
    | .strip => []
    | .clip => lines.lineBreak
    | .keep => lines.lineBreak ++ lines.breaks
  return (⟨.scalar (String.ofList (lines.done.reverse ++ ending)) .block, cursor.mark, lines.stop⟩,
    lines.cursor)

end Yaml
end ImportCensus
