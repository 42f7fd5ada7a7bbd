import ImportCensus.Text.Utf8
import ImportCensus.Yaml.Fault
import ImportCensus.Yaml.Token

namespace ImportCensus
namespace Yaml

/-!
# Labels and directives

What stands around nodes: aliases and anchors with their names, tags with their
handles, and the directives in front of a document.
-/

/-- Whether a character may be part of the name of an anchor. -/
def isAnchorChar (c : Char) : Bool :=
  !(c == ',' || c == '[' || c == ']' || c == '\x7b' || c == '\x7d') &&
    (('!' ≤ c && c ≤ '~') || ('\xa0' ≤ c && c != orderMark && c.toNat != 0xfffe &&
      c.toNat != 0xffff))

/-- What may follow the name of an anchor. -/
def endsAnchor (c : Char) : Bool :=
  isBlankOrBreak c || "\t?:,[]%@\x60\x7b\x7d".toList.contains c

def wordCharacter : String := "alphabetic or numeric character"

/-- The alias or the anchor at a cursor. -/
def label (isAlias : Bool) (cursor : Cursor) : Except Fault (Token × Cursor) :=
  let activity : Activity := if isAlias then .alias else .anchor
  let inner := Cursor.advance 1 cursor
  let name := inner.ahead isAnchorChar
  let stop := Cursor.advance name.length inner
  if name.isEmpty || !endsAnchor stop.next then
    .error (.inside activity cursor.mark (.expected wordCharacter stop.next) stop.mark)
  else
    let name := String.ofList name
    .ok (⟨if isAlias then .alias name else .anchor name, cursor.mark, stop.mark⟩, stop)

/-! ## Tags -/

def isLetterOrDigit (c : Char) : Bool := c.isAlphanum

/-- Whether a character may be part of the address in a tag. -/
def isAddressChar (isOld : Bool) (c : Char) : Bool :=
  isLetterOrDigit c || "-;/?:@&=+$,_.!~*'()[]".toList.contains c || (!isOld && c == '#')

/-- Bytes given by percent signs and digits, and the cursor behind them. -/
def addressBytes (partName : String) (start : Mark) (limit : Nat) (cursor : Cursor) :
    Except Fault (List Nat × Cursor) :=
  match limit with
  | 0 => .ok ([], cursor)
  | limit + 1 =>
    if cursor.next != '%' then .ok ([], cursor)
    else
      let digits := Cursor.advance 1 cursor
      match digits.peek 0, digits.peek 1 with
      | first, second =>
        if !first.isDigit && !('a' ≤ first.toLower && first.toLower ≤ 'f') then
          .error (.inside (.tagPart partName) start
            (.expected "URI escape sequence of 2 hexdecimal numbers" first) digits.mark)
        else if !second.isDigit && !('a' ≤ second.toLower && second.toLower ≤ 'f') then
          .error (.inside (.tagPart partName) start
            (.expected "URI escape sequence of 2 hexdecimal numbers" second) digits.mark)
        else do
          let value (c : Char) : Nat :=
            if c.isDigit then c.toNat - '0'.toNat else c.toLower.toNat - 'a'.toNat + 10
          let (others, stop) ← addressBytes partName start limit (Cursor.advance 2 digits)
          return ((value first * 16 + value second) :: others, stop)

/-- The address in a tag, given what comes before, last character first. -/
def addressRest (isOld : Bool) (partName : String) (start : Mark) (limit : Nat)
    (done : List Char) (cursor : Cursor) : Except Fault (List Char × Cursor) := do
  let run := cursor.ahead (isAddressChar isOld)
  let done := run.reverse ++ done
  let cursor := Cursor.advance run.length cursor
  match limit with
  | 0 => return (done.reverse, cursor)
  | limit + 1 =>
    if cursor.next != '%' then return (done.reverse, cursor)
    else
      let (bytes, stop) ← addressBytes partName start cursor.rest.length cursor
      match Text.decode bytes with
      | .ok text => addressRest isOld partName start limit (text.reverse ++ done) stop
      | .error fault =>
        .error (.inside (.tagPart partName) start (.badBytes fault.message) cursor.mark)

/-- The address in a tag, which must not be empty. -/
def address (isOld : Bool) (partName : String) (start : Mark) (cursor : Cursor) :
    Except Fault (String × Cursor) := do
  let (text, stop) ← addressRest isOld partName start cursor.rest.length [] cursor
  if text.isEmpty then
    .error (.inside (.tagAddress partName) start (.expected "URI" stop.next) stop.mark)
  return (String.ofList text, stop)

/-- The handle of a tag: a word between exclamation marks. -/
def handle (partName : String) (start : Mark) (cursor : Cursor) :
    Except Fault (String × Cursor) :=
  if cursor.next != '!' then
    .error (.inside (.tagPart partName) start (.expected "'!'" cursor.next) cursor.mark)
  else
    let inner := Cursor.advance 1 cursor
    if inner.next == ' ' then .ok ("!", inner)
    else
      let word := inner.ahead fun c => isLetterOrDigit c || c == '-' || c == '_'
      let stop := Cursor.advance word.length inner
      if stop.next != '!' then
        .error (.inside (.tagPart partName) start (.expected "'!'" stop.next) stop.mark)
      else .ok (String.ofList ('!' :: word ++ ['!']), Cursor.advance 1 stop)

/-- The tag at a cursor. -/
def tag (isOld : Bool) (cursor : Cursor) : Except Fault (Token × Cursor) := do
  let start := cursor.mark
  let isDouble := cursor.peek 1 == '!'
  let short := if isDouble then "!!" else "!"
  let inner := if isDouble then Cursor.advance 1 cursor else cursor
  let c := inner.peek 1
  let (handle?, suffix, stop) ←
    if c == '<' then do
      let (suffix, stop) ← address isOld "tag" start (Cursor.advance 2 inner)
      if stop.next != '>' then
        .error (.inside .tag start (.expected "'>'" stop.next) stop.mark)
      pure (none, suffix, Cursor.advance 1 stop)
    else if isSpaceOrEnd c then pure (none, short, Cursor.advance 1 inner)
    else do
      let behind := Cursor.advance 1 inner
      let word := behind.ahead fun c => !isBlankOrBreak c
      if word.contains '!' then
        let (found, stop) ← handle "tag" start inner
        let (suffix, stop) ← address isOld "tag" start stop
        pure (some found, suffix, stop)
      else
        let (suffix, stop) ← address isOld "tag" start behind
        pure (some short, suffix, stop)
  if !isBlankOrBreak stop.next then
    .error (.inside .tag start (.expected "' '" stop.next) stop.mark)
  return (⟨.tag handle? suffix, start, stop.mark⟩, stop)

/-! ## Directives -/

/-- A number of a version. -/
def versionNumber (start : Mark) (cursor : Cursor) : Except Fault (Nat × Cursor) :=
  let digits := cursor.ahead Char.isDigit
  if digits.isEmpty then
    .error (.inside .directive start (.expected "a digit" cursor.next) cursor.mark)
  else if Number.mostDigits < digits.length then .error (.value (.manyDigits digits.length))
  else
    .ok (digits.foldl (fun value c => value * 10 + (c.toNat - '0'.toNat)) 0,
      Cursor.advance digits.length cursor)

def isBlank (c : Char) : Bool := c == ' '

/-- The version that a directive declares. -/
def versionDirective (start : Mark) (cursor : Cursor) : Except Fault (Directive × Cursor) := do
  let (major, stop) ← versionNumber start (cursor.skip isBlank)
  if stop.next != '.' then
    .error (.inside .directive start (.expected "a digit or '.'" stop.next) stop.mark)
  let (minor, stop) ← versionNumber start (Cursor.advance 1 stop)
  if !isBlankOrBreak stop.next then
    .error (.inside .directive start (.expected "a digit or ' '" stop.next) stop.mark)
  return (.version major minor, stop)

/-- The handle that a directive declares, with what it stands for. -/
def tagDirective (isOld : Bool) (start : Mark) (cursor : Cursor) :
    Except Fault (Directive × Cursor) := do
  let (found, stop) ← handle "directive" start (cursor.skip isBlank)
  if stop.next != ' ' then
    .error (.inside .directive start (.expected "' '" stop.next) stop.mark)
  let (meant, stop) ← address isOld "directive" start (stop.skip isBlank)
  if !isBlankOrBreak stop.next then
    .error (.inside .directive start (.expected "' '" stop.next) stop.mark)
  return (.tag found meant, stop)

/-- The directive at a cursor, up to the end of its line. -/
def directive (isOld : Bool) (cursor : Cursor) : Except Fault (Token × Cursor) := do
  let start := cursor.mark
  let inner := Cursor.advance 1 cursor
  let word := inner.ahead fun c =>
    isLetterOrDigit c || c == '-' || c == '_' || c == ':' || c == '.'
  let behind := Cursor.advance word.length inner
  if word.isEmpty || !isBlankOrBreak behind.next then
    .error (.inside .directive start (.expected wordCharacter behind.next) behind.mark)
  let (found, stop) ←
    if word = "YAML".toList then versionDirective start behind
    else if word = "TAG".toList then tagDirective isOld start behind
    else pure (.unknown, behind)
  let last := if found = .unknown then stop.skip fun c => !isEnd c else stop
  let last := last.skip isBlank
  let last := if last.next == '#' then last.skip fun c => !isEnd c else last
  if last.next != endMark && !isBreak last.next then
    .error (.inside .directive start (.expected "a comment or a line break" last.next) last.mark)
  return (⟨.directive found, start, stop.mark⟩, match last.lineBreak? with
    | some (_, next) => next
    | none => last)

end Yaml
end ImportCensus
