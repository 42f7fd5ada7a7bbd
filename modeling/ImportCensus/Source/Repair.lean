import ImportCensus.Source.Statement

namespace ImportCensus
namespace Source

/-!
# Repairs

A broken text is reported where its cheapest repair begins.  A repair changes
the tokens from the broken line on.  It drops runs of tokens, it supplies a name
or a closing bracket where one is missing, and it ends a line early; a line end
inside a run is dropped with it.  Each step mends the place where reading stops,
and counts only if reading gets beyond the token behind it.

Nothing is claimed about the repaired text but that its lines can be read: the
repair serves to name a place.
-/

inductive Mark where
  | kept
  | dropped
  | supplied
  deriving DecidableEq, Repr

/-- What stands between a token and the one before it. -/
inductive Gap where
  | joined
  /-- A line feed, which ends a line outside brackets. -/
  | feed
  /-- A line end that the repair supplies. -/
  | supplied
  deriving DecidableEq, Repr

/-- A token with what a repair makes of it. -/
structure Cell where
  token : Token
  mark : Mark
  gap : Gap
  deriving Repr

/-- The cells of tokens that are left as they are. -/
def cellsFrom (behind : Text.Position) : List Token -> List Cell
  | [] => []
  | token :: rest =>
    let gap := if behind.row < token.span.start.row &&
      !token.before.any (fun extra => extra.kind == .continuation) then .feed else .joined
    ⟨token, .kept, gap⟩ :: cellsFrom token.span.stop rest

/-- How many brackets are open behind a token. -/
def depthBehind (depth : Nat) (token : Token) : Nat :=
  if token.kind = .symbol then
    if ["(", "[", "\x7b"].contains token.text then depth + 1
    else if [")", "]", "\x7d"].contains token.text then depth - 1
    else depth
  else depth

/-- The lines that cells amount to, given the brackets that are open and the
tokens of the line so far, which run backwards. -/
def linesFrom (depth : Nat) (current : List Token) : List Cell -> List (List Token)
  | [] => if current.isEmpty then [] else [current.reverse]
  | ⟨_, .dropped, _⟩ :: rest => linesFrom depth current rest
  | ⟨token, _, gap⟩ :: rest =>
    if gap ≠ .joined && depth = 0 && !current.isEmpty then
      current.reverse :: linesFrom (depthBehind 0 token) [token] rest
    else linesFrom (depthBehind depth token) (token :: current) rest

/-- The failure of a line, read as a statement or as a case of a match statement. -/
def lineFault? (first : Token) (more : List Token) : Option Fault :=
  let line : Line := ⟨0, first, more, []⟩
  match line.read (first.text == "case") with
  | .ok _ => none
  | .error _ =>
    match line.read false with
    | .ok _ => none
    | .error fault => some fault

/-- Where reading stops: before the token of an index, or at the line end there. -/
structure Stop where
  index : Nat
  atEnd : Bool
  deriving DecidableEq, Repr

/-- A measure of how far reading gets; the line end stands before the token. -/
def Stop.reach (stop : Stop) : Nat := 2 * stop.index + (if stop.atEnd then 0 else 1)

/-- The first stop in the lines that begin at or before a goal. -/
def stopIn (goal : Text.Position) (before : Nat) : List (List Token) -> Option Stop
  | [] => none
  | [] :: rest => stopIn goal before rest
  | (first :: more) :: rest =>
    if goal.offset < first.span.start.offset then none
    else
      let behind := before + more.length + 1
      match lineFault? first more with
      | none => stopIn goal behind rest
      | some fault => some ⟨behind - fault.ahead.length, fault.ahead.isEmpty⟩

/-- The number of phrases in a run of tokens.  An expression counts once; a stray
character does not count. -/
def pieces : Nat -> List Token -> Nat
  | 0, _ => 0
  | _, [] => 0
  | limit + 1, token :: rest =>
    match Reader.expression .whole ⟨token.span.start, token :: rest⟩ with
    | .ok (_, feed) => 1 + pieces limit feed.ahead
    | .error _ => (if token.kind = .stray then 0 else 1) + pieces limit rest

/-- The price of dropping tokens between two places: every drop, every phrase,
every line and every character has a price. -/
def dropPrice (span : Text.Span) (phrases : Nat) : Nat :=
  500 + 100 * phrases + 30 * (span.stop.row - span.start.row) +
    (span.stop.offset - span.start.offset)

/-- The price of a token or a line end that is supplied. -/
def supplyPrice : Nat := 610

/-- The price of a run of dropped tokens. -/
def runPrice : List Token -> Nat
  | [] => 0
  | first :: more =>
    let last := (first :: more).getLast (by simp)
    dropPrice ⟨first.span.start, last.span.stop⟩ (pieces (more.length + 1) (first :: more))

/-- The price of a repair, given the run of dropped tokens so far, which runs
backwards. -/
def priceFrom (run : List Token) : List Cell -> Nat
  | [] => runPrice run.reverse
  | ⟨token, .dropped, _⟩ :: rest => priceFrom (token :: run) rest
  | ⟨_, mark, gap⟩ :: rest =>
    runPrice run.reverse + (if mark = .supplied then supplyPrice else 0) +
      (if gap = .supplied then supplyPrice else 0) + priceFrom [] rest

/-- A repair with its price, and how far reading has to get with it. -/
structure Repair where
  cells : List Cell
  price : Nat
  need : Nat

namespace Repair

def ofCells (cells : List Cell) (need : Nat) : Repair :=
  ⟨cells, priceFrom [] cells, need⟩

/-- The first token that is dropped or supplied, if there is one. -/
def place (repair : Repair) : Option Text.Position :=
  (repair.cells.find? fun cell => cell.mark ≠ .kept).map fun cell => cell.token.span.start

/-- How many characters stand before the place where a repair begins. -/
def offset (repair : Repair) : Nat :=
  match repair.place with
  | some place => place.offset
  | none => 0

/-- Of two repairs the cheaper comes first, and of two equally cheap ones the
one that begins later. -/
def comesBefore (first second : Repair) : Bool :=
  first.price < second.price ||
    (first.price = second.price && second.offset ≤ first.offset)

/-- Put a repair behind those that come before it. -/
def insert (repair : Repair) : List Repair -> List Repair
  | [] => [repair]
  | head :: tail =>
    if head.comesBefore repair then head :: repair.insert tail else repair :: head :: tail

end Repair

/-- Drop so many of the tokens that are left, behind so many others. -/
def dropSome : Nat -> Nat -> List Cell -> List Cell
  | _, _, [] => []
  | skip, count, cell :: rest =>
    if cell.mark = .dropped then cell :: dropSome skip count rest
    else match skip, count with
      | skip + 1, count => cell :: dropSome skip count rest
      | 0, count + 1 => { cell with mark := .dropped } :: dropSome 0 count rest
      | 0, 0 => cell :: rest

/-- Change what stands before the token of an index. -/
def withGap (gap : Gap) : Nat -> List Cell -> List Cell
  | _, [] => []
  | index, cell :: rest =>
    if cell.mark = .dropped then cell :: withGap gap index rest
    else match index with
      | 0 => { cell with gap := gap } :: rest
      | index + 1 => cell :: withGap gap index rest

/-- Put a cell behind so many of the tokens that are left. -/
def insertBehind (new : Cell) : Nat -> List Cell -> List Cell
  | 0, cells => new :: cells
  | _, [] => [new]
  | index + 1, cell :: rest =>
    if cell.mark = .dropped then cell :: insertBehind new (index + 1) rest
    else cell :: insertBehind new index rest

/-- The ways to mend a stop, given the tokens that are not dropped. -/
structure Site where
  cells : List Cell
  tokens : List Token
  stop : Stop

namespace Site

/-- The token of an index, if it is spelled in one of the given ways. -/
def hasAt (site : Site) (index : Nat) (texts : List String) : Bool :=
  site.tokens[index]?.any fun token => texts.contains token.text

/-- How many brackets are open before the token of an index. -/
def depthAt (site : Site) (index : Nat) : Nat := (site.tokens.take index).foldl depthBehind 0

/-- How many brackets are open at the stop. -/
def depth (site : Site) : Nat := site.depthAt site.stop.index

/-- Whether the stop is at the second of two like separators with an element
behind them.  Then the first is one too many. -/
def isDoubled (site : Site) : Bool :=
  let index := site.stop.index
  [",", ".", ";"].any (fun text =>
    0 < index && site.hasAt (index - 1) [text] && site.hasAt index [text]) &&
    index + 1 < site.tokens.length && !site.hasAt (index + 1) [")", "]", "\x7d"]

/-- What stands before the token of an index. -/
def gapAt (site : Site) (index : Nat) : Gap :=
  match (site.cells.filter fun cell => cell.mark ≠ .dropped).drop index with
  | cell :: _ => cell.gap
  | [] => .joined

/-- Whether a line begins with the token of an index. -/
def beginsLine (site : Site) (index : Nat) : Bool :=
  index = 0 || (site.gapAt index ≠ .joined && site.depthAt index = 0)

/-- How many tokens a step may drop on either side of the stop. -/
def window : Nat := 6

/-- Drop tokens on both sides of the stop.  The token behind them stands where
the first of them stood. -/
def drops (site : Site) : List Repair :=
  let index := site.stop.index
  (List.range (window + 1)).flatMap fun back =>
    (List.range (window + 1)).filterMap fun skip =>
      let first := index - back
      if index < back || back + skip = 0 || site.tokens.length ≤ index + skip then none
      else if back = 0 && skip = 1 && !site.stop.atEnd && site.isDoubled then none
      else
        let cells := dropSome first (back + skip) site.cells
        some (.ofCells (withGap (site.gapAt first) first cells) (2 * first + 1))

/-- Drop tokens before a line end that stays, but not the whole line. -/
def dropsAtEnd (site : Site) : List Repair :=
  let index := site.stop.index
  if site.stop.atEnd && site.depth = 0 then
    (List.range window).filterMap fun back =>
      let first := index - (back + 1)
      if index < back + 1 || site.beginsLine first then none
      else some (.ofCells (dropSome first (back + 1) site.cells) (2 * first))
  else []

/-- The place behind the last token before the stop. -/
def behind (site : Site) : Text.Position :=
  match (site.tokens.take site.stop.index).getLast? with
  | some token => token.span.stop
  | none => site.tokens.head?.elim .origin fun token => token.span.start

/-- Supply a token before the stop.  The token there, unless it is a line end, is
then on the same line. -/
def supply (site : Site) (kind : LexemeKind) (text : String) : Repair :=
  let index := site.stop.index
  let token : Token := ⟨kind, text, ⟨site.behind, site.behind⟩, []⟩
  let gap := if site.beginsLine index && !site.stop.atEnd then site.gapAt index else .joined
  let cells := if site.stop.atEnd then site.cells else withGap .joined index site.cells
  .ofCells (insertBehind ⟨token, .supplied, gap⟩ index cells) (site.stop.reach + 2)

/-- Supply a name or a closing bracket.  The name of a definition is never
supplied, nor anything at the end of the text inside brackets. -/
def supplies (site : Site) : List Repair :=
  let index := site.stop.index
  if site.stop.atEnd && 0 < site.depth then []
  else
    (if 0 < index && site.hasAt (index - 1) ["def", "class"] then []
      else [site.supply .name "_"]) ++
    (if site.depth = 0 then [] else [")", "]", "\x7d"].map (site.supply .symbol))

/-- End the line before the stop. -/
def splits (site : Site) : List Repair :=
  if site.stop.atEnd || 0 < site.depth || site.stop.index = 0 then []
  else [.ofCells (withGap .supplied site.stop.index site.cells) site.stop.reach]

def repairs (site : Site) : List Repair :=
  site.drops ++ site.dropsAtEnd ++ site.supplies ++ site.splits

end Site

/-- Try repairs in their order, below a price and so many times. -/
def cheapestRepair (goal : Text.Position) (bound : Nat) : Nat -> List Repair -> Option Repair
  | 0, _ => none
  | _, [] => none
  | limit + 1, repair :: others =>
    if bound ≤ repair.price then none
    else
      match stopIn goal 0 (linesFrom 0 [] repair.cells) with
      | none => some repair
      | some stop =>
        if stop.reach ≤ repair.need then
          cheapestRepair goal bound limit others
        else
          let tokens := (repair.cells.filter fun cell => cell.mark ≠ .dropped).map Cell.token
          let site : Site := ⟨repair.cells, tokens, stop⟩
          cheapestRepair goal bound limit
            (site.repairs.foldl (fun queue next => next.insert queue) others)

/-- How many tokens behind the broken line a repair sees. -/
def outlook : Nat := 16

/-- How many repairs are tried. -/
def patience : Nat := 160

/-- The deepest stack of phrases that is given up as a whole. -/
def reachBack : Nat := 4

/-- The place to report for the broken first line among rows, given the place
where the text begins.  Where no repair is cheaper than to drop all that
follows, the line is given up, or the whole text if the line is nested. -/
def faultPlace (start : Text.Position) (line : Line) (below : List Token) (fault : Fault) :
    Option Text.Position :=
  let own := line.tokens
  let rest := own ++ below
  let last := rest.getLast (by simp [rest, own, Line.tokens])
  let goal := (own.getLast (by simp [own, Line.tokens])).span.start
  match lineFault? line.first line.more with
  | none => some (match fault.ahead with
    | token :: _ => token.span.start
    | [] => fault.behind)
  | some _ =>
    let bound := dropPrice ⟨line.first.span.start, last.span.stop⟩ rest.length
    let whole : Repair := ⟨cellsFrom line.first.span.start (own ++ below.take outlook), 0, 0⟩
    match cheapestRepair goal bound patience [whole] with
    | some repair => repair.place
    | none =>
      some (if line.indent = 0 && pieces own.length own ≤ reachBack then line.first.span.start
        else start)

end Source
end ImportCensus
